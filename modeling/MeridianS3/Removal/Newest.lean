import MeridianS3.Deposit.First

namespace MeridianS3

open Effect ObjectStore Json

section Newest

variable {provider : Provider} {adapter : S3ObjectAdapter} {hashed : Set Bytes}
variable {bucket after : Bucket} {request : DeleteRequest} {resource : ResourceRef}
variable {objectId : String} {content : HexDigest}

namespace S3ObjectAdapter

variable (adapter : S3ObjectAdapter) (bucket : Bucket) (resource : ResourceRef) (objectId : String)

-- A version of an object, as its reference records it.
def Version (content : HexDigest) (envelope : StoredEnvelope) : Prop :=
  adapter.layout.Recorded bucket (adapter.layout.resourceToken resource)
    (adapter.layout.objectToken objectId) content envelope

def versionKey (content : HexDigest) : String :=
  adapter.layout.path (.reference (adapter.layout.resourceToken resource)
    (adapter.layout.objectToken objectId) content)

-- The texts of the creation times are in the order of the times.
def RendersInOrder : Prop :=
  ∀ first older second newer, adapter.Version bucket resource objectId first older →
    adapter.Version bucket resource objectId second newer →
    (adapter.rank older < adapter.rank newer ↔
      older.metadata.createdAt < newer.metadata.createdAt)

-- The pointer names a newest one of the versions, and is absent if there is none.
structure NamesNewest : Prop where
  newest : (∃ content, bucket.entries (adapter.versionKey resource objectId content) ≠ []) →
    ∃ content envelope, adapter.layout.Points bucket (adapter.layout.resourceToken resource)
        (adapter.layout.objectToken objectId) content ∧
      adapter.Version bucket resource objectId content envelope ∧
      ∀ other found, adapter.Version bucket resource objectId other found →
        found.metadata.createdAt ≤ envelope.metadata.createdAt
  absent : bucket.current (adapter.layout.latestKey resource objectId) = none ↔
    ∀ content, bucket.entries (adapter.versionKey resource objectId content) = []

-- There is no other version, or a newest one of the others is among the keys that the scan
-- of the references gets to.
def ScansNewest (content : HexDigest) : Prop :=
  (∀ other, other ≠ content → bucket.entries (adapter.versionKey resource objectId other) = []) ∨
    ∃ other envelope, other ≠ content ∧ adapter.Version bucket resource objectId other envelope ∧
      adapter.versionKey resource objectId other ∈
        (keysUnder bucket (adapter.layout.versionPrefix resource objectId) none).take
          (1000 * MAX_INTERNAL_LIST_PAGES) ∧
      ∀ next found, next ≠ content → adapter.Version bucket resource objectId next found →
        found.metadata.createdAt ≤ envelope.metadata.createdAt

end S3ObjectAdapter

namespace S3ObjectAdapter

-- The version that a scan selects is among the keys that it gets to, and none of the others
-- that it gets to is newer.
theorem newestIn_maximal (hsound : adapter.layout.Sound hashed bucket)
    (horder : adapter.RendersInOrder bucket resource objectId) {newest : StoredEnvelope}
    (h : adapter.newestIn bucket resource objectId (some content.digest) = .ok (some newest)) :
    ∃ found, found ≠ content ∧ adapter.Version bucket resource objectId found newest ∧
      newest.metadata.digest = found.digest ∧
      adapter.versionKey resource objectId found ∈
        (keysUnder bucket (adapter.layout.versionPrefix resource objectId) none).take
          (1000 * MAX_INTERNAL_LIST_PAGES) ∧
      ∀ other envelope, other ≠ content → adapter.Version bucket resource objectId other envelope →
        adapter.versionKey resource objectId other ∈
          (keysUnder bucket (adapter.layout.versionPrefix resource objectId) none).take
            (1000 * MAX_INTERNAL_LIST_PAGES) →
        envelope.metadata.createdAt ≤ newest.metadata.createdAt := by
  have hreads := newestInPages_ok_iff.mp ⟨some newest, h⟩
  rw [newestIn_eq] at h
  obtain ⟨-, hmaximal⟩ := newestInPage_maximal h
  rcases newestInPage_some h with hnone | ⟨key, hmem, hscanned, hdigest⟩
  · cases hnone
  obtain ⟨found, rfl, hrecorded, hfound⟩ :=
    scanned_version hsound (List.mem_of_mem_take hmem) hscanned
  refine ⟨found, ?_, hrecorded, hfound, hmem, ?_⟩
  · rintro rfl
    exact hdigest (congrArg some hfound)
  · intro other envelope hother hversion htaken
    obtain ⟨read, hread⟩ := hreads _ htaken
    obtain rfl := scanned_recorded hversion hread
    have hdiffers : some read.metadata.digest ≠ some content.digest := by
      rw [(hsound.envelopeOf hversion).digest]
      exact fun he => hother (HexDigest.digest_inj.mp (Option.some.inj he))
    have hrank := hmaximal _ htaken read hread hdiffers
    by_contra hlater
    have hless := (horder _ _ _ _ hrecorded hversion).mpr (Nat.lt_of_not_le hlater)
    exact absurd hless (not_lt.mpr hrank)

end S3ObjectAdapter

namespace Removal

variable {removal : Removal}

-- What an acknowledged delete leaves of the references and of the pointer.
theorem pointer_left (hversioned : bucket.versioned = false) (hmoves : removal.moves = true)
    (hsame : SameObjects (removal.reach provider bucket .evidence) after) :
    match removal.previous with
    | some previous => ∃ stored, after.current removal.latestPath = some stored ∧
        stored.body =
          removal.adapter.common.canonicalJsonBytes (latestValue previous.metadata.digest)
    | none => after.current removal.latestPath = none := by
  have hcurrent : after.current removal.latestPath =
      (removal.movePointer provider (removal.referenceGone provider bucket)).current
        removal.latestPath := by
    rw [hsame.current]
    apply Store.current_congr
    change (removal.recordEvidence (removal.pointerMoved provider bucket)).entries _ = _
    rw [removal.recordEvidence_entries _ removal.evidencePath_ne_latestPath.symm, pointerMoved,
      if_pos hmoves]
  have hunversioned : (removal.referenceGone provider bucket).versioned = false := by
    rw [referenceGone_versioned, hversioned]
  rw [hcurrent]
  exact removal.movePointer_latest _ hunversioned

theorem Finds.references_left (h : removal.Finds unfailing bucket)
    (hsame : SameObjects (removal.reach provider bucket .evidence) after) (other : HexDigest) :
    after.entries (removal.adapter.versionKey removal.request.resource removal.reference.objectId
        other) = if other = removal.content then [] else
      bucket.entries (removal.adapter.versionKey removal.request.resource
        removal.reference.objectId other) := by
  rw [hsame.entries]
  split
  · subst other
    exact Removal.reference_gone h ⟨by simp, by simp⟩
  · rename_i hne
    apply removal.reach_entries provider bucket .evidence
    · simp [S3ObjectAdapter.versionKey, blobPath]
    · simp [S3ObjectAdapter.versionKey, referencePath, hne]
    · simp [S3ObjectAdapter.versionKey, latestPath]
    · simp [S3ObjectAdapter.versionKey, evidencePath]

theorem Finds.version_left (h : removal.Finds unfailing bucket)
    (hsame : SameObjects (removal.reach provider bucket .evidence) after) (other : HexDigest)
    (envelope : StoredEnvelope) :
    removal.adapter.Version after removal.request.resource removal.reference.objectId other
        envelope ↔ other ≠ removal.content ∧ removal.adapter.Version bucket
          removal.request.resource removal.reference.objectId other envelope := by
  have hleft := h.references_left hsame other
  constructor
  · intro hversion
    have hne : other ≠ removal.content := by
      intro he
      rw [if_pos he] at hleft
      exact S3Layout.recorded_entries hversion hleft
    rw [if_neg hne] at hleft
    exact ⟨hne, S3Layout.recorded_congr hleft.symm hversion⟩
  · rintro ⟨hne, hversion⟩
    rw [if_neg hne] at hleft
    exact S3Layout.recorded_congr hleft hversion

theorem Finds.names_newest_iff (hsound : removal.adapter.layout.Sound hashed bucket)
    (hversioned : bucket.versioned = false) (h : removal.Finds unfailing bucket)
    (hmoves : removal.moves = true)
    (horder : removal.adapter.RendersInOrder bucket removal.request.resource
      removal.reference.objectId)
    (hsame : SameObjects (removal.reach provider bucket .evidence) after) :
    removal.adapter.NamesNewest after removal.request.resource removal.reference.objectId ↔
      removal.adapter.ScansNewest bucket removal.request.resource removal.reference.objectId
        removal.content := by
  have hpointer := removal.pointer_left hversioned hmoves hsame
  have hentries := h.references_left hsame
  have hversions := h.version_left hsame
  have hscan := h.previous
  have hkey : removal.latestPath = removal.adapter.layout.latestKey removal.request.resource
      removal.reference.objectId := rfl
  cases hprevious : removal.previous with
  | none =>
      rw [hprevious] at hpointer hscan
      have hnone : ∀ other, other ≠ removal.content → bucket.entries (removal.adapter.versionKey
          removal.request.resource removal.reference.objectId other) = [] := by
        intro other hne
        by_contra hstored
        have hexcluded := S3ObjectAdapter.newestIn_none hsound hscan other hstored
        exact hne (HexDigest.digest_inj.mp (Option.some.inj hexcluded))
      have hempty (other : HexDigest) : after.entries (removal.adapter.versionKey
          removal.request.resource removal.reference.objectId other) = [] := by
        rw [hentries]
        split
        · rfl
        · exact hnone other ‹_›
      refine iff_of_true ⟨?_, iff_of_true (hkey ▸ hpointer) hempty⟩ (Or.inl hnone)
      rintro ⟨other, hstored⟩
      exact absurd (hempty other) hstored
  | some previous =>
      rw [hprevious] at hpointer hscan
      obtain ⟨stored, hcurrent, hbody⟩ := hpointer
      obtain ⟨found, hne, hrecorded, hdigest, htaken, hmaximal⟩ :=
        S3ObjectAdapter.newestIn_maximal hsound horder hscan
      have hpoints : removal.adapter.layout.Points after removal.resource removal.object found :=
        ⟨stored, hcurrent, by rw [hbody, hdigest]; rfl⟩
      have hkept := (hversions found previous).mpr ⟨hne, hrecorded⟩
      have hstored := S3Layout.recorded_entries hkept
      constructor
      · rintro ⟨hnewest, -⟩
        obtain ⟨content, envelope, hnamed, hversion, hlatest⟩ := hnewest ⟨found, hstored⟩
        obtain rfl := S3Layout.points_unique hpoints hnamed
        obtain rfl := S3Layout.recorded_unique hkept hversion
        refine Or.inr ⟨found, previous, hne, hrecorded, htaken, fun next other hnext hother => ?_⟩
        exact hlatest next other ((hversions next other).mpr ⟨hnext, hother⟩)
      · rintro (hnone | ⟨other, envelope, hother, hversion, hlisted, hlatest⟩)
        · exact absurd (hnone found hne) (S3Layout.recorded_entries hrecorded)
        · refine ⟨fun _ => ⟨found, previous, hpoints, hkept, fun next version hnext => ?_⟩, ?_⟩
          · obtain ⟨hdiffers, hbefore⟩ := (hversions next version).mp hnext
            exact (hlatest next version hdiffers hbefore).trans
              (hmaximal other envelope hother hversion hlisted)
          · rw [← hkey, hcurrent]
            exact iff_of_false (by simp) fun hempty => hstored (hempty found)

end Removal

-- The delete of the version that the pointer names leaves the pointer at a newest one of the
-- others exactly when the scan, which is limited, gets to one of these.
theorem delete_names_newest_iff {reference : ObjectReference}
    (hsound : adapter.layout.Sound hashed bucket) (hversioned : bucket.versioned = false)
    (hnames : adapter.Names request reference content)
    (hpoints : adapter.layout.Points bucket (adapter.layout.resourceToken request.resource)
      (adapter.layout.objectToken reference.objectId) content)
    (horder : adapter.RendersInOrder bucket request.resource reference.objectId)
    (hdeleted : (adapter.delete request).run provider.handle bucket = (.ok true, after)) :
    adapter.NamesNewest after request.resource reference.objectId ↔
      adapter.ScansNewest bucket request.resource reference.objectId content := by
  have hends : DeleteEnds provider adapter request unfailing bucket
      ((adapter.delete request).run provider.handle bucket).1
      ((adapter.delete request).run provider.handle bucket).2 := delete_unfailing hsound
  rw [hdeleted] at hends
  cases hends with
  | completed removal _ hadapter hrequest hfinds _ hsame =>
      subst hadapter hrequest
      obtain ⟨rfl, rfl⟩ := hfinds.named hnames
      have hmoves := hfinds.moves_of_points unfailing_outages hsound hpoints
      exact hfinds.names_newest_iff hsound hversioned hmoves horder hsame

end Newest

-- An object with more versions than a scan gets to.
namespace Standard

-- A hash that starts with a mark and goes on with the digits of a number.
def markedHash (mark : Char) (hmark : mark ∈ HEX_DIGITS) (number : Nat) : HexDigest where
  text := String.ofList (mark :: Codec.Clock.digits 63 number)
  shape := by
    rw [String.toList_ofList, isHex64, List.length_cons, Codec.Clock.length_digits, Bool.and_eq_true,
      decide_eq_true_eq, List.all_eq_true]
    refine ⟨rfl, fun character h => decide_eq_true ?_⟩
    rcases List.mem_cons.mp h with rfl | hdigit
    · exact hmark
    · have hdigits : ∀ digit < 10, Nat.digitChar digit ∈ HEX_DIGITS := by decide
      obtain ⟨digit, hlt, rfl⟩ := Codec.Clock.digits_mem hdigit
      exact hdigits digit hlt

def oldHash (number : Nat) : HexDigest := markedHash '0' (by decide) number

def newHash : HexDigest := markedHash 'e' (by decide) 0

def namedHash : HexDigest := markedHash 'f' (by decide) 0

theorem oldHash_inj {first second : Nat} (hfirst : first < 10 ^ 63) (hsecond : second < 10 ^ 63)
    (h : oldHash first = oldHash second) : first = second := by
  have htext := congrArg (fun hash => hash.text.toList.tail) h
  simp only [oldHash, markedHash, String.toList_ofList, List.tail_cons] at htext
  have hread := congrArg Codec.Clock.readDigits htext
  rwa [Codec.Clock.readDigits_digits, Codec.Clock.readDigits_digits, Nat.mod_eq_of_lt hfirst,
    Nat.mod_eq_of_lt hsecond] at hread

-- The object has a version of this number of old ones each, a newer one, and the newest one.
def crowd (number : Nat) : List HexDigest :=
  namedHash :: newHash :: (List.range number).map oldHash

def createdAt (hash : HexDigest) : Timestamp :=
  if hash = namedHash then 3 else if hash = newHash then 2 else 1

def crowdEnvelope (hash : HexDigest) : StoredEnvelope where
  metadata :=
    { one.metadata with
      objectRef := objectReference hash
      digest := hash.digest
      createdAt := createdAt hash }
  blobVersionId := .null
  retention := none
  integrityChunkBytes := config.integrityChunkBytes
  chunkDigests := [hash.digest]

def crowdPath (hash : HexDigest) : String :=
  adapter.layout.path (.reference (adapter.layout.resourceToken resource)
    (adapter.layout.objectToken "channel") hash)

def crowdDocument (hash : HexDigest) : StoredBody :=
  adapter.transport.jsonObject ((crowdEnvelope hash).toDict common) {}

def crowded : List HexDigest → Bucket
  | [] => Store.empty false
  | hash :: rest => (crowded rest).put (crowdPath hash) (crowdDocument hash)

theorem crowded_versioned (hashes : List HexDigest) : (crowded hashes).versioned = false := by
  induction hashes with
  | nil => rfl
  | cons hash rest ih => exact ih

theorem crowdPath_inj {first second : HexDigest} :
    crowdPath first = crowdPath second ↔ first = second := by
  simp [crowdPath]

theorem crowded_current {hashes : List HexDigest} {hash : HexDigest} (h : hash ∈ hashes) :
    (crowded hashes).current (crowdPath hash) = some (crowdDocument hash) := by
  induction hashes with
  | nil => exact absurd h List.not_mem_nil
  | cons next rest ih =>
      by_cases he : hash = next
      · subst he
        exact Store.put_current_self ..
      · rw [crowded, Store.current_congr (Store.put_entries_of_ne _ (crowdPath_inj.not.mpr he) _)]
        exact ih (List.mem_of_ne_of_mem he h)

theorem crowded_entries {hashes : List HexDigest} {key : String}
    (h : ∀ hash ∈ hashes, key ≠ crowdPath hash) : (crowded hashes).entries key = [] := by
  induction hashes with
  | nil => rfl
  | cons next rest ih =>
      rw [crowded, Store.put_entries_of_ne _ (h next List.mem_cons_self)]
      exact ih fun hash hmem => h hash (List.mem_cons_of_mem _ hmem)

theorem crowdEnvelope_proper (hash : HexDigest) :
    adapter.layout.EnvelopeOf hashed false (adapter.layout.objectToken "channel") hash
      (crowdEnvelope hash) where
  canonical := StoredEnvelope.toDict_canonical _ rfl fun _ h => nomatch h
  hashed := objectId_hashed
  object := rfl
  digest := rfl
  version := ⟨none, rfl, rfl⟩

theorem crowded_sound {hashes : List HexDigest} (hnodup : hashes.Nodup) :
    adapter.layout.Sound hashed (crowded hashes) := by
  induction hashes with
  | nil => exact S3Layout.sound_empty _ _ _
  | cons next rest ih =>
      obtain ⟨hnew, hrest⟩ := List.nodup_cons.mp hnodup
      have hproper : adapter.layout.Proper hashed (crowded rest).versioned
          (.reference (adapter.layout.resourceToken resource) (adapter.layout.objectToken "channel")
            next) (crowdDocument next) := by
        rw [crowded_versioned]
        exact ⟨crowdEnvelope next, crowdEnvelope_proper next, rfl⟩
      have habsent : (crowded rest).current (crowdPath next) = none := by
        apply Store.current_eq_none
        apply crowded_entries
        rintro hash hmem he
        exact hnew (crowdPath_inj.mp he ▸ hmem)
      exact (ih hrest).put hproper fun _ => habsent

-- The pointer names the newest one of them.
def crowdedBucket (hashes : List HexDigest) : Bucket :=
  (crowded hashes).put (adapter.layout.latestKey resource "channel")
    (adapter.transport.jsonObject (latestValue namedHash.digest) {})

section Crowded

variable {hashes : List HexDigest}

theorem crowdedBucket_versioned : (crowdedBucket hashes).versioned = false :=
  crowded_versioned hashes

theorem crowdedBucket_version (hash : HexDigest) :
    (crowdedBucket hashes).entries (crowdPath hash) = (crowded hashes).entries (crowdPath hash) := by
  apply Store.put_entries_of_ne
  simp [crowdPath, S3Layout.latestKey]

theorem crowdedBucket_sound (hnodup : hashes.Nodup) :
    adapter.layout.Sound hashed (crowdedBucket hashes) := by
  have hproper : adapter.layout.Proper hashed (crowded hashes).versioned
      (.latest (adapter.layout.resourceToken resource) (adapter.layout.objectToken "channel"))
        (adapter.transport.jsonObject (latestValue namedHash.digest) {}) := ⟨namedHash, rfl⟩
  exact (crowded_sound hnodup).put hproper fun h => nomatch h

theorem crowdedBucket_undeleted {resource object content : HexDigest} :
    (crowdedBucket hashes).current (adapter.layout.path (.deletion resource object content)) =
      none := by
  apply Store.current_eq_none
  refine (Store.put_entries_of_ne _ (by simp [S3Layout.latestKey]) _).trans (crowded_entries ?_)
  intro hash _
  simp [crowdPath]

theorem crowdedBucket_points : adapter.layout.Points (crowdedBucket hashes)
    (adapter.layout.resourceToken resource) (adapter.layout.objectToken "channel") namedHash :=
  ⟨_, Store.put_current_self .., rfl⟩

theorem crowdedBucket_recorded {hash : HexDigest} (h : hash ∈ hashes) :
    adapter.layout.Recorded (crowdedBucket hashes) (adapter.layout.resourceToken resource)
      (adapter.layout.objectToken "channel") hash (crowdEnvelope hash) := by
  refine ⟨(crowdEnvelope_proper hash).canonical, crowdDocument hash, ?_, rfl⟩
  exact (Store.current_congr (crowdedBucket_version hash)).trans (crowded_current h)

theorem crowdedBucket_only {hash : HexDigest} {envelope : StoredEnvelope}
    (h : adapter.layout.Recorded (crowdedBucket hashes) (adapter.layout.resourceToken resource)
      (adapter.layout.objectToken "channel") hash envelope) :
    hash ∈ hashes ∧ envelope = crowdEnvelope hash := by
  have hmem : hash ∈ hashes := by
    by_contra hnot
    apply S3Layout.recorded_entries h
    refine (crowdedBucket_version hash).trans (crowded_entries ?_)
    rintro other hother he
    exact hnot (crowdPath_inj.mp he ▸ hother)
  exact ⟨hmem, S3Layout.recorded_unique h (crowdedBucket_recorded hmem)⟩

theorem createdAt_cases (hash : HexDigest) :
    createdAt hash = 1 ∨ createdAt hash = 2 ∨ createdAt hash = 3 := by
  unfold createdAt
  split
  · exact Or.inr (Or.inr rfl)
  · split
    · exact Or.inr (Or.inl rfl)
    · exact Or.inl rfl

-- The same without the digests.
def crowdOutline (time : Timestamp) : StoredEnvelope :=
  { one.envelope none with metadata := { one.metadata with createdAt := time } }

theorem crowdOutline_room {time : Timestamp} (h : time ∈ [1, 2, 3]) :
    Text.room ((rehashed (crowdOutline time) "" []).toDict common) ≤ 10000 := by
  have hroom : ∀ time ∈ [1, 2, 3],
      Text.room ((rehashed (crowdOutline time) "" []).toDict common) ≤ 10000 := by decide
  exact hroom time h

theorem crowdEnvelope_legible (hash : HexDigest) :
    adapter.layout.legible ((crowdEnvelope hash).toDict common) := by
  have hrehashed : crowdEnvelope hash =
      rehashed (crowdOutline (createdAt hash)) hash.digest ([hash].map HexDigest.digest) := rfl
  have hmem : createdAt hash ∈ [1, 2, 3] := by simpa using createdAt_cases hash
  rw [hrehashed]
  exact rehashed_legible hash (by simp) (crowdOutline_room hmem)

theorem crowdedBucket_legible : adapter.layout.Legible (crowdedBucket hashes) := by
  intro physical stored hcurrent _
  by_cases hlatest : adapter.layout.path physical = adapter.layout.latestKey resource "channel"
  · rw [hlatest, crowdedBucket, Store.put_current_self, Option.some.injEq] at hcurrent
    subst hcurrent
    exact legible (by decide)
  · rw [crowdedBucket, Store.current_congr (Store.put_entries_of_ne _ hlatest _)] at hcurrent
    by_cases hversion : ∃ hash ∈ hashes, adapter.layout.path physical = crowdPath hash
    · obtain ⟨hash, hmem, hpath⟩ := hversion
      rw [hpath, crowded_current hmem, Option.some.injEq] at hcurrent
      subst hcurrent
      exact crowdEnvelope_legible hash
    · rw [Store.current_eq_none _ _ (crowded_entries (by simpa using hversion))] at hcurrent
      cases hcurrent

end Crowded

-- The delete of the newest one.
def crowdedRequest : DeleteRequest := deleteRequest namedHash 4

theorem crowdPath_lt (number : Nat) : crowdPath (oldHash number) < crowdPath newHash := by
  have hlt (before first second : List Char) :
      before ++ '0' :: first < before ++ 'e' :: second := by
    exact List.Lex.append_left _ (.rel (by decide)) before
  have hpath (hash : HexDigest) : (crowdPath hash).toList =
      (adapter.layout.versionPrefix resource "channel").toList ++
        (hash.text.toList ++ ".json".toList) := by
    simp [crowdPath, S3Layout.versionPrefix, S3Layout.referencePrefix, S3Layout.path,
      PhysicalKey.render]
  rw [String.lt_iff_toList_lt, hpath, hpath]
  simp only [oldHash, newHash, markedHash, String.toList_ofList, List.cons_append]
  exact hlt _ _ _

section Crowd

variable {number : Nat}

theorem oldHash_mem {index : Nat} (h : index < number) : oldHash index ∈ crowd number := by
  simp only [crowd, List.mem_cons, List.mem_map, List.mem_range]
  exact Or.inr (Or.inr ⟨index, h, rfl⟩)

theorem crowd_nodup (h : number ≤ 10 ^ 63) : (crowd number).Nodup := by
  have hmark (index : Nat) : (oldHash index).text.toList.head? = some '0' := by
    simp [oldHash, markedHash]
  have holds : ((List.range number).map oldHash).Nodup := by
    apply List.nodup_range.map_on
    intro first hfirst second hsecond he
    rw [List.mem_range] at hfirst hsecond
    exact oldHash_inj (by omega) (by omega) he
  have hnew : newHash ∉ (List.range number).map oldHash := by
    intro hmem
    obtain ⟨index, -, he⟩ := List.mem_map.mp hmem
    have hhead := hmark index
    rw [he] at hhead
    exact absurd hhead (by decide)
  have hnamed : namedHash ∉ newHash :: (List.range number).map oldHash := by
    intro hmem
    rcases List.mem_cons.mp hmem with he | hmem
    · exact absurd he (by decide)
    · obtain ⟨index, -, he⟩ := List.mem_map.mp hmem
      have hhead := hmark index
      rw [he] at hhead
      exact absurd hhead (by decide)
  exact List.nodup_cons.mpr ⟨hnamed, List.nodup_cons.mpr ⟨hnew, holds⟩⟩

theorem crowd_names : adapter.Names crowdedRequest (objectReference namedHash) namedHash :=
  ⟨rfl, rfl⟩

-- The delete of the newest version finds it, and nothing is in its way.
theorem crowd_removal (h : number ≤ 10 ^ 63) :
    ∃ removal : Removal, removal.adapter = adapter ∧ removal.request = crowdedRequest ∧
      removal.reference = objectReference namedHash ∧ removal.content = namedHash ∧
      removal.Finds unfailing (crowdedBucket (crowd number)) := by
  have hrecorded := crowdedBucket_recorded (show namedHash ∈ crowd number by simp [crowd])
  have hallowed : adapter.requireDeleteAllowed (crowdEnvelope namedHash) crowdedRequest.checkedAt =
      .ok () := rfl
  exact Removal.found_legible crowdedBucket_legible (crowdedBucket_sound (crowd_nodup h))
    collisionFree objectId_hashed crowd_names ⟨_, hrecorded, hallowed⟩

theorem crowdedBucket_in_order {hashes : List HexDigest} :
    adapter.RendersInOrder (crowdedBucket hashes) resource "channel" := by
  intro first older second newer hfirst hsecond
  have htimes : ∀ first ∈ [1, 2, 3], ∀ second ∈ [1, 2, 3],
      (common.timestampStr first < common.timestampStr second ↔ first < second) := by
    decide
  have hmem (hash : HexDigest) : createdAt hash ∈ [1, 2, 3] := by
    simpa using createdAt_cases hash
  rw [(crowdedBucket_only hfirst).2, (crowdedBucket_only hsecond).2]
  exact htimes _ (hmem first) _ (hmem second)

-- The old versions keep the new one out of the pages of the scan.
theorem crowd_not_scanned (h : number ≤ 10 ^ 63)
    (hpages : 1000 * MAX_INTERNAL_LIST_PAGES ≤ number) :
    ¬adapter.ScansNewest (crowdedBucket (crowd number)) resource "channel" namedHash := by
  have hne : newHash ≠ namedHash := by decide
  have hrecorded := crowdedBucket_recorded (show newHash ∈ crowd number by simp [crowd])
  rintro (hnone | ⟨other, envelope, hother, hversion, hlisted, hnewest⟩)
  · exact S3Layout.recorded_entries hrecorded (hnone newHash hne)
  · have hlate := hnewest newHash _ hne hrecorded
    obtain ⟨-, rfl⟩ := crowdedBucket_only hversion
    have hcreated : createdAt newHash ≤ createdAt other := hlate
    have htime : createdAt newHash = 2 := by decide
    obtain rfl : other = newHash := by
      by_contra hdiffers
      rw [htime, createdAt, if_neg hother, if_neg hdiffers] at hcreated
      exact absurd hcreated (by decide)
    have hnodup : ((List.range number).map fun index => crowdPath (oldHash index)).Nodup := by
      apply List.nodup_range.map_on
      intro first hfirst second hsecond he
      rw [List.mem_range] at hfirst hsecond
      have hhash : oldHash first = oldHash second := crowdPath_inj.mp he
      exact oldHash_inj (by omega) (by omega) hhash
    have hbelow := Store.length_lt_of_mem_take (Store.listed_sorted _ _ _) hlisted hnodup
      (fun key hkey => by
        obtain ⟨index, hindex, rfl⟩ := List.mem_map.mp hkey
        have hmem := oldHash_mem (List.mem_range.mp hindex)
        exact ⟨S3ObjectAdapter.reference_mem_keysUnder (crowdedBucket_recorded hmem),
          crowdPath_lt index⟩)
    rw [List.length_map, List.length_range] at hbelow
    exact absurd hbelow (Nat.not_lt.mpr hpages)

theorem crowd_deleted (h : number ≤ 10 ^ 63) :
    ∃ removal : Removal, removal.adapter = adapter ∧ removal.request = crowdedRequest ∧
      removal.reference = objectReference namedHash ∧ removal.content = namedHash ∧
      removal.Finds unfailing (crowdedBucket (crowd number)) ∧
      ((adapter.delete crowdedRequest).run provider.handle (crowdedBucket (crowd number))).1 =
        .ok true ∧
      SameObjects (removal.reach provider (crowdedBucket (crowd number)) .evidence)
        ((adapter.delete crowdedRequest).run provider.handle (crowdedBucket (crowd number))).2 := by
  obtain ⟨removal, hadapter, hrequest, hreference, hcontent, hfinds⟩ := crowd_removal h
  have hsound := crowdedBucket_sound (crowd_nodup h)
  have hversioned : (crowdedBucket (crowd number)).versioned = false := crowdedBucket_versioned
  rw [← hadapter] at hsound
  have haccepted (error : Failure) : (provider.handle (.deleteObject removal.blobPath
      removal.version) (crowdedBucket (crowd number))).1 ≠ .error error :=
    hfinds.accepted hsound hversioned error
  have hevidence : (crowdedBucket (crowd number)).current removal.evidencePath = none := by
    rw [Removal.evidencePath, hadapter]
    exact crowdedBucket_undeleted
  have hdeleted := hfinds.completes hsound haccepted hevidence
  have hsame := hfinds.carried_out hsound haccepted
  rw [hadapter, hrequest] at hdeleted hsame
  exact ⟨removal, hadapter, hrequest, hreference, hcontent, hfinds, hdeleted, hsame⟩

-- Where the scan gets to all of them, the new one takes the place of the newest one.
theorem crowd_scanned (h : number ≤ 10 ^ 63)
    (hpages : number + 2 ≤ 1000 * MAX_INTERNAL_LIST_PAGES) :
    adapter.ScansNewest (crowdedBucket (crowd number)) resource "channel" namedHash := by
  have hsound := crowdedBucket_sound (crowd_nodup h)
  have hrecorded := crowdedBucket_recorded (show newHash ∈ crowd number by simp [crowd])
  refine Or.inr ⟨newHash, _, by decide, hrecorded, ?_, ?_⟩
  · have hkeys : S3ObjectAdapter.keysUnder (crowdedBucket (crowd number))
        (adapter.layout.versionPrefix resource "channel") none ⊆ (crowd number).map crowdPath := by
      intro key hmem
      obtain ⟨content, envelope, rfl, hversion⟩ := S3ObjectAdapter.mem_keysUnder hsound hmem
      exact List.mem_map_of_mem (crowdedBucket_only hversion).1
    have hcrowd : (crowd number).length = number + 2 := by simp [crowd]
    have hlength := (S3ObjectAdapter.keysUnder_nodup _ _).length_le_of_subset hkeys
    rw [List.length_map, hcrowd] at hlength
    rw [List.take_of_length_le (hlength.trans hpages)]
    exact S3ObjectAdapter.reference_mem_keysUnder hrecorded
  · intro next found hnext hversion
    rw [(crowdedBucket_only hversion).2]
    change createdAt next ≤ createdAt newHash
    rw [createdAt, if_neg hnext]
    split <;> decide

theorem crowd_kept (h : number ≤ 10 ^ 63) :
    ((adapter.delete crowdedRequest).run provider.handle (crowdedBucket (crowd number))).2.entries
      (adapter.versionKey resource "channel" newHash) ≠ [] := by
  obtain ⟨removal, hadapter, hrequest, hreference, hcontent, hfinds, -, hsame⟩ := crowd_deleted h
  have hleft := hfinds.references_left hsame newHash
  rw [hadapter, hrequest, hreference, hcontent, if_neg (by decide)] at hleft
  rw [show crowdedRequest.resource = resource from rfl,
    show (objectReference namedHash).objectId = "channel" from rfl] at hleft
  rw [hleft]
  exact S3Layout.recorded_entries (crowdedBucket_recorded (by simp [crowd]))

end Crowd

-- The newest of five versions is deleted, and the pointer is put back.
theorem crowd_delete_restores :
    adapter.NamesNewest ((adapter.delete crowdedRequest).run provider.handle
        (crowdedBucket (crowd 3))).2 resource "channel" ∧
      ∃ content, adapter.layout.Points ((adapter.delete crowdedRequest).run provider.handle
          (crowdedBucket (crowd 3))).2 (adapter.layout.resourceToken resource)
        (adapter.layout.objectToken "channel") content := by
  have hnumber : 3 ≤ 10 ^ 63 := by decide
  obtain ⟨-, -, -, -, -, -, hdeleted, -⟩ := crowd_deleted hnumber
  have hkept := crowd_kept hnumber
  generalize hrun : (adapter.delete crowdedRequest).run provider.handle
    (crowdedBucket (crowd 3)) = run at hdeleted hkept ⊢
  obtain ⟨result, after⟩ := run
  obtain rfl : result = .ok true := hdeleted
  have hnewest : adapter.NamesNewest after resource "channel" :=
    (delete_names_newest_iff (crowdedBucket_sound (crowd_nodup hnumber)) crowdedBucket_versioned
      crowd_names crowdedBucket_points crowdedBucket_in_order hrun).mpr
        (crowd_scanned hnumber (by decide))
  obtain ⟨content, -, hpoints, -⟩ := hnewest.newest ⟨newHash, hkept⟩
  exact ⟨hnewest, content, hpoints⟩

theorem crowd_misses {number : Nat} (h : number ≤ 10 ^ 63)
    (hpages : 1000 * MAX_INTERNAL_LIST_PAGES ≤ number) :
    ¬adapter.NamesNewest ((adapter.delete crowdedRequest).run provider.handle
      (crowdedBucket (crowd number))).2 resource "channel" := by
  obtain ⟨removal, hadapter, hrequest, hreference, hcontent, hfinds, -, hsame⟩ := crowd_deleted h
  have hsound := crowdedBucket_sound (crowd_nodup h)
  rw [← hadapter] at hsound
  have hmoves : removal.moves = true := by
    apply hfinds.moves_of_points unfailing_outages hsound
    rw [Removal.resource, Removal.object, hadapter, hrequest, hreference, hcontent]
    exact crowdedBucket_points
  have horder : removal.adapter.RendersInOrder (crowdedBucket (crowd number))
      removal.request.resource removal.reference.objectId := by
    rw [hadapter, hrequest, hreference]
    exact crowdedBucket_in_order
  have hrestores := hfinds.names_newest_iff hsound crowdedBucket_versioned hmoves horder hsame
  rw [hadapter, hrequest, hreference, hcontent] at hrestores
  exact hrestores.not.mpr (crowd_not_scanned h hpages)

-- Ten thousand old versions are enough to keep the pointer from it.
theorem crowded_delete_misses :
    adapter.layout.Sound hashed (crowdedBucket (crowd 10000)) ∧
      (crowdedBucket (crowd 10000)).versioned = false ∧
      adapter.Names crowdedRequest (objectReference namedHash) namedHash ∧
      adapter.layout.Points (crowdedBucket (crowd 10000)) (adapter.layout.resourceToken resource)
        (adapter.layout.objectToken "channel") namedHash ∧
      adapter.RendersInOrder (crowdedBucket (crowd 10000)) resource "channel" ∧
      ((adapter.delete crowdedRequest).run provider.handle (crowdedBucket (crowd 10000))).1 =
        .ok true ∧
      ¬adapter.NamesNewest ((adapter.delete crowdedRequest).run provider.handle
        (crowdedBucket (crowd 10000))).2 resource "channel" := by
  have hnumber : 10000 ≤ 10 ^ 63 := by decide
  obtain ⟨-, -, -, -, -, -, hdeleted, -⟩ := crowd_deleted hnumber
  exact ⟨crowdedBucket_sound (crowd_nodup hnumber), crowdedBucket_versioned, crowd_names,
    crowdedBucket_points, crowdedBucket_in_order, hdeleted, crowd_misses hnumber (by decide)⟩

end Standard

end MeridianS3
