import MeridianS3.Deposit.Again
import MeridianS3.Deposit.Versions

namespace MeridianS3

open Effect ObjectStore Json

section Sequence

variable {adapter : S3ObjectAdapter} {resource : ResourceRef} {objectId : String}
variable {profile : Value} {provider : Provider} {bucket : Bucket}
variable {deposit other : Deposit} {earlier deposits : List Deposit}

namespace Deposit

-- One put of a sequence on a mutable object, with what it settles before it looks at the object.
structure Admitted (deposit : Deposit) (adapter : S3ObjectAdapter) (resource : ResourceRef)
    (objectId : String) (profile : Value) : Prop where
  sameAdapter : deposit.adapter = adapter
  sameResource : deposit.request.resource = resource
  sameObject : deposit.request.input.objectId = objectId
  intends : adapter.intentFrom profile deposit.request = .ok deposit.intent
  transfer : ∃ writes, deposit.request.transfer deposit.intent.payload = .ok writes ∧
    (adapter.spooled writes).stream = deposit.content ∧
    (adapter.spooled writes).finish adapter.common = deposit.chunks
  size : deposit.content.length ≤ adapter.config.maxObjectBytes
  arguments : adapter.transport.writeArguments deposit.intent.retention = .ok deposit.arguments
  creates : deposit.request.input.createOnly = false
  mutability : deposit.intent.mutability = .mutable

-- Two puts with the same fields from their callers.
structure SameFields (deposit other : Deposit) : Prop where
  mediaType : other.request.input.mediaType = deposit.request.input.mediaType
  userMetadata : other.request.input.userMetadata = deposit.request.input.userMetadata
  mutability : other.intent.mutability = deposit.intent.mutability
  creationContext : other.intent.creationContext = deposit.intent.creationContext
  provenance : other.intent.provenance = deposit.intent.provenance
  retention : other.intent.retention = deposit.intent.retention

theorem SameFields.idempotent (h : deposit.SameFields other) {envelope : StoredEnvelope}
    (hsame : S3ObjectAdapter.requireIdempotentMetadata deposit.request deposit.intent envelope =
      .ok ()) :
    S3ObjectAdapter.requireIdempotentMetadata other.request other.intent envelope = .ok () := by
  rw [← hsame]
  simp only [S3ObjectAdapter.requireIdempotentMetadata, h.mediaType, h.userMetadata, h.mutability,
    h.creationContext, h.provenance, h.retention]

def Fits (deposit : Deposit) : Prop :=
  deposit.multipart = true → (deposit.adapter.transport.uploadTarget deposit.blobPath
    deposit.content.length
      (deposit.adapter.transport.useChecksum deposit.intent.retention)).Fits deposit.content

-- The put returns success, and the stable reference then resolves to its content.
def Serves (provider : Provider) (bucket : Bucket) (deposit : Deposit) : Prop :=
  (∃ metadata, ((deposit.adapter.put deposit.request).run provider.handle bucket).1 =
      .ok metadata) ∧
    ∃ envelope, ((deposit.adapter.readEnvelope deposit.request.resource
      deposit.request.input.objectId none).run provider.handle
        (deposit.stored provider bucket)).1 = .ok envelope ∧
      envelope.metadata.digest = deposit.hash.digest

-- The content is that of the last put, or one that no put before has carried.
def Accepted (provider : Provider) (bucket : Bucket) (earlier : List Deposit) (deposit : Deposit) :
    Prop :=
  (∃ last ∈ earlier.getLast?, last.hash = deposit.hash) ∨
    (∀ before ∈ earlier, before.hash ≠ deposit.hash) ∧ deposit.Fits ∧
      deposit.adapter.layout.legible (latestValue deposit.hash.digest) ∧
      deposit.adapter.layout.legible
        ((deposit.published provider bucket).toDict deposit.adapter.common)

end Deposit

-- Every put of a sequence serves, or is accepted, where the ones before it have led.
def AllServe (provider : Provider) : Bucket → List Deposit → Prop
  | _, [] => True
  | bucket, deposit :: rest =>
      deposit.Serves provider bucket ∧ AllServe provider (deposit.stored provider bucket) rest

def AllAccepted (provider : Provider) : Bucket → List Deposit → List Deposit → Prop
  | _, _, [] => True
  | bucket, earlier, deposit :: rest =>
      deposit.Accepted provider bucket earlier ∧
        AllAccepted provider (deposit.stored provider bucket) (earlier ++ [deposit]) rest

-- What the puts of a sequence have left of their object.
structure Progress (adapter : S3ObjectAdapter) (resource : ResourceRef) (objectId : String)
    (profile : Value) (earlier : List Deposit) (bucket : Bucket) : Prop where
  profile : adapter.profileAt bucket resource = .ok profile
  stored : ∀ before ∈ earlier, (bucket.current (adapter.layout.path (.reference
    (adapter.layout.resourceToken resource) (adapter.layout.objectToken objectId)
      before.hash))).isSome = true
  blobs : ∀ content, (∀ before ∈ earlier, before.hash ≠ content) →
    bucket.current (adapter.layout.path (.blob (adapter.layout.resourceToken resource)
      (adapter.layout.objectToken objectId) content)) = none
  references : ∀ content, (∀ before ∈ earlier, before.hash ≠ content) →
    bucket.current (adapter.layout.path (.reference (adapter.layout.resourceToken resource)
      (adapter.layout.objectToken objectId) content)) = none
  unpointed : earlier = [] →
    bucket.current (adapter.layout.latestKey resource objectId) = none
  latest : ∀ last ∈ earlier.getLast?, ∃ envelope,
    adapter.latestEnvelope bucket resource objectId = .ok envelope ∧
      envelope.metadata.digest = last.hash.digest ∧
      S3ObjectAdapter.requireIdempotentMetadata last.request last.intent envelope = .ok ()

namespace Deposit.Admitted

theorem settles (h : deposit.Admitted adapter resource objectId profile)
    (hprofile : adapter.profileAt bucket resource = .ok profile) {latest : Option StoredEnvelope}
    (hseen : missingAsNone (adapter.latestEnvelope bucket resource objectId) = .ok latest) :
    deposit.adapter.Settles deposit.request bucket deposit.intent deposit.content deposit.chunks
      latest := by
  obtain ⟨rfl, rfl, rfl, hintends, htransfer, hsize, _, hcreates, _⟩ := h
  exact ⟨⟨profile, hprofile, hintends⟩, htransfer, hsize, hseen, by simp [hcreates]⟩

theorem unguarded (h : deposit.Admitted adapter resource objectId profile) :
    deposit.createOnly = false := by
  simp [Deposit.createOnly, S3ObjectAdapter.latestCreateOnly, h.creates, h.mutability]

-- A mutable object takes a version with another content.
theorem check_other (h : deposit.Admitted adapter resource objectId profile)
    {latest : Option StoredEnvelope}
    (hother : ∀ envelope ∈ latest, envelope.metadata.digest ≠ deposit.hash.digest) :
    S3ObjectAdapter.checkExisting deposit.request deposit.intent deposit.hash.digest latest =
      .ok none := by
  cases latest with
  | none => rfl
  | some envelope =>
      simp [S3ObjectAdapter.checkExisting, h.creates, h.mutability, hother envelope rfl]

-- A put that succeeds where it does not return what is stored commits.
theorem commits (h : deposit.Admitted adapter resource objectId profile)
    (hprofile : adapter.profileAt bucket resource = .ok profile) {latest : Option StoredEnvelope}
    (hseen : missingAsNone (adapter.latestEnvelope bucket resource objectId) = .ok latest)
    (hother : ∀ envelope ∈ latest, envelope.metadata.digest ≠ deposit.hash.digest)
    {metadata : ObjectMetadata}
    (hok : ((deposit.adapter.put deposit.request).run provider.handle bucket).1 = .ok metadata) :
    deposit.Finds bucket ∧ ¬deposit.Blocked bucket := by
  have hsettles := h.settles hprofile hseen
  have hcheck := h.check_other hother
  have hends : PutEnds provider deposit.adapter deposit.request unfailing bucket
      ((deposit.adapter.put deposit.request).run provider.handle bucket).1
      ((deposit.adapter.put deposit.request).run provider.handle bucket).2 := put_unfailing _
  rw [hok] at hends
  cases hends with
  | returned _ _ _ hreturns =>
      obtain ⟨intent, content, chunks, latest', hsettles', hreturn⟩ := hreturns
      obtain ⟨rfl, rfl, rfl⟩ := hsettles.unique hsettles' rfl
      obtain rfl := hsettles.seen_unique hsettles'
      cases hcheck.symm.trans hreturn
  | committed found _ hadapter hrequest hfinds hfree =>
      obtain ⟨latest', hsettles', -⟩ := hfinds.settles
      rw [hadapter, hrequest] at hsettles'
      obtain ⟨hintent, hcontent, hchunks⟩ := hsettles.unique hsettles' rfl
      have harguments := hfinds.arguments
      rw [hadapter, hintent, h.sameAdapter, h.arguments, Except.ok.injEq] at harguments
      obtain rfl : found = deposit := by
        cases found
        cases deposit
        simp_all
      exact ⟨hfinds, hfree⟩

end Deposit.Admitted

namespace Progress

variable (h : Progress adapter resource objectId profile earlier bucket)
variable (hadmitted : deposit.Admitted adapter resource objectId profile)

include h

theorem seen : ∃ latest, missingAsNone (adapter.latestEnvelope bucket resource objectId) =
      .ok latest ∧ ∀ envelope ∈ latest, ∃ last ∈ earlier.getLast?,
        envelope.metadata.digest = last.hash.digest := by
  cases hlast : earlier.getLast? with
  | none =>
      have hnone := h.unpointed (List.getLast?_eq_none_iff.mp hlast)
      exact ⟨none, S3ObjectAdapter.latestEnvelope_missing hnone, fun _ hmem => nomatch hmem⟩
  | some last =>
      obtain ⟨envelope, hlatest, hdigest, -⟩ := h.latest last hlast
      refine ⟨some envelope, by rw [hlatest]; rfl, ?_⟩
      intro found hfound
      obtain rfl : envelope = found := Option.some.inj hfound
      exact ⟨last, rfl, hdigest⟩

theorem others (hnew : ∀ last ∈ earlier.getLast?, last.hash ≠ deposit.hash) :
    ∃ latest, missingAsNone (adapter.latestEnvelope bucket resource objectId) = .ok latest ∧
      ∀ envelope ∈ latest, envelope.metadata.digest ≠ deposit.hash.digest := by
  obtain ⟨latest, hseen, hlatest⟩ := h.seen
  refine ⟨latest, hseen, fun envelope hmem hdigest => ?_⟩
  obtain ⟨last, hlast, hsame⟩ := hlatest envelope hmem
  exact hnew last hlast (HexDigest.digest_inj.mp (hsame.symm.trans hdigest))

include hadmitted

-- A put of the content that is the latest already.
theorem repeats (provider : Provider) {last : Deposit} (hlast : last ∈ earlier.getLast?)
    (hhash : last.hash = deposit.hash)
    (hsame : last.SameFields deposit) :
    deposit.Serves provider bucket ∧ Progress adapter resource objectId profile
      (earlier ++ [deposit]) (deposit.stored provider bucket) := by
  obtain ⟨envelope, hlatest, hdigest, hidempotent⟩ := h.latest last hlast
  rw [hhash] at hdigest
  have hcreates := hadmitted.creates
  have hreturns : deposit.adapter.Returns deposit.request bucket envelope.metadata := by
    refine ⟨_, _, _, _, hadmitted.settles h.profile (by rw [hlatest]; rfl), ?_⟩
    change S3ObjectAdapter.checkExisting _ _ deposit.hash.digest _ = _
    simp only [S3ObjectAdapter.checkExisting, hcreates, hdigest, hsame.idempotent hidempotent,
      if_true]
    rfl
  obtain ⟨hok, hstored⟩ := hreturns.run provider
  rw [← deposit.run_step] at hstored
  change SameObjects bucket (deposit.stored provider bucket) at hstored
  obtain ⟨rfl, rfl, rfl, -⟩ := hadmitted
  have hkept := (S3ObjectAdapter.latestEnvelope_same hstored).trans hlatest
  refine ⟨⟨⟨_, hok⟩, envelope, ?_, hdigest⟩, ?_⟩
  · rw [S3ObjectAdapter.run_readLatest]
    exact hkept
  · constructor
    · exact (S3ObjectAdapter.profileAt_congr (congrFun hstored.entries _)).trans h.profile
    · intro before hmem
      rw [hstored.current]
      rcases List.mem_append.mp hmem with hmem | hmem
      · exact h.stored before hmem
      · rw [List.mem_singleton.mp hmem, ← hhash]
        exact h.stored last (List.mem_of_mem_getLast? hlast)
    · intro content hother
      rw [hstored.current]
      exact h.blobs content fun before hmem => hother before (List.mem_append_left _ hmem)
    · intro content hother
      rw [hstored.current]
      exact h.references content fun before hmem => hother before (List.mem_append_left _ hmem)
    · intro hnil
      exact absurd hnil (by simp)
    · intro next hnext
      rw [List.getLast?_append_of_ne_nil _ (by simp)] at hnext
      obtain rfl : deposit = next := Option.some.inj hnext
      exact ⟨envelope, hkept, hdigest, hsame.idempotent hidempotent⟩

-- A content that comes back after another one meets its own reference.
theorem refused (provider : Provider) (hnew : ∀ last ∈ earlier.getLast?, last.hash ≠ deposit.hash)
    {before : Deposit} (hbefore : before ∈ earlier) (hhash : before.hash = deposit.hash) :
    ¬deposit.Serves provider bucket := by
  rintro ⟨⟨metadata, hok⟩, -⟩
  obtain ⟨latest, hseen, hother⟩ := h.others hnew
  obtain ⟨-, hfree⟩ := hadmitted.commits h.profile hseen hother hok
  have hstored := h.stored before hbefore
  apply hfree
  right
  left
  obtain ⟨rfl, rfl, rfl, -⟩ := hadmitted
  rw [hhash] at hstored
  exact hstored

theorem stored_version (provider : Provider) (hfinds : deposit.Finds bucket)
    (hfree : ¬deposit.Blocked bucket) :
    adapter.layout.Points (deposit.stored provider bucket) (adapter.layout.resourceToken resource)
        (adapter.layout.objectToken objectId) deposit.hash ∧
      adapter.layout.Recorded (deposit.stored provider bucket)
        (adapter.layout.resourceToken resource) (adapter.layout.objectToken objectId) deposit.hash
        (deposit.published provider bucket) := by
  have hsame := hfinds.stored_same provider hfree
  have hrecorded := hfinds.stored_recorded provider hfree
  obtain ⟨rfl, rfl, rfl, -⟩ := hadmitted
  exact ⟨S3Layout.points_congr (congrFun hsame.entries _) (deposit.pointerStored_points _ _),
    hrecorded⟩

variable (hnew : ∀ before ∈ earlier, before.hash ≠ deposit.hash)

include hnew

theorem finds (hfits : deposit.Fits) : deposit.Finds bucket ∧ ¬deposit.Blocked bucket := by
  obtain ⟨latest, hseen, hother⟩ := h.others fun last hlast =>
    hnew last (List.mem_of_mem_getLast? hlast)
  have hsettles := hadmitted.settles h.profile hseen
  have hcheck := hadmitted.check_other hother
  have hcreates := hadmitted.unguarded
  have harguments := hadmitted.arguments
  obtain ⟨rfl, rfl, rfl, -⟩ := hadmitted
  refine ⟨⟨⟨latest, hsettles, hcheck⟩, harguments, hfits⟩, ?_⟩
  rintro (⟨-, hblob⟩ | hreference | ⟨hcreate, -⟩)
  · rw [Deposit.blobPath, Deposit.resource, Deposit.object, h.blobs _ hnew] at hblob
    cases hblob
  · rw [Deposit.referencePath, Deposit.resource, Deposit.object, h.references _ hnew] at hreference
    cases hreference
  · rw [hcreates] at hcreate
    cases hcreate

-- A new content is taken where it fits and its documents can be read back.
theorem new_iff (provider : Provider) : deposit.Serves provider bucket ↔ deposit.Fits ∧
    adapter.layout.legible (latestValue deposit.hash.digest) ∧
      adapter.layout.legible ((deposit.published provider bucket).toDict adapter.common) := by
  constructor
  · rintro ⟨⟨metadata, hok⟩, envelope, hread, -⟩
    obtain ⟨latest, hseen, hother⟩ := h.others fun last hlast =>
      hnew last (List.mem_of_mem_getLast? hlast)
    obtain ⟨hfinds, hfree⟩ := hadmitted.commits h.profile hseen hother hok
    obtain ⟨hpoints, hrecorded⟩ := h.stored_version hadmitted provider hfinds hfree
    obtain ⟨rfl, rfl, rfl, -⟩ := hadmitted
    rw [S3ObjectAdapter.run_readLatest] at hread
    exact ⟨hfinds.fits, S3ObjectAdapter.latestEnvelope_bounded hpoints hrecorded hread⟩
  · rintro ⟨hfits, hpointer, hreference⟩
    obtain ⟨hfinds, hfree⟩ := h.finds hadmitted hnew hfits
    obtain ⟨hpoints, hrecorded⟩ := h.stored_version hadmitted provider hfinds hfree
    obtain ⟨rfl, rfl, rfl, -⟩ := hadmitted
    refine ⟨⟨_, (hfinds.commits hfree).1⟩, deposit.published provider bucket, ?_, rfl⟩
    rw [S3ObjectAdapter.run_readLatest]
    exact S3ObjectAdapter.latestEnvelope_recorded hpointer hreference hpoints hrecorded rfl rfl

theorem takes (hfits : deposit.Fits)
    (hpointer : adapter.layout.legible (latestValue deposit.hash.digest))
    (hreference : adapter.layout.legible ((deposit.published provider bucket).toDict
      adapter.common)) :
    Progress adapter resource objectId profile (earlier ++ [deposit])
      (deposit.stored provider bucket) := by
  obtain ⟨hfinds, hfree⟩ := h.finds hadmitted hnew hfits
  obtain ⟨hpoints, hrecorded⟩ := h.stored_version hadmitted provider hfinds hfree
  have hsame := hfinds.stored_same provider hfree
  have hkept (physical : PhysicalKey)
      (hblob : physical ≠ .blob deposit.resource deposit.object deposit.hash)
      (hreferred : physical ≠ .reference deposit.resource deposit.object deposit.hash)
      (hlatest : physical ≠ .latest deposit.resource deposit.object) :
      (deposit.stored provider bucket).entries (deposit.adapter.layout.path physical) =
        bucket.entries (deposit.adapter.layout.path physical) := by
    rw [hsame.entries]
    apply deposit.reach_entries provider bucket .pointer
    · simpa [Deposit.blobPath] using hblob
    · simpa [Deposit.referencePath] using hreferred
    · simpa [Deposit.latestPath] using hlatest
  obtain ⟨rfl, rfl, rfl, -⟩ := hadmitted
  constructor
  · exact (S3ObjectAdapter.profileAt_congr (hkept (.registered _) (by simp) (by simp)
      (by simp))).trans h.profile
  · intro before hmem
    rcases List.mem_append.mp hmem with hmem | hmem
    · rw [Store.current_congr (hkept _ (by simp) (by simp [hnew before hmem]) (by simp))]
      exact h.stored before hmem
    · obtain ⟨-, stored, hcurrent, -⟩ := hrecorded
      rw [List.mem_singleton.mp hmem, hcurrent]
      rfl
  · intro content hother
    have hne : content ≠ deposit.hash := fun he => hother deposit (by simp) he.symm
    rw [Store.current_congr (hkept _ (by simp [hne]) (by simp) (by simp))]
    exact h.blobs content fun before hmem => hother before (List.mem_append_left _ hmem)
  · intro content hother
    have hne : content ≠ deposit.hash := fun he => hother deposit (by simp) he.symm
    rw [Store.current_congr (hkept _ (by simp) (by simp [hne]) (by simp))]
    exact h.references content fun before hmem => hother before (List.mem_append_left _ hmem)
  · intro hnil
    exact absurd hnil (by simp)
  · intro next hnext
    rw [List.getLast?_append_of_ne_nil _ (by simp)] at hnext
    obtain rfl : deposit = next := Option.some.inj hnext
    refine ⟨_, S3ObjectAdapter.latestEnvelope_recorded hpointer hreference hpoints hrecorded rfl
      rfl, rfl, ?_⟩
    simp [S3ObjectAdapter.requireIdempotentMetadata, Deposit.published, Deposit.envelope,
      S3ObjectAdapter.newEnvelope, S3ObjectAdapter.newMetadata]

omit hnew

-- One put of the sequence.
theorem serves_iff (provider : Provider) (hsame : ∀ before ∈ earlier, before.hash = deposit.hash →
      before.SameFields deposit) :
    (deposit.Serves provider bucket ↔ deposit.Accepted provider bucket earlier) ∧
      (deposit.Accepted provider bucket earlier → Progress adapter resource objectId profile
        (earlier ++ [deposit]) (deposit.stored provider bucket)) := by
  by_cases hlast : ∃ last ∈ earlier.getLast?, last.hash = deposit.hash
  · obtain ⟨last, hmem, hhash⟩ := hlast
    obtain ⟨hserves, hprogress⟩ := h.repeats hadmitted provider hmem hhash
      (hsame last (List.mem_of_mem_getLast? hmem) hhash)
    exact ⟨⟨fun _ => Or.inl ⟨last, hmem, hhash⟩, fun _ => hserves⟩, fun _ => hprogress⟩
  · have hother : ∀ last ∈ earlier.getLast?, last.hash ≠ deposit.hash :=
      fun last hmem hhash => hlast ⟨last, hmem, hhash⟩
    by_cases hnew : ∀ before ∈ earlier, before.hash ≠ deposit.hash
    · have hiff := h.new_iff hadmitted hnew provider
      have hlayout : deposit.adapter = adapter := hadmitted.sameAdapter
      constructor
      · rw [hiff, Deposit.Accepted, hlayout]
        exact ⟨fun haccepted => Or.inr ⟨hnew, haccepted⟩,
          fun haccepted => (haccepted.resolve_left hlast).2⟩
      · intro haccepted
        obtain ⟨-, hfits, hpointer, hreference⟩ := haccepted.resolve_left hlast
        rw [hlayout] at hpointer hreference
        exact h.takes hadmitted hnew hfits hpointer hreference
    · have hnone : ¬deposit.Accepted provider bucket earlier :=
        fun haccepted => hnew (haccepted.resolve_left hlast).1
      obtain ⟨before, hmem, hhash⟩ := not_forall₂.mp hnew
      have hrefused := h.refused hadmitted provider hother hmem (not_not.mp hhash)
      exact ⟨iff_of_false hrefused hnone, fun haccepted => absurd haccepted hnone⟩

end Progress

-- A Resource whose object id has never been written.
structure Unused (adapter : S3ObjectAdapter) (resource : ResourceRef) (objectId : String)
    (bucket : Bucket) : Prop where
  blobs : ∀ content, bucket.current (adapter.layout.path (.blob
    (adapter.layout.resourceToken resource) (adapter.layout.objectToken objectId) content)) = none
  references : ∀ content, bucket.current (adapter.layout.path (.reference
    (adapter.layout.resourceToken resource) (adapter.layout.objectToken objectId) content)) = none
  latest : bucket.current (adapter.layout.latestKey resource objectId) = none

theorem Unused.progress (h : Unused adapter resource objectId bucket)
    (hprofile : adapter.profileAt bucket resource = .ok profile) :
    Progress adapter resource objectId profile [] bucket where
  profile := hprofile
  stored := fun _ hmem => absurd hmem List.not_mem_nil
  blobs := fun content _ => h.blobs content
  references := fun content _ => h.references content
  unpointed := fun _ => h.latest
  latest := fun _ hmem => nomatch hmem

theorem Progress.allServe_iff (h : Progress adapter resource objectId profile earlier bucket)
    (hadmitted : ∀ deposit ∈ deposits, deposit.Admitted adapter resource objectId profile)
    (hsame : ∀ before ∈ earlier ++ deposits, ∀ after ∈ deposits, before.hash = after.hash →
      before.SameFields after) :
    AllServe provider bucket deposits ↔ AllAccepted provider bucket earlier deposits := by
  induction deposits generalizing earlier bucket with
  | nil => exact Iff.rfl
  | cons deposit rest ih =>
      have hfirst := hadmitted deposit List.mem_cons_self
      obtain ⟨hiff, hnext⟩ := h.serves_iff hfirst provider fun before hmem =>
        hsame before (List.mem_append_left _ hmem) deposit List.mem_cons_self
      have hrest (hprogress : Progress adapter resource objectId profile (earlier ++ [deposit])
          (deposit.stored provider bucket)) :
          AllServe provider (deposit.stored provider bucket) rest ↔
            AllAccepted provider (deposit.stored provider bucket) (earlier ++ [deposit]) rest := by
        apply ih hprogress fun later hmem => hadmitted later (List.mem_cons_of_mem _ hmem)
        intro before hbefore after hafter
        rw [List.append_assoc] at hbefore
        exact hsame before hbefore after (List.mem_cons_of_mem _ hafter)
      constructor
      · rintro ⟨hserves, hlater⟩
        have haccepted := hiff.mp hserves
        exact ⟨haccepted, (hrest (hnext haccepted)).mp hlater⟩
      · rintro ⟨haccepted, hlater⟩
        exact ⟨hiff.mpr haccepted, (hrest (hnext haccepted)).mpr hlater⟩

-- A sequence of puts on a mutable object succeeds from put to put as long as no content
-- comes back after another one.
theorem puts_serve_iff (hprofile : adapter.profileAt bucket resource = .ok profile)
    (hunused : Unused adapter resource objectId bucket)
    (hadmitted : ∀ deposit ∈ deposits, deposit.Admitted adapter resource objectId profile)
    (hsame : ∀ before ∈ deposits, ∀ after ∈ deposits, before.hash = after.hash →
      before.SameFields after) :
    AllServe provider bucket deposits ↔ AllAccepted provider bucket [] deposits :=
  (hunused.progress hprofile).allServe_iff hadmitted hsame

end Sequence

namespace Standard

theorem base_unused : Unused adapter resource "channel" (base true) where
  blobs _ := base_current (by simp)
  references _ := base_current (by simp)
  latest := by
    rw [S3ObjectAdapter.latestKey_eq]
    exact base_current (by simp)

theorem deposit_admitted {content : String} {time : Timestamp}
    (hsize : (ObjectCommon.encodeUtf8 content).length ≤ config.maxObjectBytes) :
    (deposit false .null .mutable content time).Admitted adapter resource "channel"
      (profile .mutable) where
  sameAdapter := rfl
  sameResource := rfl
  sameObject := rfl
  intends := rfl
  transfer := by
    refine ⟨[ObjectCommon.encodeUtf8 content], rfl, ?_, rfl⟩
    unfold S3ObjectAdapter.spooled
    rw [IntegritySpool.writeAll_stream]
    simp [IntegritySpool.new, deposit]
  size := hsize
  arguments := rfl
  creates := rfl
  mutability := rfl

theorem sample_admitted : ∀ deposit ∈ [early, late, early],
    deposit.Admitted adapter resource "channel" (profile .mutable) := by
  intro deposit hmem
  simp only [List.mem_cons, List.not_mem_nil, or_false] at hmem
  rcases hmem with rfl | rfl | rfl <;> exact deposit_admitted (by decide +kernel)

theorem sample_fields : ∀ before ∈ [early, late, early], ∀ after ∈ [early, late, early],
    before.hash = after.hash → before.SameFields after := by
  intro before hbefore after hafter _
  simp only [List.mem_cons, List.not_mem_nil, or_false] at hbefore hafter
  rcases hbefore with rfl | rfl | rfl <;> rcases hafter with rfl | rfl | rfl <;>
    exact ⟨rfl, rfl, rfl, rfl, rfl, rfl⟩

theorem early_accepted : early.Accepted provider (base true) [] :=
  Or.inr ⟨fun _ hmem => absurd hmem List.not_mem_nil, early_first.finds.fits, early_first.pointer,
    early_first.reference⟩

theorem late_accepted : late.Accepted provider (early.stored provider (base true)) [early] := by
  refine Or.inr ⟨fun before hmem => ?_, versions.lands.finds.fits, versions.lands.pointer,
    versions.lands.reference⟩
  rw [List.mem_singleton.mp hmem]
  exact hash_ne.symm

theorem sample_puts_serve : AllServe provider (base true) [early, late] := by
  have hmem : ∀ deposit ∈ [early, late], deposit ∈ [early, late, early] := by simp
  have haccepted : AllAccepted provider (base true) [] [early, late] :=
    ⟨early_accepted, late_accepted, trivial⟩
  exact (puts_serve_iff base_profile base_unused
    (fun deposit h => sample_admitted deposit (hmem deposit h))
    (fun before hbefore after hafter => sample_fields before (hmem before hbefore) after
      (hmem after hafter))).mpr haccepted

-- The first text comes back after the second one.
theorem returning_put_refused :
    adapter.profileAt (base true) resource = .ok (profile .mutable) ∧
      Unused adapter resource "channel" (base true) ∧
      (∀ deposit ∈ [early, late, early],
        deposit.Admitted adapter resource "channel" (profile .mutable)) ∧
      (∀ before ∈ [early, late, early], ∀ after ∈ [early, late, early],
        before.hash = after.hash → before.SameFields after) ∧
      ¬AllServe provider (base true) [early, late, early] := by
  refine ⟨base_profile, base_unused, sample_admitted, sample_fields, fun hserve => ?_⟩
  obtain ⟨-, -, hlast, -⟩ :=
    ((base_unused.progress base_profile).allServe_iff sample_admitted sample_fields).mp hserve
  rcases hlast with ⟨last, hmem, hhash⟩ | ⟨hnew, -⟩
  · obtain rfl : late = last := Option.some.inj hmem
    exact hash_ne hhash
  · exact hnew early (by simp) rfl

end Standard

end MeridianS3
