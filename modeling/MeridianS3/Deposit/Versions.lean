import MeridianS3.Deposit.First
import MeridianS3.Registration

namespace MeridianS3

open Effect ObjectStore Json

-- A later put of other bytes as the same object.
structure Deposit.Follows (next first : Deposit) : Prop where
  adapter : next.adapter = first.adapter
  resource : next.request.resource = first.request.resource
  objectId : next.request.input.objectId = first.request.input.objectId
  differs : next.hash ≠ first.hash

-- The first two versions of an object.
structure Deposit.Pair (first next : Deposit) (provider : Provider) (hashed : Set Bytes)
    (bucket : Bucket) : Prop where
  follows : next.Follows first
  opens : first.First provider hashed bucket
  lands : next.Lands provider hashed (first.stored provider bucket)

namespace Deposit

variable {first next : Deposit} {provider : Provider} {hashed : Set Bytes} {bucket : Bucket}
variable {request : DeleteRequest} {reference : ObjectReference}

namespace Follows

theorem layout (h : next.Follows first) : next.adapter.layout = first.adapter.layout := by
  rw [h.adapter]

theorem resource_eq (h : next.Follows first) : next.resource = first.resource := by
  simp only [Deposit.resource, h.adapter, h.resource]

theorem object_eq (h : next.Follows first) : next.object = first.object := by
  simp only [Deposit.object, h.adapter, h.objectId]

theorem latestPath_eq (h : next.Follows first) : next.latestPath = first.latestPath := by
  simp only [latestPath, h.layout, h.resource_eq, h.object_eq]

-- Nothing is in the way of the later put.
theorem not_blocked (h : next.Follows first) (hfinds : first.Finds bucket)
    (hfree : ¬first.Blocked bucket)
    (hblob : bucket.entries (first.adapter.layout.path
      (.blob first.resource first.object next.hash)) = [])
    (hreference : bucket.entries (first.adapter.layout.path
      (.reference first.resource first.object next.hash)) = [])
    (hmutable : next.createOnly = false) : ¬next.Blocked (first.stored provider bucket) := by
  have hkept {physical : PhysicalKey}
      (hother : physical ≠ .blob first.resource first.object first.hash)
      (hreference : physical ≠ .reference first.resource first.object first.hash)
      (hlatest : physical ≠ .latest first.resource first.object) :
      (first.stored provider bucket).entries (first.adapter.layout.path physical) =
        bucket.entries (first.adapter.layout.path physical) := by
    apply hfinds.stored_entries provider hfree
    · simpa [blobPath] using hother
    · simpa [referencePath] using hreference
    · simpa [latestPath] using hlatest
  unfold Blocked blobPath referencePath
  rw [h.layout, h.resource_eq, h.object_eq, hmutable,
    Store.current_congr (hkept (by simpa using h.differs) (by simp) (by simp)),
    Store.current_congr (hkept (by simp) (by simpa using h.differs) (by simp)),
    Store.current_eq_none _ _ hblob, Store.current_eq_none _ _ hreference]
  simp

end Follows

-- The bucket with both versions.
def both (first next : Deposit) (provider : Provider) (bucket : Bucket) : Bucket :=
  next.stored provider (first.stored provider bucket)

theorem both_eq (first next : Deposit) (provider : Provider) (bucket : Bucket) :
    first.both next provider bucket =
      (next.step.run provider (first.stored provider bucket)).2 := rfl

-- The bucket once the version that came first has been deleted.
def survivor (first next : Deposit) (provider : Provider) (bucket : Bucket)
    (request : DeleteRequest) : Bucket :=
  ((first.deletion request).run provider (first.both next provider bucket)).2

theorem runSteps_survivor (first next : Deposit) (provider : Provider) (bucket : Bucket)
    (request : DeleteRequest) :
    runSteps provider bucket [first.step, next.step, first.deletion request] =
      first.survivor next provider bucket request := rfl

namespace Pair

theorem tidy (h : first.Pair next provider hashed bucket) :
    first.adapter.layout.Tidy hashed provider (first.both next provider bucket) := by
  have htidy := h.lands.tidy
  rwa [h.follows.layout] at htidy

theorem versioned (h : first.Pair next provider hashed bucket) :
    (first.both next provider bucket).versioned = bucket.versioned :=
  h.lands.versioned.trans h.opens.versioned

-- The second put leaves the keys of the first.
theorem kept (h : first.Pair next provider hashed bucket) {physical : PhysicalKey}
    (hblob : physical ≠ .blob first.resource first.object next.hash)
    (hreference : physical ≠ .reference first.resource first.object next.hash)
    (hlatest : physical ≠ .latest first.resource first.object) :
    (first.both next provider bucket).entries (first.adapter.layout.path physical) =
      (first.stored provider bucket).entries (first.adapter.layout.path physical) := by
  unfold both
  apply h.lands.entries
  · rw [blobPath, h.follows.layout, h.follows.resource_eq, h.follows.object_eq]
    simpa using hblob
  · rw [referencePath, h.follows.layout, h.follows.resource_eq, h.follows.object_eq]
    simpa using hreference
  · rw [latestPath, h.follows.layout, h.follows.resource_eq, h.follows.object_eq]
    simpa using hlatest

theorem recorded_first (h : first.Pair next provider hashed bucket) :
    first.adapter.layout.Recorded (first.both next provider bucket) first.resource first.object
      first.hash (first.published provider bucket) := by
  have hkept : (first.both next provider bucket).entries (first.adapter.layout.path
      (.reference first.resource first.object first.hash)) =
        (first.stored provider bucket).entries (first.adapter.layout.path
          (.reference first.resource first.object first.hash)) :=
    h.kept (by simp) (by simpa using h.follows.differs.symm) (by simp)
  exact S3Layout.recorded_congr hkept h.opens.recorded

theorem recorded_next (h : first.Pair next provider hashed bucket) :
    first.adapter.layout.Recorded (first.both next provider bucket) first.resource first.object
      next.hash (next.published provider (first.stored provider bucket)) := by
  have hrecorded := h.lands.recorded
  rwa [h.follows.layout, h.follows.resource_eq, h.follows.object_eq] at hrecorded

theorem only (h : first.Pair next provider hashed bucket) (content : HexDigest)
    (hstored : (first.both next provider bucket).entries (first.adapter.layout.path
      (.reference first.resource first.object content)) ≠ []) :
    content = first.hash ∨ content = next.hash := by
  by_contra hne
  rw [not_or] at hne
  apply hne.1 (h.opens.only content _)
  rwa [← h.kept (by simp) (by simpa using hne.2) (by simp)]

theorem points (h : first.Pair next provider hashed bucket) :
    first.adapter.layout.Points (first.both next provider bucket) first.resource first.object
      next.hash := by
  have hpoints := h.lands.points
  rwa [h.follows.layout, h.follows.resource_eq, h.follows.object_eq] at hpoints

-- Where versions are kept, both pointers are, the later one in front.
theorem pointers (h : first.Pair next provider hashed bucket) (hversioned : bucket.versioned = true) :
    ∃ newer older late early, newer ≠ older ∧
      (first.both next provider bucket).entries first.latestPath =
        [⟨newer, some late⟩, ⟨older, some early⟩] ∧
      early.body = first.adapter.common.canonicalJsonBytes (latestValue first.hash.digest) := by
  have hopened : (first.stored provider bucket).versioned = true :=
    h.opens.versioned.trans hversioned
  have hearly : ∃ older early, (first.stored provider bucket).entries first.latestPath =
      [⟨older, some early⟩] ∧
        early.body = first.adapter.common.canonicalJsonBytes (latestValue first.hash.digest) := by
    have hbefore : (first.referenceStored provider bucket).entries first.latestPath = [] := by
      rw [referenceStored, Store.put_entries_of_ne _ first.latestPath_ne_referencePath, blobStored,
        Store.put_entries_of_ne _ first.latestPath_ne_blobPath]
      exact h.opens.unpointed
    refine ⟨(first.referenceStored provider bucket).issued, first.adapter.transport.jsonObject
      (latestValue first.hash.digest) ⟨first.adapter.config.serverSideEncryption,
        first.adapter.config.kmsKeyId, none⟩, ?_, rfl⟩
    rw [h.opens.same.entries, pointerStored, S3ObjectAdapter.written, Store.put_entries_self,
      hbefore, ite_self]
  have hlate : ∃ newer late, (first.both next provider bucket).entries first.latestPath =
      ⟨newer, some late⟩ :: (first.stored provider bucket).entries first.latestPath ∧
        (first.stored provider bucket).issued ≤ newer := by
    have hkept : (next.referenceStored provider (first.stored provider bucket)).entries
        next.latestPath = (first.stored provider bucket).entries next.latestPath := by
      rw [referenceStored, Store.put_entries_of_ne _ next.latestPath_ne_referencePath, blobStored,
        Store.put_entries_of_ne _ next.latestPath_ne_blobPath]
    have hstays : (next.referenceStored provider (first.stored provider bucket)).versioned =
        true := (next.reach_versioned provider (first.stored provider bucket) .reference).trans hopened
    refine ⟨(next.referenceStored provider (first.stored provider bucket)).issued,
      next.adapter.transport.jsonObject (latestValue next.hash.digest)
        ⟨next.adapter.config.serverSideEncryption, next.adapter.config.kmsKeyId, none⟩, ?_, ?_⟩
    · rw [both, h.lands.same.entries, pointerStored, ← h.follows.latestPath_eq,
        S3ObjectAdapter.written, Store.put_entries_self, if_pos hstays, hkept]
    · simp only [referenceStored, blobStored, Store.put_issued]
      omega
  obtain ⟨older, early, hearly, hbody⟩ := hearly
  obtain ⟨newer, late, hlate, hissued⟩ := hlate
  rw [hearly] at hlate
  have holder : older < (first.stored provider bucket).issued :=
    (first.stored provider bucket).id_lt first.latestPath ⟨older, some early⟩
      (by rw [hearly]; exact List.mem_singleton_self _)
  exact ⟨newer, older, late, early, by omega, hlate, hbody⟩

-- The version that came first can be deleted, and the pointer stays where it is.
theorem first_removal (h : first.Pair next provider hashed bucket)
    (hdelete : first.Deleted request reference)
    (hallowed : first.adapter.requireDeleteAllowed (first.published provider bucket)
      request.checkedAt = .ok ()) :
    ∃ removal : Removal, removal.adapter = first.adapter ∧ removal.request = request ∧
      removal.resource = first.resource ∧ removal.object = first.object ∧
      removal.content = first.hash ∧ removal.moves = false ∧
      removal.Finds unfailing (first.both next provider bucket) := by
  have hobject : first.adapter.layout.objectToken reference.objectId = first.object := by
    rw [hdelete.object]
    rfl
  have hresource : first.adapter.layout.resourceToken request.resource = first.resource := by
    rw [hdelete.resource]
    rfl
  obtain ⟨removal, hadapter, hrequest, hreference, hcontent, hfinds⟩ :=
    Removal.found_legible h.tidy.legible h.tidy.sound h.opens.free
      (by rw [hdelete.object]; exact h.opens.hashes.objectId) hdelete.names
      ⟨_, by rw [hresource, hobject]; exact h.recorded_first, hallowed⟩
  have hat : removal.resource = first.resource ∧ removal.object = first.object := by
    rw [Removal.resource, Removal.object, hadapter, hrequest, hreference]
    exact ⟨hresource, hobject⟩
  refine ⟨removal, hadapter, hrequest, hat.1, hat.2, hcontent, ?_, hfinds⟩
  cases hmoves : removal.moves with
  | false => rfl
  | true =>
      have hsound : removal.adapter.layout.Sound hashed (first.both next provider bucket) := by
        rw [hadapter]
        exact h.tidy.sound
      have hpoints := hfinds.points_of_moves hsound hmoves
      rw [hadapter, hat.1, hat.2, hcontent] at hpoints
      exact absurd (S3Layout.points_unique h.points hpoints) h.follows.differs

-- Then its reference is gone, and nothing else has changed but the evidence.
theorem survives (h : first.Pair next provider hashed bucket)
    (hdelete : first.Deleted request reference)
    (hallowed : first.adapter.requireDeleteAllowed (first.published provider bucket)
      request.checkedAt = .ok ())
    (hevidence : first.adapter.layout.legible (first.adapter.deletionValue request reference)) :
    first.adapter.layout.Tidy hashed provider (first.survivor next provider bucket request) ∧
      (first.survivor next provider bucket request).versioned = bucket.versioned ∧
      (first.survivor next provider bucket request).entries first.referencePath = [] ∧
      ∀ physical : PhysicalKey, physical ≠ .blob first.resource first.object first.hash →
        physical ≠ .reference first.resource first.object first.hash →
        physical ≠ .deletion first.resource first.object first.hash →
        (first.survivor next provider bucket request).entries
            (first.adapter.layout.path physical) =
          (first.both next provider bucket).entries (first.adapter.layout.path physical) := by
  obtain ⟨removal, hadapter, rfl, hresource, hobject, hcontent, hmoves, hfinds⟩ :=
    h.first_removal hdelete hallowed
  have htidy : removal.adapter.layout.Tidy hashed provider (first.both next provider bucket) := by
    rw [hadapter]
    exact h.tidy
  have hnames : removal.adapter.Names removal.request reference first.hash := by
    rw [hadapter]
    exact hdelete.names
  have hreference : removal.reference = reference := (hfinds.named hnames).1
  have hsame : SameObjects (removal.reach provider (first.both next provider bucket) .evidence)
      (first.survivor next provider bucket removal.request) := by
    unfold survivor
    rw [run_deletion, ← hadapter]
    exact hfinds.carried_out htidy.sound (hfinds.accepted_minted htidy.sound htidy.minted)
  have hpaths : removal.blobPath = first.blobPath ∧ removal.referencePath = first.referencePath ∧
      removal.evidencePath =
        first.adapter.layout.path (.deletion first.resource first.object first.hash) := by
    simp only [Removal.blobPath, Removal.referencePath, Removal.evidencePath, hadapter, hresource,
      hobject, hcontent, blobPath, referencePath, and_self]
  obtain ⟨hblobPath, hreferencePath, hevidencePath⟩ := hpaths
  refine ⟨?_, ?_, ?_, ?_⟩
  · have hafter := hfinds.tidy_kept htidy hmoves (by rwa [hadapter, hreference])
    rw [hadapter] at hafter
    exact hafter.same hsame
  · rw [hsame.versioned, removal.reach_versioned, h.versioned]
  · rw [hsame.entries, ← hreferencePath]
    exact removal.reference_gone hfinds ⟨by simp, by simp⟩
  · intro physical hblob hgone hrecord
    have hpointer : removal.pointerMoved provider (first.both next provider bucket) =
        removal.referenceGone provider (first.both next provider bucket) := by
      rw [Removal.pointerMoved, if_neg (by simp [hmoves])]
    rw [hsame.entries, Removal.reach, removal.recordEvidence_entries _ (by
      rw [hevidencePath]
      simpa using hrecord), hpointer, removal.referenceGone_entries]
    · rw [hblobPath]
      simpa [blobPath] using hblob
    · rw [hreferencePath]
      simpa [referencePath] using hgone

-- The pointer stays at the other version.
theorem survivor_latest (h : first.Pair next provider hashed bucket)
    (hdelete : first.Deleted request reference)
    (hallowed : first.adapter.requireDeleteAllowed (first.published provider bucket)
      request.checkedAt = .ok ())
    (hevidence : first.adapter.layout.legible (first.adapter.deletionValue request reference)) :
    ∃ stored, (first.survivor next provider bucket request).current
      (first.adapter.layout.path (.latest first.resource first.object)) = some stored := by
  obtain ⟨-, -, -, hkept⟩ := h.survives hdelete hallowed hevidence
  obtain ⟨stored, hstored, -⟩ := h.points
  refine ⟨stored, ?_⟩
  rw [← hstored]
  exact Store.current_congr (hkept _ (by simp) (by simp) (by simp))

-- The other version is the only one left, and its delete takes the pointer away.
theorem next_removal {early late : DeleteRequest} {earlyReference lateReference : ObjectReference}
    (h : first.Pair next provider hashed bucket) (hearly : first.Deleted early earlyReference)
    (hlate : next.Deleted late lateReference)
    (hallowed : first.adapter.requireDeleteAllowed (first.published provider bucket)
      early.checkedAt = .ok ())
    (hpermitted : ∀ version, first.adapter.requireDeleteAllowed (next.envelope version)
      late.checkedAt = .ok ())
    (hevidence : first.adapter.layout.legible
      (first.adapter.deletionValue early earlyReference)) :
    ∃ removal : Removal, removal.adapter = first.adapter ∧ removal.request = late ∧
      removal.resource = first.resource ∧ removal.object = first.object ∧
      removal.content = next.hash ∧ removal.moves = true ∧ removal.previous = none ∧
      removal.Finds unfailing (first.survivor next provider bucket early) := by
  obtain ⟨htidy, -, hgone, hkept⟩ := h.survives hearly hallowed hevidence
  generalize first.survivor next provider bucket early = survivor at htidy hgone hkept ⊢
  have hresource : first.adapter.layout.resourceToken late.resource = first.resource := by
    rw [hlate.resource, h.follows.resource]
    rfl
  have hobject : first.adapter.layout.objectToken lateReference.objectId = first.object := by
    rw [hlate.object, h.follows.objectId]
    rfl
  have hrecorded : first.adapter.layout.Recorded survivor first.resource first.object next.hash
      (next.published provider (first.stored provider bucket)) :=
    S3Layout.recorded_congr (hkept _ (by simp) (by simpa using h.follows.differs) (by simp))
      h.recorded_next
  have hpoints : first.adapter.layout.Points survivor first.resource first.object next.hash :=
    S3Layout.points_congr (hkept _ (by simp) (by simp) (by simp)) h.points
  have hnames : first.adapter.Names late lateReference next.hash := by
    rw [← h.follows.adapter]
    exact hlate.names
  obtain ⟨removal, hadapter, rfl, rfl, hcontent, hfinds⟩ :=
    Removal.found_legible htidy.legible htidy.sound h.opens.free (by
      rw [hlate.object, h.follows.objectId]
      exact h.opens.hashes.objectId) hnames
      ⟨_, by rw [hresource, hobject]; exact hrecorded, hpermitted _⟩
  have hat : removal.resource = first.resource ∧ removal.object = first.object := by
    rw [Removal.resource, Removal.object, hadapter]
    exact ⟨hresource, hobject⟩
  refine ⟨removal, hadapter, rfl, hat.1, hat.2, hcontent, ?_, ?_, hfinds⟩
  · have hsound : removal.adapter.layout.Sound hashed survivor := by
      rw [hadapter]
      exact htidy.sound
    apply hfinds.moves_of_points unfailing_outages hsound
    rw [hadapter, hat.1, hat.2, hcontent]
    exact hpoints
  · have hnone : first.adapter.newestIn survivor removal.request.resource
        removal.reference.objectId (some next.hash.digest) = .ok none := by
      apply S3ObjectAdapter.Legible.newestIn_none htidy.legible htidy.sound
      intro content hstored
      rw [hresource, hobject] at hstored
      have hother : content ≠ first.hash := by
        rintro rfl
        exact hstored hgone
      rw [hkept _ (by simp) (by simpa using hother) (by simp)] at hstored
      rcases h.only content hstored with rfl | rfl
      · exact absurd rfl hother
      · rfl
    have hfound := hfinds.previous
    rw [hadapter, hcontent, hnone, Except.ok.injEq] at hfound
    exact hfound.symm

-- Where versions are kept, the pointer that was under it comes back, to a version that
-- has gone.
theorem dangles {early late : DeleteRequest} {earlyReference lateReference : ObjectReference}
    (h : first.Pair next provider hashed bucket) (hversioned : bucket.versioned = true)
    (hearly : first.Deleted early earlyReference) (hlate : next.Deleted late lateReference)
    (hallowed : first.adapter.requireDeleteAllowed (first.published provider bucket)
      early.checkedAt = .ok ())
    (hpermitted : ∀ version, first.adapter.requireDeleteAllowed (next.envelope version)
      late.checkedAt = .ok ())
    (hevidence : first.adapter.layout.legible
      (first.adapter.deletionValue early earlyReference)) :
    first.adapter.layout.Points
        ((next.deletion late).run provider (first.survivor next provider bucket early)).2
        first.resource first.object first.hash ∧
      ((next.deletion late).run provider (first.survivor next provider bucket early)).2.current
        (first.adapter.layout.path (.reference first.resource first.object first.hash)) =
          none := by
  obtain ⟨htidy, hkeeps, hgone, hkept⟩ := h.survives hearly hallowed hevidence
  obtain ⟨removal, hadapter, rfl, hresource, hobject, hcontent, hmoves, hprevious, hfinds⟩ :=
    h.next_removal hearly hlate hallowed hpermitted hevidence
  generalize first.survivor next provider bucket early = survivor
    at htidy hkeeps hgone hkept hfinds ⊢
  have hsame : SameObjects (removal.reach provider survivor .evidence)
      ((next.deletion removal.request).run provider survivor).2 := by
    have hsound : removal.adapter.layout.Sound hashed survivor := by
      rw [hadapter]
      exact htidy.sound
    have hminted : removal.adapter.layout.Minted provider survivor := by
      rw [hadapter]
      exact htidy.minted
    rw [run_deletion, h.follows.adapter, ← hadapter]
    exact hfinds.carried_out hsound (hfinds.accepted_minted hsound hminted)
  have hpath : removal.latestPath = first.latestPath := by
    rw [Removal.latestPath, hadapter, hresource, hobject]
    rfl
  obtain ⟨newer, older, late, early, hne, hpointers, hbody⟩ := h.pointers hversioned
  generalize first.both next provider bucket = both at hkept hpointers
  have hafter : (removal.reach provider survivor .evidence).entries first.latestPath =
      [⟨older, some early⟩] := by
    have hunder : (removal.referenceGone provider survivor).entries first.latestPath =
        [⟨newer, some late⟩, ⟨older, some early⟩] := by
      rw [← hpath, removal.referenceGone_entries provider survivor removal.latestPath_ne_blobPath
        removal.latestPath_ne_referencePath, hpath]
      exact (hkept (.latest first.resource first.object) (by simp) (by simp) (by simp)).trans
        hpointers
    have hhead : (removal.referenceGone provider survivor).head removal.latestPath =
        some ⟨newer, some late⟩ := by
      rw [hpath, Store.head, hunder]
      rfl
    have hstays : (removal.referenceGone provider survivor).versioned = true := by
      rw [removal.referenceGone_versioned, hkeeps, hversioned]
    rw [Removal.reach, ← hpath, removal.recordEvidence_entries _
      removal.evidencePath_ne_latestPath.symm, Removal.pointerMoved, if_pos hmoves,
      Removal.movePointer, hprevious]
    simp only [hhead, Provider.without_reported, hstays, if_true, Store.delete_some_entries_self]
    rw [hpath, hunder]
    simp [Ne.symm hne]
  constructor
  · refine ⟨early, ?_, hbody⟩
    rw [hsame.current]
    change Store.current _ first.latestPath = _
    simp [Store.current, Store.head, hafter]
  · rw [hsame.current]
    apply Store.current_eq_none
    refine (removal.reach_entries provider survivor .evidence ?_ ?_ ?_ ?_).trans hgone
    · simp [Removal.blobPath, hadapter]
    · simpa [Removal.referencePath, hadapter, hcontent] using fun _ _ => h.follows.differs.symm
    · simp [Removal.latestPath, hadapter]
    · simp [Removal.evidencePath, hadapter]

end Pair

end Deposit

namespace Standard

variable {versioned : Bool}

-- The sample Resource is registered with a profile that lets its objects change.
def registration : Step := ⟨adapter, .createResource (resourceRequest .mutable), []⟩

def base (versioned : Bool) : Bucket := (registration.run provider (Store.empty versioned)).2

def registered : Value :=
  adapter.resourceValue (resourceRequest .mutable) resource (profile .mutable)

theorem base_eq (versioned : Bool) : base versioned =
    adapter.written (Store.empty versioned) (adapter.layout.resourceKey resource) registered := by
  have hrun : (adapter.createResource (resourceRequest .mutable)).run provider.handle
      (Store.empty versioned) = (.ok ⟨resource, profile .mutable, true⟩,
        adapter.written (Store.empty versioned) (adapter.layout.resourceKey resource)
          registered) := S3ObjectAdapter.run_createResource_new rfl rfl
  simp only [base, Step.run, registration, S3ObjectAdapter.execute]
  rw [runFaulty_map, runFaulty_nil, hrun]

theorem base_versioned (versioned : Bool) : (base versioned).versioned = versioned := by
  rw [base_eq]
  rfl

theorem base_issued (versioned : Bool) : (base versioned).issued = 1 := by
  rw [base_eq]
  rfl

theorem base_entries (versioned : Bool) {physical : PhysicalKey}
    (h : ∀ token, physical ≠ .registered token) :
    (base versioned).entries (adapter.layout.path physical) = [] := by
  have hne : adapter.layout.path physical ≠ adapter.layout.resourceKey resource := by
    change adapter.layout.path physical ≠ adapter.layout.path (.registered _)
    simpa using h _
  rw [base_eq, adapter.written_entries_of_ne _ hne]
  rfl

theorem registration_joins : registration.Joins adapter.layout hashed :=
  ⟨rfl, fun _ h => nomatch h⟩

theorem registered_legible : adapter.layout.legible registered := legible (by decide)

theorem base_tidy : adapter.layout.Tidy hashed provider (base versioned) where
  sound := (Step.ends registration_joins (S3Layout.sound_empty _ _ _)).1
  minted := Step.minted rfl registration_joins (S3Layout.sound_empty _ _ _) (.empty _ _ _)
  legible := by
    apply (S3Layout.legible_empty adapter.layout versioned).kept
    intro physical stored hcurrent hdocument
    right
    cases physical with
    | registered token =>
        by_cases hkey : adapter.layout.path (.registered token) =
            adapter.layout.resourceKey resource
        · rw [hkey, base_eq, S3ObjectAdapter.written, Store.put_current_self,
            Option.some.injEq] at hcurrent
          subst hcurrent
          exact ⟨registered, rfl, registered_legible⟩
        · rw [base_eq, Store.current_congr (adapter.written_entries_of_ne _ hkey _)] at hcurrent
          cases hcurrent
    | blob | reference | latest | orphan | deletion | schema | migration =>
        rw [Store.current_eq_none _ _ (base_entries _ (by simp))] at hcurrent
        cases hcurrent

theorem base_profile : adapter.profileAt (base versioned) resource = .ok (profile .mutable) := by
  have hcurrent : (base versioned).current (adapter.layout.resourceKey resource) =
      some (adapter.transport.jsonObject registered
        ⟨config.serverSideEncryption, config.kmsKeyId, none⟩) := by
    rw [base_eq]
    exact Store.put_current_self ..
  have hdocument : adapter.transport.document (base versioned)
      (adapter.layout.resourceKey resource) = .ok registered :=
    S3Transport.document_canonical hcurrent rfl (by decide) rfl registered_legible
  unfold S3ObjectAdapter.profileAt
  rw [hdocument]
  rfl

-- The put of the first text, and of the second one after it.
def opening (createOnly : Bool) (immutability : Value) (mutability : Mutability) : Deposit :=
  deposit createOnly immutability mutability "version-one" 1

def early : Deposit := opening false .null .mutable

def late : Deposit := deposit false .null .mutable "version-two" 2

theorem published_new (deposit : Deposit) :
    deposit.published provider (base true) = deposit.envelope (some (numbered 'v' 1)) := by
  rw [Deposit.published, Provider.reportedVersion, base_versioned, base_issued]
  rfl

theorem base_current {physical : PhysicalKey} (h : ∀ token, physical ≠ .registered token) :
    (base versioned).current (adapter.layout.path physical) = none :=
  Store.current_eq_none _ _ (base_entries _ h)

theorem base_latest :
    missingAsNone (adapter.latestEnvelope (base versioned) resource "channel") = .ok none := by
  apply S3ObjectAdapter.latestEnvelope_missing
  rw [S3ObjectAdapter.latestKey_eq]
  exact base_current (by simp)

theorem base_unwritten (deposit : Deposit) (hadapter : deposit.adapter = adapter)
    {physical : PhysicalKey} (h : ∀ token, physical ≠ .registered token) :
    (base versioned).entries (deposit.adapter.layout.path physical) = [] := by
  rw [hadapter]
  exact base_entries versioned h

theorem base_not_blocked (deposit : Deposit) (hadapter : deposit.adapter = adapter) :
    ¬deposit.Blocked (base versioned) := by
  unfold Deposit.Blocked Deposit.blobPath Deposit.referencePath Deposit.latestPath
  rw [hadapter, base_current (by simp), base_current (by simp), base_current (by simp)]
  simp

section Opening

variable {createOnly : Bool} {immutability : Value} {mutability : Mutability}

theorem opening_legible (mutability : Mutability) : adapter.layout.legible
    (((opening false .null mutability).envelope (some (numbered 'v' 1))).toDict common) := by
  cases mutability <;> exact deposit_legible _ _ _ _ _ (by decide) (by decide)

theorem opening_first
    (hmutability : effectiveImmutability (profile .mutable) immutability = .ok mutability) :
    (opening createOnly immutability mutability).First provider hashed (base true) where
  free := collisionFree
  hashes := putRequest_hashes (by simp [hashed, KNOWN_DIGESTS])
  before := base_tidy
  finds := deposit_finds base_profile hmutability (by decide) base_latest (by simp) rfl
  unblocked := base_not_blocked _ rfl
  pointer := one_first.pointer
  reference := by
    rw [published_new]
    exact opening_legible mutability
  fresh content := base_unwritten _ rfl (by simp)
  unpointed := by
    unfold Deposit.latestPath
    exact base_unwritten _ rfl (by simp)
  undeleted := base_current (by simp)

end Opening

theorem early_first : early.First provider hashed (base true) := opening_first rfl

theorem hash_ne : late.hash ≠ early.hash := by
  have hne : (hexdigest (ObjectCommon.encodeUtf8 "version-two")).text ≠
      (hexdigest (ObjectCommon.encodeUtf8 "version-one")).text := by decide
  exact fun h => hne (congrArg HexDigest.text h)

section Late

variable {createOnly : Bool} {immutability : Value} {mutability : Mutability}

theorem late_follows : late.Follows (opening createOnly immutability mutability) :=
  ⟨rfl, rfl, rfl, hash_ne⟩

variable (hmutability : effectiveImmutability (profile .mutable) immutability = .ok mutability)

include hmutability

theorem published_second : late.published provider
    ((opening createOnly immutability mutability).stored provider (base true)) =
      late.envelope (some (numbered 'v' 4)) := by
  have hfirst : (opening createOnly immutability mutability).First provider hashed (base true) :=
    opening_first hmutability
  have hissued : ((opening createOnly immutability mutability).stored provider
      (base true)).issued = 4 := by
    rw [hfirst.same.issued]
    simp only [Deposit.pointerStored, S3ObjectAdapter.written, Deposit.referenceStored,
      Deposit.blobStored, Store.put_issued, base_issued]
  rw [Deposit.published, Provider.reportedVersion, hfirst.versioned, base_versioned, hissued]
  rfl

theorem opening_latest : missingAsNone (adapter.latestEnvelope
    ((opening createOnly immutability mutability).stored provider (base true)) resource
      "channel") =
      .ok (some ((opening createOnly immutability mutability).published provider (base true))) := by
  have hfirst : (opening createOnly immutability mutability).First provider hashed (base true) :=
    opening_first hmutability
  have hlatest := hfirst.latest
  rw [show (opening createOnly immutability mutability).adapter = adapter from rfl,
    show (opening createOnly immutability mutability).request.resource = resource from rfl,
    show (opening createOnly immutability mutability).request.input.objectId = "channel" from rfl]
    at hlatest
  rw [hlatest]
  rfl

theorem opening_profile : adapter.profileAt
    ((opening createOnly immutability mutability).stored provider (base true)) resource =
      .ok (profile .mutable) := by
  have hfirst : (opening createOnly immutability mutability).First provider hashed (base true) :=
    opening_first hmutability
  exact (hfirst.finds.stored_profile provider hfirst.unblocked).trans base_profile

theorem late_lands : late.Lands provider hashed
    ((opening createOnly immutability mutability).stored provider (base true)) where
  free := collisionFree
  hashes := putRequest_hashes (by simp [hashed, KNOWN_DIGESTS])
  before := (opening_first hmutability).tidy
  finds := by
    refine deposit_finds (opening_profile hmutability) rfl (by decide)
      (opening_latest hmutability) (by simp) ?_
    have hdiffers :
        ((opening createOnly immutability mutability).published provider
          (base true)).metadata.digest ≠ common.digest (ObjectCommon.encodeUtf8 "version-two") :=
      fun h => hash_ne (HexDigest.digest_inj.mp h).symm
    simp [S3ObjectAdapter.checkExisting, putRequest, putInput, hdiffers, intent]
  unblocked := late_follows.not_blocked (opening_first hmutability).finds
    (opening_first hmutability).unblocked (base_unwritten _ rfl (by simp))
      ((opening_first hmutability).fresh _) rfl
  pointer := pointer_legible _
  reference := by
    rw [published_second hmutability]
    exact deposit_legible _ _ _ _ _ (by decide) (by decide)

theorem opening_versions :
    (opening createOnly immutability mutability).Pair late provider hashed (base true) :=
  ⟨late_follows, opening_first hmutability, late_lands hmutability⟩

end Late

theorem versions : early.Pair late provider hashed (base true) := opening_versions rfl

-- The deletes of the two versions.
theorem early_deleted : early.Deleted (deleteRequest early.hash 3) (objectReference early.hash) :=
  deleted false .null .mutable "version-one" 1 3

theorem late_deleted : late.Deleted (deleteRequest late.hash 4) (objectReference late.hash) :=
  deleted false .null .mutable "version-two" 2 4

theorem early_evidence : adapter.layout.legible
    (adapter.deletionValue (deleteRequest early.hash 3) (objectReference early.hash)) :=
  legible (by decide)

-- Both versions are put, and the first of them is deleted.
def versionSteps : List Step :=
  [registration, early.step, late.step, early.deletion (deleteRequest early.hash 3)]

theorem versionSteps_joins : ∀ step ∈ versionSteps, step.Joins adapter.layout hashed := by
  intro step hstep
  simp only [versionSteps, List.mem_cons, List.not_mem_nil, or_false] at hstep
  rcases hstep with rfl | rfl | rfl | rfl
  · exact registration_joins
  · exact Deposit.step_joins early_first.hashes
  · exact Deposit.step_joins versions.lands.hashes
  · exact Deposit.deletion_joins

theorem versionSteps_quiet : ∀ step ∈ versionSteps, step.plan = [] := by
  intro step hstep
  simp only [versionSteps, List.mem_cons, List.not_mem_nil, or_false] at hstep
  rcases hstep with rfl | rfl | rfl | rfl <;> rfl

theorem runSteps_versionSteps : runSteps provider (Store.empty true) versionSteps =
    early.survivor late provider (base true) (deleteRequest early.hash 3) := by
  rw [versionSteps, runSteps_cons]
  exact Deposit.runSteps_survivor ..

-- A version that the request wants to be immutable.
def fixed : Deposit := opening false wantsImmutable .immutable

theorem fixed_versions : fixed.Pair late provider hashed (base true) := opening_versions rfl

def fixedSteps : List Step := [registration, fixed.step]

theorem runSteps_fixedSteps :
    runSteps provider (Store.empty true) fixedSteps = fixed.stored provider (base true) := by
  rw [fixedSteps, runSteps_cons]
  exact (fixed.stored_eq provider (base true)).symm

end Standard

end MeridianS3
