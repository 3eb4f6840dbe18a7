import MeridianS3.Retry.Delete
import MeridianS3.Deposit.First

namespace MeridianS3

open Effect ObjectStore Json

-- The keys that hold an object: its blobs, its references and its latest pointer.
def PhysicalKey.ofObject (resource object : HexDigest) : PhysicalKey → Prop
  | .blob holder held _ | .reference holder held _ | .latest holder held =>
      holder = resource ∧ held = object
  | _ => False

namespace S3ObjectAdapter

variable (adapter : S3ObjectAdapter) (provider : Provider) (bucket : Bucket)
variable (request : DeleteRequest)

-- A delete that nothing strikes removes the version, or leaves its object alone.
structure DeletesOrKeeps : Prop where
  deletes : ∀ reference content, adapter.Names request reference content →
    adapter.Permits bucket request reference.objectId content →
    ((adapter.delete request).run provider.handle bucket).1 = .ok true
  keeps : ∀ failure, ((adapter.delete request).run provider.handle bucket).1 = .error failure →
    ∀ reference, adapter.reference request.resource request.reference "delete" true =
      .ok reference → ∀ physical : PhysicalKey, physical.ofObject
        (adapter.layout.resourceToken request.resource)
        (adapter.layout.objectToken reference.objectId) →
      ((adapter.delete request).run provider.handle bucket).2.entries
          (adapter.layout.path physical) = bucket.entries (adapter.layout.path physical)

-- What a delete reads can be read, and nothing has been written where it writes its evidence.
structure Deletable (resource : ResourceRef) (objectId : String) (content : HexDigest) :
    Prop where
  version : ∃ envelope, adapter.envelopeAt bucket resource objectId content.digest = .ok envelope
  latest : ∃ latest, missingAsNone (adapter.latestEnvelope bucket resource objectId) = .ok latest
  versions : ∀ key ∈ (keysUnder bucket (adapter.layout.versionPrefix resource objectId)
    none).take (1000 * MAX_INTERNAL_LIST_PAGES),
      ∃ envelope, adapter.scanned bucket key = .ok envelope
  unrecorded : bucket.current (adapter.layout.path (.deletion
    (adapter.layout.resourceToken resource) (adapter.layout.objectToken objectId) content)) = none

end S3ObjectAdapter

variable {provider : Provider} {adapter : S3ObjectAdapter} {hashed : Set Bytes}
variable {bucket after : Bucket} {request : DeleteRequest}

namespace Removal

variable {removal : Removal}

-- What a delete finds can be read, and has been stored.
theorem Finds.deletable (h : removal.Finds unfailing bucket)
    (hevidence : bucket.current removal.evidencePath = none) :
    removal.adapter.Deletable bucket removal.request.resource removal.reference.objectId
      removal.content where
  version := ⟨removal.envelope, h.envelope⟩
  latest := ⟨removal.latest, h.latest.2 unfailing_outages⟩
  versions := S3ObjectAdapter.newestInPages_ok_iff.mp ⟨removal.previous, h.previous⟩
  unrecorded := hevidence

end Removal

-- A delete that can read all that it reads finds what it needs.
theorem S3ObjectAdapter.Deletable.finds (hsound : adapter.layout.Sound hashed bucket)
    {reference : ObjectReference} {content : HexDigest}
    (hnames : adapter.Names request reference content)
    (hpermits : adapter.Permits bucket request reference.objectId content)
    (h : adapter.Deletable bucket request.resource reference.objectId content) :
    ∃ removal : Removal, removal.adapter = adapter ∧ removal.request = request ∧
      removal.reference = reference ∧ removal.content = content ∧
      removal.Finds unfailing bucket := by
  obtain ⟨envelope, henvelope⟩ := h.version
  obtain ⟨latest, hlatest⟩ := h.latest
  obtain ⟨previous, hprevious⟩ := S3ObjectAdapter.newestInPages_ok_iff.mpr h.versions
  obtain ⟨recorded, hrecorded, hallowed⟩ := hpermits
  obtain ⟨named, hnamed, hstored, -, -⟩ := S3ObjectAdapter.envelopeAt_ok hsound henvelope
  rw [HexDigest.digest_inj] at hnamed
  subst hnamed
  obtain rfl := S3Layout.recorded_unique hrecorded hstored
  exact Removal.found hsound hnames henvelope hallowed hlatest hprevious

-- Where everything can be read, the evidence alone decides.
theorem S3Layout.Tidy.deletable {objectId : String} {content : HexDigest}
    (h : adapter.layout.Tidy hashed provider bucket) (hfree : adapter.layout.CollisionFree hashed)
    (hobject : ObjectCommon.encodeUtf8 objectId ∈ hashed)
    (hpermits : adapter.Permits bucket request objectId content)
    (hevidence : bucket.current (adapter.layout.path (.deletion
      (adapter.layout.resourceToken request.resource) (adapter.layout.objectToken objectId)
      content)) = none) : adapter.Deletable bucket request.resource objectId content where
  version := by
    obtain ⟨envelope, hrecorded, -⟩ := hpermits
    exact ⟨envelope, S3ObjectAdapter.Legible.envelopeAt h.legible h.sound hfree hobject hrecorded⟩
  latest := S3ObjectAdapter.Legible.latestEnvelope_total h.legible h.sound hfree hobject
  versions := S3ObjectAdapter.Legible.versions h.legible h.sound _
  unrecorded := hevidence

namespace Deposit.First

variable {deposit : Deposit} {reference : ObjectReference}

theorem deletion_same (h : deposit.First provider hashed bucket)
    (hunversioned : bucket.versioned = false)
    (hdelete : deposit.Deleted request reference)
    (hallowed : deposit.adapter.requireDeleteAllowed
      (deposit.published provider bucket) request.checkedAt = .ok ()) :
    SameObjects ((deposit.removed provider bucket request reference).reach provider
        (deposit.stored provider bucket) .evidence)
      ((deposit.deletion request).run provider (deposit.stored provider bucket)).2 := by
  have hfinds := h.removal hdelete hallowed
  have hversioned : (deposit.stored provider bucket).versioned = false :=
    h.versioned.trans hunversioned
  have hsound : (deposit.removed provider bucket request reference).adapter.layout.Sound hashed
      (deposit.stored provider bucket) := h.tidy.sound
  rw [run_deletion]
  exact hfinds.carried_out hsound (hfinds.accepted hsound hversioned)

-- The only version of an object is deleted with all that belongs to it.
theorem cleared (h : deposit.First provider hashed bucket)
    (hunversioned : bucket.versioned = false)
    (hdelete : deposit.Deleted request reference)
    (hallowed : deposit.adapter.requireDeleteAllowed
      (deposit.published provider bucket) request.checkedAt = .ok ()) :
    (deposit.removed provider bucket request reference).Restored provider
      (deposit.stored provider bucket)
      ((deposit.deletion request).run provider (deposit.stored provider bucket)).2 :=
  (h.removal hdelete hallowed).restored h.tidy.sound (h.versioned.trans hunversioned)
    request.checkedAt request.deletedAt (h.deletion_same hunversioned hdelete hallowed)

-- It can be put again.
theorem stored_again (h : deposit.First provider hashed bucket)
    (hunversioned : bucket.versioned = false)
    (hdelete : deposit.Deleted request reference)
    (hallowed : deposit.adapter.requireDeleteAllowed
      (deposit.published provider bucket) request.checkedAt = .ok ()) :
    deposit.Finds ((deposit.deletion request).run provider (deposit.stored provider bucket)).2 ∧
      ¬deposit.Blocked ((deposit.deletion request).run provider
        (deposit.stored provider bucket)).2 := by
  have hcleared := h.cleared hunversioned hdelete hallowed
  obtain ⟨hblobPath, hreferencePath, hlatestPath⟩ := removed_paths provider bucket hdelete
  have hblob := hcleared.blob
  have hreference := hcleared.reference
  have hlatest := hcleared.pointer (removed_moves deposit request reference)
  rw [hblobPath] at hblob
  rw [hreferencePath] at hreference
  change Store.current _ (deposit.removed provider bucket request reference).latestPath = none
    at hlatest
  rw [hlatestPath] at hlatest
  constructor
  · apply h.finds.elsewhere
    · have hkey : deposit.adapter.layout.resourceKey deposit.request.resource =
          deposit.adapter.layout.path (.registered deposit.resource) := rfl
      rw [(h.deletion_same hunversioned hdelete hallowed).entries, hkey]
      refine (Removal.reach_entries _ _ _ _ ?_ ?_ ?_ ?_).trans (h.registered _)
      · rw [hblobPath]
        simp [blobPath]
      · rw [hreferencePath]
        simp [referencePath]
      · rw [hlatestPath]
        simp [latestPath]
      · simp [Removal.evidencePath, removed]
    · have hempty : missingAsNone (deposit.adapter.latestEnvelope bucket
          deposit.request.resource deposit.request.input.objectId) = .ok none :=
        S3ObjectAdapter.latestEnvelope_missing (Store.current_eq_none _ _ h.unpointed)
      rw [hempty]
      exact S3ObjectAdapter.latestEnvelope_missing hlatest
  · rintro (⟨-, hsome⟩ | hsome | ⟨-, hsome⟩)
    · simp [hblob] at hsome
    · simp [hreference] at hsome
    · simp [hlatest] at hsome

end Deposit.First

-- A version that has been put again after its deletion is not deleted a second time.
theorem Deposit.First.not_deleted_twice {deposit : Deposit} {reference : ObjectReference}
    (h : deposit.First provider hashed bucket)
    (hunversioned : bucket.versioned = false) (hdelete : deposit.Deleted request reference)
    (hallowed : ∀ version, deposit.adapter.requireDeleteAllowed (deposit.envelope version)
      request.checkedAt = .ok ()) :
    ¬deposit.adapter.DeletesOrKeeps provider (runSteps provider bucket
      [deposit.step, deposit.deletion request, deposit.step]) request := by
  have hbucket : runSteps provider bucket
      [deposit.step, deposit.deletion request, deposit.step] = (deposit.step.run provider
        ((deposit.deletion request).run provider (deposit.stored provider bucket)).2).2 := rfl
  obtain ⟨hfinds, hfree⟩ := h.stored_again hunversioned hdelete (hallowed _)
  have hevidence := (h.cleared hunversioned hdelete (hallowed _)).evidence
  rw [hbucket]
  generalize hfirst : ((deposit.deletion request).run provider
    (deposit.stored provider bucket)).2 = cleared at hfinds hfree hevidence ⊢
  have hsound : deposit.adapter.layout.Sound hashed cleared := by
    rw [← hfirst]
    exact (Step.ends deletion_joins h.tidy.sound).1
  have hagain : deposit.adapter.layout.Sound hashed (deposit.step.run provider cleared).2 :=
    (Step.ends (step_joins h.hashes) hsound).1
  have hsame : SameObjects (deposit.pointerStored provider cleared)
      (deposit.step.run provider cleared).2 := by
    rw [run_step]
    exact (hfinds.commits hfree).2
  intro hdeletes
  have hdeleted := hdeletes.deletes reference deposit.hash hdelete.names ⟨_, by
    rw [hdelete.resource, hdelete.object]
    exact S3Layout.recorded_congr (by rw [hsame.entries]; rfl)
      (hfinds.reach_recorded (Or.inr rfl)), hallowed _⟩
  have hstill : ((deposit.step.run provider cleared).2.current
      (deposit.removed provider bucket request reference).evidencePath).isSome = true := by
    rw [hsame.current, Store.current_congr]
    · exact hevidence
    · apply deposit.reach_entries provider cleared .pointer
      · simp [Removal.evidencePath, removed, blobPath]
      · simp [Removal.evidencePath, removed, referencePath]
      · simp [Removal.evidencePath, removed, latestPath]
  have hends : DeleteEnds provider deposit.adapter request unfailing
      (deposit.step.run provider cleared).2
      ((deposit.adapter.delete request).run provider.handle
        (deposit.step.run provider cleared).2).1
      ((deposit.adapter.delete request).run provider.handle
        (deposit.step.run provider cleared).2).2 := delete_unfailing hagain
  generalize (deposit.adapter.delete request).run provider.handle
    (deposit.step.run provider cleared).2 = run at hends hdeleted
  rcases run with ⟨result, after⟩
  cases hends with
  | refused | rejected | cut | recorded => cases hdeleted
  | completed removal _ hadapter hrequest hfound hnone =>
      have hnames : removal.adapter.Names removal.request reference deposit.hash := by
        rw [hadapter, hrequest]
        exact hdelete.names
      obtain ⟨hreference, hcontent⟩ := hfound.named hnames
      have hpath : removal.evidencePath =
          (deposit.removed provider bucket request reference).evidencePath := by
        simp only [Removal.evidencePath, Removal.resource, Removal.object, removed, hadapter,
          hrequest, hreference, hcontent]
      rw [hpath] at hnone
      simp [hnone] at hstill

theorem delete_all_or_nothing_iff (versioned : Bool) (steps : List Step)
    (hquiet : ∀ step ∈ steps, step.plan = [])
    (hkeyed : ∀ step ∈ steps, step.adapter.layout = adapter.layout)
    (hreached : bucket = runSteps provider (Store.empty versioned) steps) :
    adapter.DeletesOrKeeps provider bucket request ↔
      ∀ reference content, adapter.Names request reference content →
        adapter.Permits bucket request reference.objectId content →
        adapter.Deletable bucket request.resource reference.objectId content := by
  have hjoin (step : Step) (hstep : step ∈ steps) : step.Joins adapter.layout Set.univ :=
    ⟨hkeyed step hstep, fun request _ => request.hashes_univ⟩
  have hempty := S3Layout.sound_empty adapter.layout Set.univ versioned
  have hsound : adapter.layout.Sound Set.univ bucket := by
    rw [hreached]
    exact runSteps_sound hjoin hempty
  have hminted : adapter.layout.Minted provider bucket := by
    rw [hreached]
    exact runSteps_minted hquiet hjoin hempty (.empty _ _ _)
  have hends : DeleteEnds provider adapter request unfailing bucket
      ((adapter.delete request).run provider.handle bucket).1
      ((adapter.delete request).run provider.handle bucket).2 := delete_unfailing hsound
  constructor
  · intro h reference content hnames hpermits
    have hdeleted := h.deletes reference content hnames hpermits
    generalize (adapter.delete request).run provider.handle bucket = run at hends hdeleted
    rcases run with ⟨result, after⟩
    cases hends with
    | refused | rejected | cut | recorded => cases hdeleted
    | completed removal _ hadapter hrequest hfinds hevidence =>
        subst hadapter hrequest
        obtain ⟨rfl, rfl⟩ := hfinds.named hnames
        exact hfinds.deletable hevidence
  · intro h
    -- What the delete has found, it names and may delete.
    have hdeletable (removal : Removal) (hadapter : removal.adapter = adapter)
        (hrequest : removal.request = request) (hfinds : removal.Finds unfailing bucket) :
        adapter.Deletable bucket request.resource removal.reference.objectId removal.content := by
      subst hadapter hrequest
      exact h _ _ ⟨hfinds.reference, hfinds.digest⟩
        ⟨removal.envelope, hfinds.recorded hsound, hfinds.allowed⟩
    have haccepted (removal : Removal) (error : Failure) (hadapter : removal.adapter = adapter)
        (hfinds : removal.Finds unfailing bucket) :
        (provider.handle (.deleteObject removal.blobPath removal.version) bucket).1 ≠
          .error error := by
      subst hadapter
      exact hfinds.accepted_minted hsound hminted error
    have hunrecorded (removal : Removal) (hadapter : removal.adapter = adapter)
        (hrequest : removal.request = request) (hfinds : removal.Finds unfailing bucket) :
        ¬(bucket.current removal.evidencePath).isSome = true := by
      have hdelete := hdeletable removal hadapter hrequest hfinds
      subst hadapter hrequest
      have hnone : bucket.current removal.evidencePath = none := hdelete.unrecorded
      simp [hnone]
    constructor
    · intro reference content hnames hpermits
      obtain ⟨found, hadapter, hrequest, -, -, hfound⟩ :=
        (h reference content hnames hpermits).finds hsound hnames hpermits
      generalize (adapter.delete request).run provider.handle bucket = run at hends ⊢
      rcases run with ⟨result, after⟩
      cases hends with
      | refused failure _ _ hcause =>
          rcases hcause unfailing_outages with ⟨_, _, -, hfault⟩ | hnone
          · exact hfault.elim
          · exact absurd hfound (hnone found hadapter hrequest)
      | rejected removal failure error _ hother _ hfinds hrejects =>
          exact absurd hrejects (haccepted removal error hother hfinds)
      | cut _ _ _ _ _ _ _ _ hfault => exact hfault.elim
      | recorded removal _ hother hsame hfinds hevidence =>
          exact absurd hevidence (hunrecorded removal hother hsame hfinds)
      | completed => rfl
    · intro failure hfailed reference hreference physical hobject
      generalize (adapter.delete request).run provider.handle bucket = run at hends hfailed ⊢
      rcases run with ⟨result, after⟩
      cases hends with
      | refused failure _ hsame => exact congrFun hsame.entries _
      | rejected removal failure error _ hother _ hfinds hrejects =>
          exact absurd hrejects (haccepted removal error hother hfinds)
      | cut _ _ _ _ _ _ _ _ hfault => exact hfault.elim
      | recorded removal _ hother hsame hfinds hevidence =>
          exact absurd hevidence (hunrecorded removal hother hsame hfinds)
      | completed => cases hfailed

theorem only_version_deleted : Standard.adapter.DeletesOrKeeps Standard.provider
    (Standard.one.stored Standard.provider (Store.empty false)) (Standard.deleteRequest Standard.one.hash 2) := by
  have htidy : Standard.adapter.layout.Tidy Standard.hashed Standard.provider
      (Standard.one.stored Standard.provider (Store.empty false)) := Standard.one_first.tidy
  refine (delete_all_or_nothing_iff false [Standard.one.step] (by simp [Deposit.step])
    (by simp [Deposit.step, Standard.one, Standard.deposit]) (Standard.one.stored_eq ..)).mpr ?_
  intro reference content hnames hpermits
  have hown : Standard.adapter.Names (Standard.deleteRequest Standard.one.hash 2)
      (Standard.objectReference Standard.one.hash) Standard.one.hash := ⟨rfl, rfl⟩
  obtain rfl : Standard.objectReference Standard.one.hash = reference :=
    Except.ok.inj (hown.1.symm.trans hnames.1)
  obtain rfl : Standard.one.hash = content :=
    HexDigest.digest_inj.mp (Option.some.inj (hown.2.symm.trans hnames.2))
  exact htidy.deletable Standard.collisionFree Standard.objectId_hashed hpermits
    Standard.one_first.unrecorded

theorem stored_again_not_deleted : ¬Standard.adapter.DeletesOrKeeps Standard.provider
    (runSteps Standard.provider (Store.empty false)
      [Standard.one.step, Standard.one.deletion (Standard.deleteRequest Standard.one.hash 2),
        Standard.one.step]) (Standard.deleteRequest Standard.one.hash 2) :=
  Standard.one_first.not_deleted_twice rfl (Standard.deleted ..) fun _ => rfl

end MeridianS3
