import MeridianS3.Acknowledged
import MeridianS3.Deposit.Reupload
import MeridianS3.Spool.Theorems

namespace MeridianS3

open Effect ObjectStore Json

-- Every blob has one version at most, and the reference of a version records that one.
structure S3Layout.Paired (layout : S3Layout) (provider : Provider) (bucket : Bucket) : Prop where
  single : ∀ resource object content,
    (bucket.entries (layout.path (.blob resource object content))).length ≤ 1
  recorded : ∀ resource object content envelope,
    layout.Recorded bucket resource object content envelope →
      ∃ id stored, bucket.entries (layout.path (.blob resource object content)) =
          [⟨id, some stored⟩] ∧
        envelope.blobVersionId = .ofOption (provider.reportedVersion bucket id)

-- No put carries a blob to a versioned bucket in parts while a version of it is stored there.
def Step.UploadsOnce (step : Step) (bucket : Bucket) : Prop :=
  ∀ deposit : Deposit, deposit.adapter = step.adapter → step.operation = .put deposit.request →
    deposit.Finds bucket → deposit.multipart = true → bucket.versioned = true →
      bucket.entries deposit.blobPath = []

section Runs

variable {provider : Provider} {layout : S3Layout} {hashed : Set Bytes} {bucket after : Bucket}

theorem Provider.reportedVersion_congr (hversioned : after.versioned = bucket.versioned) (id : Nat) :
    provider.reportedVersion after id = provider.reportedVersion bucket id := by
  rw [reportedVersion, reportedVersion, hversioned]

namespace S3Layout

theorem paired_empty (layout : S3Layout) (provider : Provider) (versioned : Bool) :
    layout.Paired provider (Store.empty versioned) := by
  refine ⟨fun _ _ _ => Nat.zero_le 1, ?_⟩
  rintro resource object content envelope ⟨-, stored, hcurrent, -⟩
  cases hcurrent

-- Buckets that agree on the blobs and the references.
theorem Paired.congr (h : layout.Paired provider bucket)
    (hversioned : after.versioned = bucket.versioned)
    (hblob : ∀ resource object content,
      after.entries (layout.path (.blob resource object content)) =
        bucket.entries (layout.path (.blob resource object content)))
    (hreference : ∀ resource object content,
      after.entries (layout.path (.reference resource object content)) =
        bucket.entries (layout.path (.reference resource object content))) :
    layout.Paired provider after where
  single resource object content := by
    rw [hblob]
    exact h.single resource object content
  recorded resource object content envelope hrecorded := by
    obtain ⟨id, stored, hentries, hversion⟩ := h.recorded resource object content envelope
      (S3Layout.recorded_congr (hreference resource object content).symm hrecorded)
    refine ⟨id, stored, (hblob resource object content).trans hentries, ?_⟩
    rw [hversion, Provider.reportedVersion_congr hversioned]

theorem Paired.same (h : layout.Paired provider bucket) (hsame : SameObjects bucket after) :
    layout.Paired provider after :=
  h.congr hsame.versioned (fun _ _ _ => by rw [hsame.entries]) fun _ _ _ => by rw [hsame.entries]

theorem Paired.beside (h : layout.Paired provider bucket) (hbeside : layout.Beside bucket after) :
    layout.Paired provider after :=
  h.congr hbeside.versioned (fun _ _ _ => hbeside.entries _ (by simp)) fun _ _ _ =>
    hbeside.entries _ (by simp)

end S3Layout

namespace Deposit

variable {deposit : Deposit}

theorem blobStored_blob (hfree : bucket.versioned = true → bucket.entries deposit.blobPath = []) :
    (deposit.blobStored bucket).entries deposit.blobPath =
      [⟨bucket.issued, some ⟨deposit.header, deposit.content⟩⟩] := by
  rw [blobStored, Store.put_entries_self]
  cases hversioned : bucket.versioned with
  | false => rfl
  | true => rw [if_pos rfl, hfree hversioned]

-- The upload of a blob that is not stored, or that takes the place of the stored one.
theorem blobStored_paired (h : deposit.adapter.layout.Paired provider bucket)
    (hfree : bucket.versioned = true → bucket.entries deposit.blobPath = []) :
    deposit.adapter.layout.Paired provider (deposit.blobStored bucket) := by
  have hstored := blobStored_blob hfree
  have hother {resource object content : HexDigest} (hne : deposit.adapter.layout.path
      (.blob resource object content) ≠ deposit.blobPath) :
      (deposit.blobStored bucket).entries (deposit.adapter.layout.path
        (.blob resource object content)) = bucket.entries (deposit.adapter.layout.path
          (.blob resource object content)) := Store.put_entries_of_ne _ hne _
  constructor
  · intro resource object content
    by_cases hown : deposit.adapter.layout.path (.blob resource object content) = deposit.blobPath
    · rw [hown, hstored]
      exact Nat.le_refl 1
    · rw [hother hown]
      exact h.single resource object content
  · intro resource object content envelope hrecorded
    have hbefore : deposit.adapter.layout.Recorded bucket resource object content envelope :=
      S3Layout.recorded_congr (Store.put_entries_of_ne _ (by simp [blobPath]) _).symm hrecorded
    obtain ⟨id, stored, hentries, hversion⟩ := h.recorded resource object content envelope hbefore
    by_cases hown : deposit.adapter.layout.path (.blob resource object content) = deposit.blobPath
    · have hunversioned : bucket.versioned = false := by
        by_contra hversioned
        rw [hown, hfree (by simpa using hversioned)] at hentries
        cases hentries
      have hnone (number : Nat) : provider.reportedVersion bucket number = none := by
        simp [Provider.reportedVersion, hunversioned]
      have hnext : provider.reportedVersion (deposit.blobStored bucket) bucket.issued = none := by
        simp [Provider.reportedVersion, blobStored, hunversioned]
      rw [hnone] at hversion
      rw [hown, hstored]
      exact ⟨bucket.issued, _, rfl, by rw [hversion, hnext]⟩
    · exact ⟨id, stored, (hother hown).trans hentries, hversion⟩

-- What is published records the blob that has been uploaded.
theorem referenceStored_paired (hfinds : deposit.Finds bucket)
    (h : deposit.adapter.layout.Paired provider bucket)
    (hfree : bucket.versioned = true → bucket.entries deposit.blobPath = []) :
    deposit.adapter.layout.Paired provider (deposit.referenceStored provider bucket) := by
  have hblob := blobStored_paired h hfree
  have hreported (id : Nat) : provider.reportedVersion (deposit.referenceStored provider bucket) id =
      provider.reportedVersion bucket id :=
    Provider.reportedVersion_congr (deposit.reach_versioned provider bucket .reference) id
  have hentries (resource object content : HexDigest) :
      (deposit.referenceStored provider bucket).entries (deposit.adapter.layout.path
        (.blob resource object content)) = (deposit.blobStored bucket).entries
          (deposit.adapter.layout.path (.blob resource object content)) :=
    Store.put_entries_of_ne _ (by simp [referencePath]) _
  constructor
  · intro resource object content
    rw [hentries]
    exact hblob.single resource object content
  · intro resource object content envelope hrecorded
    rw [hentries]
    by_cases hown : deposit.adapter.layout.path (.reference resource object content) =
        deposit.referencePath
    · simp only [referencePath, S3Layout.path, PhysicalKey.render_inj,
        PhysicalKey.reference.injEq] at hown
      obtain ⟨rfl, rfl, rfl⟩ := hown
      have hpublished : deposit.adapter.layout.Recorded (deposit.reach provider bucket .reference)
          deposit.resource deposit.object deposit.hash (deposit.published provider bucket) :=
        hfinds.reach_recorded (Or.inl rfl)
      rw [reach] at hpublished
      obtain rfl := S3Layout.recorded_unique hrecorded hpublished
      have hversion : (deposit.published provider bucket).blobVersionId =
          .ofOption (provider.reportedVersion bucket bucket.issued) := rfl
      have hblobs := blobStored_blob hfree
      rw [blobPath] at hblobs
      rw [hblobs, hversion]
      exact ⟨bucket.issued, _, rfl, by rw [hreported]⟩
    · have hbefore : deposit.adapter.layout.Recorded (deposit.blobStored bucket) resource object
          content envelope := S3Layout.recorded_congr (Store.put_entries_of_ne _ hown _).symm hrecorded
      obtain ⟨id, stored, hstored, hversion⟩ := hblob.recorded _ _ _ _ hbefore
      refine ⟨id, stored, hstored, ?_⟩
      rw [hversion, hreported]
      exact congrArg _ (Provider.reportedVersion_congr
        (deposit.reach_versioned provider bucket .blob) id)

theorem pointerStored_paired (hfinds : deposit.Finds bucket)
    (h : deposit.adapter.layout.Paired provider bucket)
    (hfree : bucket.versioned = true → bucket.entries deposit.blobPath = []) :
    deposit.adapter.layout.Paired provider (deposit.pointerStored provider bucket) := by
  have hentries {key : String} (hne : key ≠ deposit.latestPath) :
      (deposit.pointerStored provider bucket).entries key =
        (deposit.referenceStored provider bucket).entries key := by
    rw [pointerStored]
    exact deposit.adapter.written_entries_of_ne _ hne _
  have hversioned : (deposit.pointerStored provider bucket).versioned =
      (deposit.referenceStored provider bucket).versioned :=
    (deposit.reach_versioned provider bucket .pointer).trans
      (deposit.reach_versioned provider bucket .reference).symm
  exact (referenceStored_paired hfinds h hfree).congr hversioned
    (fun _ _ _ => hentries (by simp [latestPath])) fun _ _ _ => hentries (by simp [latestPath])

-- An upload that goes through finds no other version of its blob.
theorem blob_fresh {step : Step} (hadapter : deposit.adapter = step.adapter)
    (hoperation : step.operation = .put deposit.request)
    (hsound : deposit.adapter.layout.Sound hashed bucket) (hfinds : deposit.Finds bucket)
    (honce : step.UploadsOnce bucket)
    (hfree : ¬(deposit.multipart = false ∧ (bucket.current deposit.blobPath).isSome = true))
    (hversioned : bucket.versioned = true) : bucket.entries deposit.blobPath = [] := by
  cases hmultipart : deposit.multipart with
  | true => exact honce deposit hadapter hoperation hfinds hmultipart hversioned
  | false =>
      by_contra hstored
      exact hfree ⟨hmultipart, (hsound.current_isSome_iff _).mpr hstored⟩

end Deposit

section Steps

variable {step : Step}

theorem PutEnds.paired {request : PutRequest} {result : Except Failure ObjectMetadata}
    (hsound : step.adapter.layout.Sound hashed bucket) (hoperation : step.operation = .put request)
    (honce : step.UploadsOnce bucket) (hpaired : step.adapter.layout.Paired provider bucket)
    (h : PutEnds provider step.adapter request unfailing bucket result after) :
    step.adapter.layout.Paired provider after := by
  cases h with
  | refused _ _ hsame => exact hpaired.same hsame
  | returned _ _ hsame => exact hpaired.same hsame
  | cut _ _ _ _ _ _ _ _ _ hfault => exact hfault.elim
  | blocked deposit phase failure _ hadapter hrequest hfinds _ hphase hbeside hhalts =>
      subst hrequest
      rw [← hadapter] at hsound hpaired hbeside ⊢
      refine S3Layout.Paired.beside ?_ hbeside
      by_cases hblob : deposit.multipart = false ∧ (bucket.current deposit.blobPath).isSome = true
      · rw [hhalts, Deposit.halts, if_pos hblob]
        exact hpaired
      · have hfree := Deposit.blob_fresh hadapter hoperation hsound hfinds honce hblob
        cases phase with
        | start => exact hpaired
        | blob => exact Deposit.blobStored_paired hpaired hfree
        | reference => exact Deposit.referenceStored_paired hfinds hpaired hfree
        | pointer => exact absurd rfl hphase
  | committed deposit _ hadapter hrequest hfinds hunblocked hsame =>
      subst hrequest
      rw [← hadapter] at hsound hpaired ⊢
      have hfree := Deposit.blob_fresh hadapter hoperation hsound hfinds honce
        fun hblob => hunblocked (Or.inl hblob)
      exact (Deposit.pointerStored_paired hfinds hpaired hfree).same hsame

-- The version of the blob that a delete removes is the only one.
theorem Removal.Finds.blob_gone {removal : Removal}
    (hsound : removal.adapter.layout.Sound hashed bucket)
    (hpaired : removal.adapter.layout.Paired provider bucket)
    {faults : S3Call → Fault Failure → Prop} (h : removal.Finds faults bucket) :
    (removal.reach provider bucket .evidence).entries removal.blobPath = [] := by
  obtain ⟨id, stored, hentries, hversion⟩ := hpaired.recorded _ _ _ _ (h.recorded hsound)
  rw [h.version] at hversion
  have hgone : (removal.blobGone provider bucket).entries removal.blobPath = [] := by
    rw [Removal.blobGone, Value.ofOption_injective hversion, Provider.without_reported]
    change bucket.entries removal.blobPath = _ at hentries
    cases hversioned : bucket.versioned with
    | true => simp [hentries]
    | false => simp [Store.delete_none_entries_self _ _ hversioned]
  rw [Removal.reach, removal.recordEvidence_entries _ (by simp [Removal.blobPath,
    Removal.evidencePath]), removal.pointerMoved_blobPath, hgone]

-- The version that is removed is recorded no longer, and the others keep their blobs.
theorem Removal.Finds.reach_paired {removal : Removal}
    (hsound : removal.adapter.layout.Sound hashed bucket)
    (hpaired : removal.adapter.layout.Paired provider bucket)
    {faults : S3Call → Fault Failure → Prop} (h : removal.Finds faults bucket) :
    removal.adapter.layout.Paired provider (removal.reach provider bucket .evidence) := by
  have hgone := h.blob_gone hsound hpaired
  have hreference : (removal.reach provider bucket .evidence).entries removal.referencePath = [] :=
    Removal.reference_gone h ⟨by simp, by simp⟩
  have hblob {resource object content : HexDigest} (hother : removal.adapter.layout.path
      (.blob resource object content) ≠ removal.blobPath) :
      (removal.reach provider bucket .evidence).entries (removal.adapter.layout.path
        (.blob resource object content)) = bucket.entries (removal.adapter.layout.path
          (.blob resource object content)) :=
    removal.reach_entries provider bucket .evidence hother (by simp [Removal.referencePath])
      (by simp [Removal.latestPath]) (by simp [Removal.evidencePath])
  constructor
  · intro resource object content
    by_cases hown : removal.adapter.layout.path (.blob resource object content) = removal.blobPath
    · rw [hown, hgone]
      exact Nat.zero_le 1
    · rw [hblob hown]
      exact hpaired.single resource object content
  · intro resource object content envelope hrecorded
    by_cases hown : removal.adapter.layout.path (.reference resource object content) =
        removal.referencePath
    · obtain ⟨-, stored, hcurrent, -⟩ := hrecorded
      rw [hown, Store.current_eq_none _ _ hreference] at hcurrent
      cases hcurrent
    · have hbefore : removal.adapter.layout.Recorded bucket resource object content envelope :=
        S3Layout.recorded_congr (removal.reach_entries provider bucket .evidence
          (by simp [Removal.blobPath]) hown (by simp [Removal.latestPath])
          (by simp [Removal.evidencePath])).symm hrecorded
      obtain ⟨id, stored, hentries, hversion⟩ := hpaired.recorded _ _ _ _ hbefore
      have hother : removal.adapter.layout.path (.blob resource object content) ≠
          removal.blobPath := by
        simpa [Removal.blobPath, Removal.referencePath] using hown
      refine ⟨id, stored, (hblob hother).trans hentries, ?_⟩
      rw [hversion, Provider.reportedVersion_congr (removal.reach_versioned provider bucket .evidence)]

theorem DeleteEnds.paired {request : DeleteRequest} {result : Except Failure Bool}
    {faults : S3Call → Fault Failure → Prop} (hfaults : ∀ call fault, ¬faults call fault)
    (hsound : step.adapter.layout.Sound hashed bucket)
    (hpaired : step.adapter.layout.Paired provider bucket)
    (h : DeleteEnds provider step.adapter request faults bucket result after) :
    step.adapter.layout.Paired provider after := by
  have hcleared (removal : Removal) (hadapter : removal.adapter = step.adapter)
      (hfinds : removal.Finds faults bucket)
      (hsame : SameObjects (removal.reach provider bucket .evidence) after) :
      step.adapter.layout.Paired provider after := by
    rw [← hadapter] at hsound hpaired ⊢
    exact (hfinds.reach_paired hsound hpaired).same hsame
  cases h with
  | refused _ _ hsame => exact hpaired.same hsame
  | rejected _ _ _ _ _ _ _ _ hsame => exact hpaired.same hsame
  | cut _ _ _ _ _ _ _ _ hfault => exact absurd hfault (hfaults _ _)
  | recorded removal _ hadapter _ hfinds _ hsame => exact hcleared removal hadapter hfinds hsame
  | completed removal _ hadapter _ hfinds _ hsame => exact hcleared removal hadapter hfinds hsame

theorem Step.paired (hjoin : step.Joins layout hashed) (hplan : step.plan = [])
    (hsound : layout.Sound hashed bucket) (honce : step.UploadsOnce bucket)
    (hpaired : layout.Paired provider bucket) :
    layout.Paired provider (step.run provider bucket).2 := by
  have hends : StepEnds provider hashed step bucket (step.run provider bucket).2 :=
    (Step.ends hjoin hsound).2
  obtain ⟨rfl, -⟩ := hjoin
  generalize hafter : (step.run provider bucket).2 = after at hends ⊢
  cases hends with
  | read hsame => rwa [hsame]
  | registered hends =>
      exact hpaired.congr hends.versioned (fun _ _ _ => hends.entries id) fun _ _ _ =>
        hends.entries id
  | published request hoperation _ =>
      have hput : (step.run provider bucket).2 =
          ((step.adapter.put request).run provider.handle bucket).2 := by
        rw [Step.run, hoperation, hplan, S3ObjectAdapter.execute, runFaulty_map, runFaulty_nil]
      rw [← hafter, hput]
      exact PutEnds.paired hsound hoperation honce hpaired (put_unfailing request)
  | deleted request result hoperation hends =>
      exact hends.paired (by simp [Step.struck, hplan, struck_nil]) hsound hpaired

theorem runSteps_paired {steps : List Step} (hjoin : ∀ step ∈ steps, step.Joins layout hashed)
    (hplan : ∀ step ∈ steps, step.plan = []) (hsound : layout.Sound hashed bucket)
    (honce : Along provider Step.UploadsOnce bucket steps)
    (hpaired : layout.Paired provider bucket) :
    layout.Paired provider (runSteps provider bucket steps) := by
  induction steps generalizing bucket with
  | nil => exact hpaired
  | cons step rest ih =>
      have hstep := hjoin step List.mem_cons_self
      exact ih (fun later hmem => hjoin later (List.mem_cons_of_mem _ hmem))
        (fun later hmem => hplan later (List.mem_cons_of_mem _ hmem))
        (Step.ends hstep hsound).1 honce.2
        (step.paired hstep (hplan step List.mem_cons_self) hsound honce.1 hpaired)

-- The blob that was uploaded twice outlives the delete of its version.
theorem Deposit.Reuploads.blob_left {first next : Deposit} {request : DeleteRequest}
    {reference : ObjectReference} (h : first.Reuploads next provider bucket)
    (hdelete : first.Deleted request reference)
    (hallowed : first.adapter.requireDeleteAllowed (first.published provider bucket)
      request.checkedAt = .ok ())
    (hundeleted : bucket.current (first.adapter.layout.path
      (.deletion first.resource first.object first.hash)) = none) :
    ((first.adapter.delete request).run provider.handle (first.again next provider bucket)).1 =
        .ok true ∧
      ((first.adapter.delete request).run provider.handle
        (first.again next provider bucket)).2.entries first.blobPath ≠ [] := by
  obtain ⟨removal, hadapter, hrequest, hreference, hcontent, hfinds⟩ :=
    h.removal_again hdelete hallowed
  have hresource : removal.resource = first.resource := by
    rw [Removal.resource, hadapter, hrequest, hdelete.resource, Deposit.resource]
  have hobject : removal.object = first.object := by
    rw [Removal.object, hadapter, hreference, hdelete.object, Deposit.object]
  have hblob : removal.blobPath = first.blobPath := by
    rw [Removal.blobPath, hadapter, hresource, hobject, hcontent, Deposit.blobPath]
  have hsound := h.sound_again
  have hminted := h.minted_again
  rw [← hadapter] at hsound hminted
  have haccepted := hfinds.accepted_minted hsound hminted
  have hevidence : (first.again next provider bucket).current removal.evidencePath = none := by
    rw [Removal.evidencePath, hadapter, hresource, hobject, hcontent]
    exact h.undeleted_again hundeleted
  have hcompletes := hfinds.completes hsound haccepted hevidence
  have hsame := hfinds.carried_out hsound haccepted
  obtain ⟨newer, older, late, early, rest, hne, hentries, hversion⟩ := h.blobs_again
  have henvelope : removal.envelope = first.published provider bucket := by
    have hrecorded := hfinds.recorded hsound
    rw [hadapter, hresource, hobject, hcontent] at hrecorded
    exact S3Layout.recorded_unique hrecorded h.recorded_again
  have hold : removal.version =
      provider.reportedVersion (first.again next provider bucket) older := by
    rw [← henvelope, hfinds.version] at hversion
    exact Value.ofOption_injective hversion
  rw [hadapter, hrequest] at hcompletes hsame
  refine ⟨hcompletes, ?_⟩
  rw [hsame.entries, ← hblob, Removal.reach, removal.recordEvidence_entries _ (by
    simp [Removal.blobPath, Removal.evidencePath]), removal.pointerMoved_blobPath,
    Removal.blobGone, hold, Provider.without_reported, if_pos h.versioned_again,
    Store.delete_some_entries_self, hblob, hentries, List.filter_cons_of_pos (by simpa using hne)]
  exact List.cons_ne_nil _ _

-- A delete that is acknowledged leaves no version of the blob or of the reference, in a run
-- where no blob goes up in parts to a versioned bucket that holds it already.
theorem deleted_bytes_gone (versioned : Bool) (steps : List Step)
    (hkeyed : ∀ step ∈ steps, step.adapter.layout = layout)
    (hplan : ∀ step ∈ steps, step.plan = [])
    (honce : Along provider Step.UploadsOnce (Store.empty versioned) steps)
    {adapter : S3ObjectAdapter} (hadapter : adapter.layout = layout) (request : DeleteRequest)
    (hdeleted : (adapter.delete request).run provider.handle
      (runSteps provider (Store.empty versioned) steps) = (.ok true, after)) :
    ∃ (reference : ObjectReference) (content : HexDigest),
      adapter.reference request.resource request.reference "delete" true = .ok reference ∧
      reference.digest = some content.digest ∧
      after.entries (layout.path (.blob (layout.resourceToken request.resource)
        (layout.objectToken reference.objectId) content)) = [] ∧
      after.entries (layout.path (.reference (layout.resourceToken request.resource)
        (layout.objectToken reference.objectId) content)) = [] := by
  subst hadapter
  have hjoin : ∀ step ∈ steps, step.Joins adapter.layout Set.univ := fun step hstep =>
    ⟨hkeyed step hstep, fun request _ => request.hashes_univ⟩
  have hempty : adapter.layout.Sound Set.univ (Store.empty versioned) :=
    S3Layout.sound_empty _ _ _
  have hsound : adapter.layout.Sound Set.univ (runSteps provider (Store.empty versioned) steps) :=
    runSteps_sound hjoin hempty
  have hpaired : adapter.layout.Paired provider
      (runSteps provider (Store.empty versioned) steps) :=
    runSteps_paired hjoin hplan hempty honce (S3Layout.paired_empty _ _ _)
  generalize runSteps provider (Store.empty versioned) steps = bucket at *
  have hends : DeleteEnds provider adapter request unfailing bucket
      ((adapter.delete request).run provider.handle bucket).1
      ((adapter.delete request).run provider.handle bucket).2 := delete_unfailing hsound
  rw [hdeleted] at hends
  cases hends with
  | completed removal _ hremoval hrequest hfinds _ hsame =>
      subst hremoval
      subst hrequest
      have hblob : after.entries removal.blobPath = [] := by
        rw [hsame.entries]
        exact hfinds.blob_gone hsound hpaired
      have hreference : after.entries removal.referencePath = [] := by
        rw [hsame.entries]
        exact Removal.reference_gone hfinds ⟨by simp, by simp⟩
      exact ⟨removal.reference, removal.content, hfinds.reference, hfinds.digest, hblob,
        hreference⟩

end Steps

end Runs

namespace Standard

variable {content : Bytes}

-- A put of a payload that goes up in parts.
def weighty (content : Bytes) : Deposit where
  adapter := adapter
  request := { putRequest false .null "" 1 with transfer := fun _ => .ok [content] }
  intent := intent .mutable
  content := content
  chunks := (adapter.spooled [content]).finish common
  arguments := ⟨config.serverSideEncryption, config.kmsKeyId, none⟩

theorem weighty_deleted (deletedAt : Timestamp) : (weighty content).Deleted
    (deleteRequest (weighty content).hash deletedAt) (objectReference (weighty content).hash) :=
  ⟨rfl, ⟨rfl, rfl⟩, rfl⟩

theorem weighty_multipart (hlength : content.length = 5 * MIB) :
    (weighty content).multipart = true := by
  apply decide_eq_true
  change config.multipartThresholdBytes ≤ content.length
  rw [hlength]
  decide

-- Another payload for the same object, with another digest.
def otherText (content : Bytes) : String :=
  if hexdigest content = hexdigest (ObjectCommon.encodeUtf8 "version-two") then "version-three"
  else "version-two"

def other (content : Bytes) : Deposit := deposit false .null .mutable (otherText content) 2

theorem otherText_cases (content : Bytes) :
    otherText content = "version-two" ∨ otherText content = "version-three" := by
  unfold otherText
  split
  · exact Or.inr rfl
  · exact Or.inl rfl

theorem other_hash_ne : (other content).hash ≠ (weighty content).hash := by
  change hexdigest (ObjectCommon.encodeUtf8 (otherText content)) ≠ hexdigest content
  by_cases h : hexdigest content = hexdigest (ObjectCommon.encodeUtf8 "version-two")
  · rw [otherText, if_pos h, h]
    have hne : (hexdigest (ObjectCommon.encodeUtf8 "version-three")).text ≠
        (hexdigest (ObjectCommon.encodeUtf8 "version-two")).text := by decide
    exact fun he => hne (congrArg HexDigest.text he)
  · rw [otherText, if_neg h]
    exact fun he => h he.symm

theorem other_follows : (other content).Follows (weighty content) :=
  ⟨rfl, rfl, rfl, other_hash_ne⟩

section Settles

variable {bucket : Bucket} {latest : Option StoredEnvelope}

theorem weighty_finds (hlength : content.length = 5 * MIB)
    (hprofile : adapter.profileAt bucket resource = .ok (profile .mutable))
    (hlatest : missingAsNone (adapter.latestEnvelope bucket resource "channel") = .ok latest)
    (hcheck : S3ObjectAdapter.checkExisting (weighty content).request (weighty content).intent
      (weighty content).hash.digest latest = .ok none) : (weighty content).Finds bucket where
  settles := by
    refine ⟨latest, ⟨⟨profile .mutable, hprofile, ?_⟩, ⟨[content], rfl, ?_, rfl⟩, ?_, hlatest, ?_⟩,
      hcheck⟩
    · unfold S3ObjectAdapter.intentFrom
      rfl
    · unfold S3ObjectAdapter.spooled
      rw [IntegritySpool.writeAll_stream]
      simp [IntegritySpool.new, weighty]
    · change content.length ≤ config.maxObjectBytes
      rw [hlength]
      decide
    · exact fun h => Bool.false_ne_true h.2
  arguments := rfl
  fits _ := by
    have hsize : (weighty content).content.length = 5 * MIB := hlength
    refine ⟨?_, show 0 < config.multipartPartBytes by decide, by rw [hsize]; decide⟩
    change max 1 (((weighty content).content.length + config.multipartPartBytes - 1) /
      config.multipartPartBytes) ≤ S3_MAX_MULTIPART_PARTS
    rw [hsize]
    decide

end Settles

-- What the first put of it records, up to its digests.
def heavyOutline : StoredEnvelope where
  metadata := { one.metadata with byteLength := 5 * MIB, mutability := .mutable }
  blobVersionId := .str (numbered 'v' 1)
  retention := none
  integrityChunkBytes := config.integrityChunkBytes
  chunkDigests := []

theorem weighty_envelope (hlength : content.length = 5 * MIB) :
    (weighty content).published provider (base true) =
      rehashed heavyOutline (weighty content).hash.digest (weighty content).chunks := by
  have hsize : (weighty content).identity.byteLength = 5 * MIB := hlength
  rw [published_new]
  simp only [Deposit.envelope, S3ObjectAdapter.newEnvelope, S3ObjectAdapter.newMetadata, hsize]
  rfl

theorem weighty_legible (hlength : content.length = 5 * MIB) : adapter.layout.legible
    (((weighty content).published provider (base true)).toDict common) := by
  have houtline : Text.room ((rehashed heavyOutline "" []).toDict common) ≤ 10000 := by decide
  have hlegible := chunks_legible (weighty content).hash hlength.le houtline
  rw [weighty_envelope hlength]
  exact hlegible

theorem base_tidy_univ : adapter.layout.Tidy Set.univ provider (base true) where
  sound := by
    have hjoin : registration.Joins adapter.layout Set.univ :=
      ⟨rfl, fun request _ => request.hashes_univ⟩
    exact (Step.ends hjoin (S3Layout.sound_empty _ _ _)).1
  minted := base_tidy.minted
  legible := base_tidy.legible

section Again

variable (hlength : content.length = 5 * MIB)

include hlength

theorem weighty_carries : (weighty content).Carries provider (base true) where
  before := base_tidy_univ
  finds := weighty_finds hlength base_profile base_latest rfl
  unblocked := base_not_blocked _ rfl
  pointer := pointer_legible _
  reference := weighty_legible hlength

theorem weighty_latest : missingAsNone (adapter.latestEnvelope
    ((weighty content).stored provider (base true)) resource "channel") =
      .ok (some ((weighty content).published provider (base true))) := by
  have h := weighty_carries hlength
  have hlatest := h.finds.stored_latest provider h.unblocked h.pointer h.reference
  change adapter.latestEnvelope _ resource "channel" = _ at hlatest
  rw [hlatest]
  rfl

theorem weighty_profile : adapter.profileAt ((weighty content).stored provider (base true))
    resource = .ok (profile .mutable) := by
  have h := weighty_carries hlength
  exact (h.finds.stored_profile provider h.unblocked).trans base_profile

theorem other_carries : (other content).Carries provider
    ((weighty content).stored provider (base true)) where
  before := (weighty_carries hlength).tidy
  finds := by
    refine deposit_finds (weighty_profile hlength) rfl ?_ (weighty_latest hlength) (by simp) ?_
    · rcases otherText_cases content with h | h <;> rw [h] <;> decide
    · have hdiffers : ((weighty content).published provider (base true)).metadata.digest ≠
          common.digest (ObjectCommon.encodeUtf8 (otherText content)) :=
        fun h => other_hash_ne (HexDigest.digest_inj.mp h).symm
      simp [S3ObjectAdapter.checkExisting, putRequest, putInput, hdiffers, intent]
  unblocked := other_follows.not_blocked (weighty_carries hlength).finds
    (weighty_carries hlength).unblocked (base_unwritten _ rfl (by simp))
      (base_unwritten _ rfl (by simp)) rfl
  pointer := pointer_legible _
  reference := by
    have hissued : ((weighty content).stored provider (base true)).issued = 4 := by
      rw [(weighty_carries hlength).finds.stored_issued provider
        (weighty_carries hlength).unblocked, base_issued]
    have hversioned : ((weighty content).stored provider (base true)).versioned = true := by
      rw [(weighty_carries hlength).finds.stored_versioned provider
        (weighty_carries hlength).unblocked, base_versioned]
    rw [Deposit.published, Provider.reportedVersion, hversioned, hissued, if_pos rfl]
    rcases otherText_cases content with h | h <;> rw [other, h] <;>
      exact deposit_legible _ _ _ _ _ (by decide) (by decide)

theorem both_latest : missingAsNone (adapter.latestEnvelope
    ((weighty content).both (other content) provider (base true)) resource "channel") =
      .ok (some ((other content).published provider
        ((weighty content).stored provider (base true)))) := by
  have h := other_carries hlength
  have hlatest := h.finds.stored_latest provider h.unblocked h.pointer h.reference
  change adapter.latestEnvelope _ resource "channel" = _ at hlatest
  rw [Deposit.both, hlatest]
  rfl

theorem both_profile : adapter.profileAt
    ((weighty content).both (other content) provider (base true)) resource =
      .ok (profile .mutable) := by
  have h := other_carries hlength
  exact (h.finds.stored_profile provider h.unblocked).trans (weighty_profile hlength)

-- The same payload is put before and after the other one.
theorem weighty_reuploads : (weighty content).Reuploads (other content) provider (base true) where
  follows := other_follows
  opens := weighty_carries hlength
  continues := other_carries hlength
  finds := by
    refine weighty_finds hlength (both_profile hlength) (both_latest hlength) ?_
    have hdiffers : ((other content).published provider
        ((weighty content).stored provider (base true))).metadata.digest ≠
          (weighty content).hash.digest :=
      fun h => other_hash_ne (HexDigest.digest_inj.mp h)
    have hopen : (weighty content).request.input.createOnly ≠ true := Bool.false_ne_true
    have hmutable : (weighty content).intent.mutability ≠ .immutable := Mutability.noConfusion
    rw [S3ObjectAdapter.checkExisting, if_neg hopen, if_neg hdiffers, if_neg hmutable]
  parts := weighty_multipart hlength
  versioned := base_versioned true

end Again

-- The three puts, in a bucket with versions.
def heavySteps (content : Bytes) : List Step :=
  [registration, (weighty content).step, (other content).step, (weighty content).step]

theorem heavySteps_keyed : ∀ step ∈ heavySteps content, step.adapter.layout = adapter.layout := by
  intro step hstep
  simp only [heavySteps, List.mem_cons, List.not_mem_nil, or_false] at hstep
  rcases hstep with rfl | rfl | rfl | rfl <;> rfl

theorem heavySteps_quiet : ∀ step ∈ heavySteps content, step.plan = [] := by
  intro step hstep
  simp only [heavySteps, List.mem_cons, List.not_mem_nil, or_false] at hstep
  rcases hstep with rfl | rfl | rfl | rfl <;> rfl

theorem runSteps_heavySteps : runSteps provider (Store.empty true) (heavySteps content) =
    (weighty content).again (other content) provider (base true) := by
  rw [heavySteps, runSteps_cons]
  exact Deposit.runSteps_again ..

theorem early_uploads_once : early.step.UploadsOnce (base true) := by
  intro deposit hadapter hoperation hfinds hmultipart
  have hrequest : deposit.request = early.request := (Operation.put.inj hoperation).symm
  obtain rfl := early_first.finds.unique hfinds hadapter hrequest
  have hsingle : early.multipart = false := by
    unfold Deposit.multipart
    decide +kernel
  rw [hsingle] at hmultipart
  cases hmultipart

def earlyRemoval : Removal :=
  early.removed provider (base true) (deleteRequest early.hash 3) (objectReference early.hash)

theorem earlyRemoval_finds : earlyRemoval.Finds unfailing (early.stored provider (base true)) :=
  early_first.removal early_deleted rfl

theorem earlyRemoval_run : ((earlyRemoval.adapter.delete earlyRemoval.request).run provider.handle
    (early.stored provider (base true))).1 = .ok true := by
  have hsound : earlyRemoval.adapter.layout.Sound hashed (early.stored provider (base true)) :=
    early_first.tidy.sound
  have hminted : earlyRemoval.adapter.layout.Minted provider
      (early.stored provider (base true)) := early_first.tidy.minted
  have hevidence : (early.stored provider (base true)).current earlyRemoval.evidencePath = none :=
    early_first.unrecorded
  have haccepted := earlyRemoval_finds.accepted_minted hsound hminted
  exact earlyRemoval_finds.completes hsound haccepted hevidence

def earlySteps : List Step := [registration, early.step]

theorem runSteps_earlySteps :
    runSteps provider (Store.empty true) earlySteps = early.stored provider (base true) := by
  rw [earlySteps, runSteps_cons]
  exact (early.stored_eq provider (base true)).symm

-- The only version of the sample object, in a bucket with versions.
theorem early_bytes_gone : ∃ (after : Bucket) (reference : ObjectReference) (content : HexDigest),
    (earlyRemoval.adapter.delete earlyRemoval.request).run provider.handle
      (runSteps provider (Store.empty true) earlySteps) = (.ok true, after) ∧
    earlyRemoval.adapter.reference earlyRemoval.request.resource earlyRemoval.request.reference
      "delete" true = .ok reference ∧
    reference.digest = some content.digest ∧
    after.entries (adapter.layout.path (.blob
      (adapter.layout.resourceToken earlyRemoval.request.resource)
      (adapter.layout.objectToken reference.objectId) content)) = [] ∧
    after.entries (adapter.layout.path (.reference
      (adapter.layout.resourceToken earlyRemoval.request.resource)
      (adapter.layout.objectToken reference.objectId) content)) = [] := by
  have hkeyed : ∀ step ∈ earlySteps, step.adapter.layout = adapter.layout := by
    intro step hstep
    simp only [earlySteps, List.mem_cons, List.not_mem_nil, or_false] at hstep
    rcases hstep with rfl | rfl <;> rfl
  have hplan : ∀ step ∈ earlySteps, step.plan = [] := by
    intro step hstep
    simp only [earlySteps, List.mem_cons, List.not_mem_nil, or_false] at hstep
    rcases hstep with rfl | rfl <;> rfl
  have honce : Along provider Step.UploadsOnce (Store.empty true) earlySteps :=
    ⟨(fun _ _ hput => nomatch hput), early_uploads_once, trivial⟩
  have hdeleted := earlyRemoval_run
  rw [← runSteps_earlySteps] at hdeleted
  generalize hrun : (earlyRemoval.adapter.delete earlyRemoval.request).run provider.handle
    (runSteps provider (Store.empty true) earlySteps) = run at hdeleted ⊢
  obtain ⟨result, after⟩ := run
  obtain rfl : result = .ok true := hdeleted
  obtain ⟨reference, content, hgone⟩ :=
    deleted_bytes_gone true earlySteps hkeyed hplan honce rfl earlyRemoval.request hrun
  exact ⟨after, reference, content, rfl, hgone⟩

theorem put_again_left {content : Bytes} (hlength : content.length = 5 * MIB) :
    ((adapter.delete (deleteRequest (weighty content).hash 3)).run provider.handle
        (runSteps provider (Store.empty true) (heavySteps content))).1 = .ok true ∧
      ((adapter.delete (deleteRequest (weighty content).hash 3)).run provider.handle
        (runSteps provider (Store.empty true) (heavySteps content))).2.entries
          (weighty content).blobPath ≠ [] := by
  rw [runSteps_heavySteps]
  exact (weighty_reuploads hlength).blob_left (weighty_deleted 3) rfl (base_current (by simp))

-- The second upload of the five mebibytes leaves a version that nothing names.
theorem heavy_bytes_left :
    (∀ step ∈ heavySteps heavy, step.adapter.layout = adapter.layout) ∧
      (∀ step ∈ heavySteps heavy, step.plan = []) ∧
      ((adapter.delete (deleteRequest (weighty heavy).hash 3)).run provider.handle
        (runSteps provider (Store.empty true) (heavySteps heavy))).1 = .ok true ∧
      ((adapter.delete (deleteRequest (weighty heavy).hash 3)).run provider.handle
        (runSteps provider (Store.empty true) (heavySteps heavy))).2.entries
          (weighty heavy).blobPath ≠ [] :=
  ⟨heavySteps_keyed, heavySteps_quiet, put_again_left heavy_length⟩

end Standard

end MeridianS3
