import MeridianS3.Deposit.First

namespace MeridianS3

open Effect ObjectStore Json

variable {provider : Provider} {layout : S3Layout} {hashed : Set Bytes}
variable {resource object content : HexDigest} {first second third bucket after : Bucket}

-- One version is kept: its reference document as it is, and its blob with its bytes.
structure Retains (provider : Provider) (layout : S3Layout) (resource object content : HexDigest)
    (before after : Bucket) : Prop where
  document : before.entries (layout.path (.reference resource object content)) ≠ [] →
    after.entries (layout.path (.reference resource object content)) =
      before.entries (layout.path (.reference resource object content))
  blob : ∀ name stored,
    provider.fetch before (layout.path (.blob resource object content)) name = some stored →
    ∃ found, provider.fetch after (layout.path (.blob resource object content)) name =
      some found ∧ found.body = stored.body

namespace Retains

-- A change that leaves the two keys of the version alone.
theorem of_entries (hversioned : after.versioned = bucket.versioned)
    (hreference : after.entries (layout.path (.reference resource object content)) =
      bucket.entries (layout.path (.reference resource object content)))
    (hblob : after.entries (layout.path (.blob resource object content)) =
      bucket.entries (layout.path (.blob resource object content))) :
    Retains provider layout resource object content bucket after :=
  ⟨fun _ => hreference, fun _ stored hfetch =>
    ⟨stored, (provider.fetch_congr hversioned hblob).trans hfetch, rfl⟩⟩

theorem same (h : SameObjects first second) :
    Retains provider layout resource object content first second :=
  of_entries h.versioned (by rw [h.entries]) (by rw [h.entries])

theorem trans (h : Retains provider layout resource object content first second)
    (hnext : Retains provider layout resource object content second third) :
    Retains provider layout resource object content first third := by
  constructor
  · intro hstored
    have hmiddle := h.document hstored
    rw [hnext.document (hmiddle ▸ hstored), hmiddle]
  · intro name stored hfetch
    obtain ⟨found, hfound, hbody⟩ := h.blob name stored hfetch
    obtain ⟨last, hlast, hlastbody⟩ := hnext.blob name found hfound
    exact ⟨last, hlast, hlastbody.trans hbody⟩

theorem published {sealed : HexDigest → HexDigest → Prop} (hfree : layout.CollisionFree hashed)
    (h : Publishes provider layout hashed sealed first second) :
    Retains provider layout resource object content first second :=
  ⟨h.references resource object content, fun name stored hfetch =>
    h.blobs hfree resource object content name stored hfetch⟩

-- The removal of another version.
theorem removed {removal : Removal} {phase : DeletePhase}
    (hkeyed : removal.adapter.layout = layout)
    (hother : (removal.resource, removal.object, removal.content) ≠ (resource, object, content))
    (hsame : SameObjects (removal.reach provider bucket phase) after) :
    Retains provider layout resource object content bucket after := by
  subst hkeyed
  have hkey (physical : PhysicalKey) (hblob : physical ≠ .blob removal.resource removal.object
      removal.content) (hreference : physical ≠ .reference removal.resource removal.object
      removal.content) (hlatest : physical ≠ .latest removal.resource removal.object)
      (hevidence : physical ≠ .deletion removal.resource removal.object removal.content) :
      after.entries (removal.adapter.layout.path physical) =
        bucket.entries (removal.adapter.layout.path physical) := by
    rw [hsame.entries]
    apply removal.reach_entries provider bucket phase
    · simpa [Removal.blobPath] using hblob
    · simpa [Removal.referencePath] using hreference
    · simpa [Removal.latestPath] using hlatest
    · simpa [Removal.evidencePath] using hevidence
  apply of_entries
  · rw [hsame.versioned, removal.reach_versioned]
  · apply hkey
    · simp
    · rintro ⟨⟩
      exact hother rfl
    · simp
    · simp
  · apply hkey
    · rintro ⟨⟩
      exact hother rfl
    · simp
    · simp
    · simp

end Retains

-- A delete of the version, as its reference says.
def Step.Deletes (step : Step) (resource object content : HexDigest) (request : DeleteRequest) :
    Prop :=
  step.operation = .delete request ∧ ∃ reference : ObjectReference,
    step.adapter.reference request.resource request.reference "delete" true = .ok reference ∧
    step.adapter.layout.resourceToken request.resource = resource ∧
    step.adapter.layout.objectToken reference.objectId = object ∧
    reference.digest = some content.digest

theorem requireDeleteAllowed_ok {common : ObjectCommon} {record : RetentionRecord}
    {now : Timestamp} (h : record.requireDeleteAllowed common now = .ok ()) :
    ∃ deadline, record.deadline common = .ok deadline ∧ deadline ≤ now := by
  unfold RetentionRecord.requireDeleteAllowed at h
  split at h
  · cases h
  · cases hdeadline : record.deadline common with
    | error failure => simp [hdeadline, bind, Except.bind] at h
    | ok deadline =>
        refine ⟨deadline, rfl, ?_⟩
        by_contra hlt
        simp [hdeadline, bind, Except.bind, Nat.lt_of_not_le hlt] at h

-- One step keeps a retained version unless it is a delete of it past the deadline.
theorem Step.retains {step : Step} {envelope : StoredEnvelope} {record : RetentionRecord}
    (hjoin : step.Joins layout hashed) (hfree : layout.CollisionFree hashed)
    (hsound : layout.Sound hashed bucket)
    (hrecorded : layout.Recorded bucket resource object content envelope)
    (hretention : envelope.retention = some record)
    (hdeletes : ∀ request, step.Deletes resource object content request →
      ∀ deadline, record.deadline layout.common = .ok deadline → request.checkedAt < deadline) :
    Retains provider layout resource object content bucket (step.run provider bucket).2 := by
  have hends : StepEnds provider hashed step bucket (step.run provider bucket).2 :=
    (Step.ends hjoin hsound).2
  obtain ⟨rfl, -⟩ := hjoin
  cases hends with
  | read hsame => rw [hsame]; exact .same (.refl bucket)
  | registered hends =>
      exact .of_entries hends.versioned (hends.entries id) (hends.entries id)
  | published _ _ hpublishes => exact .published hfree hpublishes
  | deleted request result hoperation hends =>
      rcases hends.reached with hsame | ⟨removal, hadapter, rfl, hfinds, phase, hsame⟩
      · exact .same hsame
      · by_cases hversion :
            (removal.resource, removal.object, removal.content) = (resource, object, content)
        case neg => exact .removed (by rw [hadapter]) hversion hsame
        case pos =>
        -- The delete has read this very record, which does not permit it.
        obtain ⟨rfl, rfl, rfl⟩ : removal.resource = resource ∧ removal.object = object ∧
            removal.content = content := by simpa using hversion
        rw [← hadapter] at hsound hrecorded hdeletes
        have henvelope := S3Layout.recorded_unique hrecorded (hfinds.recorded hsound)
        have hallowed := hfinds.allowed
        rw [← henvelope] at hallowed
        simp only [S3ObjectAdapter.requireDeleteAllowed, hretention] at hallowed
        obtain ⟨deadline, hdeadline, hpast⟩ := requireDeleteAllowed_ok hallowed
        have hstep : step.Deletes removal.resource removal.object removal.content removal.request :=
          ⟨hoperation, removal.reference, hadapter ▸ hfinds.reference,
            by rw [← hadapter]; rfl, by rw [← hadapter]; rfl, hfinds.digest⟩
        have hfuture := hdeletes removal.request hstep deadline hdeadline
        exact absurd hfuture (Nat.not_lt.mpr hpast)

theorem runSteps_retains {steps : List Step} {envelope : StoredEnvelope} {record : RetentionRecord}
    (hjoin : ∀ step ∈ steps, step.Joins layout hashed) (hfree : layout.CollisionFree hashed)
    (hsound : layout.Sound hashed bucket)
    (hrecorded : layout.Recorded bucket resource object content envelope)
    (hretention : envelope.retention = some record)
    (hdeletes : ∀ step ∈ steps, ∀ request, step.Deletes resource object content request →
      ∀ deadline, record.deadline layout.common = .ok deadline → request.checkedAt < deadline) :
    Retains provider layout resource object content bucket (runSteps provider bucket steps) := by
  induction steps generalizing bucket with
  | nil => exact .same (.refl bucket)
  | cons step rest ih =>
      rw [runSteps_cons]
      have hstep : Retains provider layout resource object content bucket
          (step.run provider bucket).2 :=
        step.retains (hjoin step List.mem_cons_self) hfree hsound hrecorded hretention
          (hdeletes step List.mem_cons_self)
      have hkept := hstep.document (S3Layout.recorded_entries hrecorded)
      exact hstep.trans (ih (fun later hmem => hjoin later (List.mem_cons_of_mem _ hmem))
        (Step.ends (hjoin step List.mem_cons_self) hsound).1
        (S3Layout.recorded_congr hkept hrecorded)
        fun later hmem => hdeletes later (List.mem_cons_of_mem _ hmem))

-- The blob of a reference is in place when the step that has stored it ends.
theorem Step.backs {step : Step} {envelope : StoredEnvelope} (hjoin : step.Joins layout hashed)
    (hfree : layout.CollisionFree hashed) (hsound : layout.Sound hashed bucket)
    (hnew : bucket.entries (layout.path (.reference resource object content)) = [])
    (hrecorded : layout.Recorded (step.run provider bucket).2 resource object content envelope) :
    ∃ (name : Option String) (stored : StoredBody), envelope.blobVersionId = .ofOption name ∧
      provider.fetch (step.run provider bucket).2
        (layout.path (.blob resource object content)) name = some stored ∧
      stored.body.length = envelope.metadata.byteLength := by
  have hends : StepEnds provider hashed step bucket (step.run provider bucket).2 :=
    (Step.ends hjoin hsound).2
  obtain ⟨rfl, -⟩ := hjoin
  have hstored := S3Layout.recorded_entries hrecorded
  cases hends with
  | read hsame =>
      rw [hsame] at hstored
      exact absurd hnew hstored
  | registered hends =>
      rw [hends.entries id] at hstored
      exact absurd hnew hstored
  | published _ _ hpublishes =>
      exact hpublishes.backed hfree resource object content hnew envelope hrecorded
  | deleted request result hoperation hends =>
      rcases hends.reached with hsame | ⟨removal, hadapter, rfl, hfinds, phase, hsame⟩
      · rw [hsame.entries] at hstored
        exact absurd hnew hstored
      · by_cases hversion : step.adapter.layout.path (.reference resource object content) =
            removal.referencePath
        · obtain ⟨entry, hentry⟩ := hfinds.entry
          rw [← hversion, hnew] at hentry
          cases hentry
        · rw [hsame.entries, removal.reach_entries provider bucket phase (by
            simp [Removal.blobPath, hadapter]) hversion (by simp [Removal.latestPath, hadapter])
            (by simp [Removal.evidencePath, hadapter])] at hstored
          exact absurd hnew hstored

-- From the step that has stored its reference on, a retained version is kept while no
-- delete of it runs past its deadline. A record without a deadline is never past it.
theorem retained_version_kept (hfree : layout.CollisionFree hashed) (versioned : Bool)
    (earlier later : List Step) (storing : Step)
    (hjoin : ∀ step ∈ earlier ++ storing :: later, step.Joins layout hashed)
    (resource : ResourceRef) (objectId : String) (content : HexDigest) (envelope : StoredEnvelope)
    (record : RetentionRecord)
    (hnew : (runSteps provider (Store.empty versioned) earlier).current (layout.path (.reference
      (layout.resourceToken resource) (layout.objectToken objectId) content)) = none)
    (hrecorded : layout.Recorded
      (runSteps provider (Store.empty versioned) (earlier ++ [storing]))
      (layout.resourceToken resource) (layout.objectToken objectId) content envelope)
    (hretention : envelope.retention = some record)
    (hdeletes : ∀ step ∈ later, ∀ request,
      step.Deletes (layout.resourceToken resource) (layout.objectToken objectId) content request →
      ∀ deadline, record.deadline layout.common = .ok deadline → request.checkedAt < deadline) :
    let stored := runSteps provider (Store.empty versioned) (earlier ++ [storing])
    let final := runSteps provider (Store.empty versioned) (earlier ++ storing :: later)
    final.current (layout.path (.reference (layout.resourceToken resource)
        (layout.objectToken objectId) content)) =
      stored.current (layout.path (.reference (layout.resourceToken resource)
        (layout.objectToken objectId) content)) ∧
    ∃ (name : Option String) (blob found : StoredBody), envelope.blobVersionId = .ofOption name ∧
      provider.fetch stored (layout.path (.blob (layout.resourceToken resource)
        (layout.objectToken objectId) content)) name = some blob ∧
      provider.fetch final (layout.path (.blob (layout.resourceToken resource)
        (layout.objectToken objectId) content)) name = some found ∧
      found.body = blob.body ∧ blob.body.length = envelope.metadata.byteLength ∧
      layout.common.hexdigest blob.body = content := by
  have hbefore : layout.Sound hashed (runSteps provider (Store.empty versioned) earlier) :=
    runSteps_sound (fun step hmem => hjoin step (List.mem_append_left _ hmem))
      (S3Layout.sound_empty layout hashed versioned)
  have hstoring := hjoin storing (by simp)
  have hlater (step : Step) (hmem : step ∈ later) : step.Joins layout hashed :=
    hjoin step (by simp [hmem])
  have hfinal : runSteps provider (Store.empty versioned) (earlier ++ storing :: later) =
      runSteps provider (runSteps provider (Store.empty versioned) (earlier ++ [storing])) later := by
    rw [← runSteps_append]
    simp
  have hstored : runSteps provider (Store.empty versioned) (earlier ++ [storing]) =
      (storing.run provider (runSteps provider (Store.empty versioned) earlier)).2 := by
    rw [runSteps_append]
    rfl
  have hsound : layout.Sound hashed
      (runSteps provider (Store.empty versioned) (earlier ++ [storing])) := by
    rw [hstored]
    exact (Step.ends hstoring hbefore).1
  have hretains : Retains provider layout (layout.resourceToken resource)
      (layout.objectToken objectId) content
      (runSteps provider (Store.empty versioned) (earlier ++ [storing]))
      (runSteps provider (Store.empty versioned) (earlier ++ storing :: later)) := by
    rw [hfinal]
    exact runSteps_retains hlater hfree hsound hrecorded hretention hdeletes
  have hbacked := hrecorded
  rw [hstored] at hbacked
  obtain ⟨name, blob, hname, hfetch, hlength⟩ :=
    storing.backs hstoring hfree hbefore ((hbefore.current_eq_none_iff _).mp hnew) hbacked
  rw [← hstored] at hfetch
  obtain ⟨found, hfound, hbody⟩ := hretains.blob name blob hfetch
  exact ⟨Store.current_congr (hretains.document (S3Layout.recorded_entries hrecorded)),
    name, blob, found, hname, hfetch, hfound, hbody, hlength, (hsound.blob hfetch).2.1⟩

theorem held_version_kept : ∃ name found,
    Standard.provider.fetch (runSteps Standard.provider (Store.empty false) ([] ++
      Standard.held.step :: [Standard.held.deletion (Standard.deleteRequest Standard.held.hash 2)]))
      (Standard.held.adapter.layout.path
        (.blob (Standard.held.adapter.layout.resourceToken Standard.held.request.resource)
          (Standard.held.adapter.layout.objectToken Standard.held.request.input.objectId)
          Standard.held.hash)) name = some found ∧
    Standard.held.adapter.layout.common.hexdigest found.body = Standard.held.hash := by
  have hrecorded : Standard.held.adapter.layout.Recorded
      (runSteps Standard.provider (Store.empty false) ([] ++ [Standard.held.step]))
      Standard.held.resource Standard.held.object Standard.held.hash
      (Standard.held.published Standard.provider (Store.empty false)) := by
    rw [List.nil_append, ← Deposit.stored_eq]
    exact Standard.held_finds.stored_recorded Standard.provider Deposit.not_blocked_empty
  have hjoin : ∀ step ∈ [] ++ Standard.held.step ::
      [Standard.held.deletion (Standard.deleteRequest Standard.held.hash 2)],
      step.Joins Standard.held.adapter.layout Standard.hashed := 
    List.forall_mem_cons.mpr ⟨Deposit.step_joins Standard.held_hashes,
      List.forall_mem_singleton.mpr Deposit.deletion_joins⟩
  have hnever (deadline : Timestamp) :
      Standard.holdRecord.deadline Standard.common ≠ .ok deadline := nofun
  have hkept := retained_version_kept Standard.collisionFree false []
    [Standard.held.deletion (Standard.deleteRequest Standard.held.hash 2)] Standard.held.step
    hjoin Standard.held.request.resource Standard.held.request.input.objectId Standard.held.hash
    _ Standard.holdRecord rfl hrecorded rfl
    fun _ _ _ _ deadline hdeadline => absurd hdeadline (hnever deadline)
  obtain ⟨-, name, blob, found, -, -, hfetch, hbody, -, hhash⟩ := hkept
  exact ⟨name, found, hfetch, by rw [hbody]; exact hhash⟩

end MeridianS3
