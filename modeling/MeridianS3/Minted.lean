import MeridianS3.Deposit.Records
import MeridianS3.Records.Legible
import MeridianS3.Steps

namespace MeridianS3

open Effect ObjectStore Json

-- Every recorded version id is one that the provider has reported.
def S3Layout.Minted (layout : S3Layout) (provider : Provider) (bucket : Bucket) : Prop :=
  ∀ resource object content envelope, layout.Recorded bucket resource object content envelope →
    ∃ id, envelope.blobVersionId = .ofOption (provider.reportedVersion bucket id)

variable {provider : Provider} {adapter : S3ObjectAdapter} {layout : S3Layout} {hashed : Set Bytes}
variable {bucket after : Bucket}

namespace S3Layout.Minted

theorem empty (layout : S3Layout) (provider : Provider) (versioned : Bool) :
    layout.Minted provider (Store.empty versioned) := by
  rintro resource object content envelope ⟨-, stored, hcurrent, -⟩
  cases hcurrent

-- References that are as they were, or gone, record nothing new.
theorem kept (h : layout.Minted provider bucket) (hversioned : after.versioned = bucket.versioned)
    (hentries : ∀ resource object content,
      after.entries (layout.path (.reference resource object content)) =
          bucket.entries (layout.path (.reference resource object content)) ∨
        after.entries (layout.path (.reference resource object content)) = []) :
    layout.Minted provider after := by
  intro resource object content envelope hrecorded
  rcases hentries resource object content with hsame | hgone
  · obtain ⟨id, hid⟩ := h resource object content envelope
      (S3Layout.recorded_congr hsame.symm hrecorded)
    exact ⟨id, by simpa only [Provider.reportedVersion, hversioned] using hid⟩
  · exact absurd hgone (S3Layout.recorded_entries hrecorded)

theorem same (h : layout.Minted provider bucket) (hsame : SameObjects bucket after) :
    layout.Minted provider after :=
  h.kept hsame.versioned fun _ _ _ => Or.inl (congrFun hsame.entries _)

theorem beside (h : layout.Minted provider bucket) (hbeside : layout.Beside bucket after) :
    layout.Minted provider after :=
  h.kept hbeside.versioned fun _ _ _ => Or.inl (hbeside.entries _ (by simp))

end S3Layout.Minted

-- A put records the version id that it was given.
theorem Deposit.reach_minted {deposit : Deposit}
    (h : deposit.adapter.layout.Minted provider bucket) (hfinds : deposit.Finds bucket)
    (phase : PutPhase) :
    deposit.adapter.layout.Minted provider (deposit.reach provider bucket phase) := by
  by_cases hphase : phase = .reference ∨ phase = .pointer
  · intro resource object content envelope hrecorded
    by_cases hown : deposit.adapter.layout.path (.reference resource object content) =
        deposit.referencePath
    · rw [Deposit.referencePath, PhysicalKey.render_inj] at hown
      cases hown
      obtain rfl := S3Layout.recorded_unique (hfinds.reach_recorded hphase) hrecorded
      refine ⟨bucket.issued, ?_⟩
      simp only [Provider.reportedVersion, deposit.reach_versioned]
      rfl
    · have hentries := deposit.reach_entries provider bucket phase
        (by simp [Deposit.blobPath]) hown (by simp [Deposit.latestPath])
      obtain ⟨id, hid⟩ := h resource object content envelope
        (S3Layout.recorded_congr hentries.symm hrecorded)
      exact ⟨id, by simpa only [Provider.reportedVersion, deposit.reach_versioned] using hid⟩
  · refine h.kept (deposit.reach_versioned provider bucket phase) fun resource object content =>
      Or.inl ?_
    cases phase with
    | start => rfl
    | blob => exact Store.put_entries_of_ne _ (by simp [Deposit.blobPath]) _
    | reference => simp at hphase
    | pointer => simp at hphase

theorem PutEnds.minted {request : PutRequest} {faults : S3Call → Fault Failure → Prop}
    {result : Except Failure ObjectMetadata} (hminted : adapter.layout.Minted provider bucket)
    (h : PutEnds provider adapter request faults bucket result after) :
    adapter.layout.Minted provider after := by
  cases h with
  | refused failure _ hsame => exact hminted.same hsame
  | returned metadata _ hsame => exact hminted.same hsame
  | blocked deposit phase failure _ hadapter hrequest hfinds _ _ hbeside =>
      subst hadapter
      exact (deposit.reach_minted hminted hfinds phase).beside hbeside
  | cut deposit call fault phase failure _ hadapter hrequest hfinds _ _ hsame =>
      subst hadapter
      exact (deposit.reach_minted hminted hfinds phase).same hsame
  | committed deposit _ hadapter hrequest hfinds _ hsame =>
      subst hadapter
      exact (deposit.reach_minted hminted hfinds .pointer).same hsame

theorem DeleteEnds.minted {request : DeleteRequest} {faults : S3Call → Fault Failure → Prop}
    {result : Except Failure Bool} (hminted : adapter.layout.Minted provider bucket)
    (h : DeleteEnds provider adapter request faults bucket result after) :
    adapter.layout.Minted provider after := by
  rcases h.reached with hsame | ⟨removal, rfl, rfl, hfinds, phase, hsame⟩
  · exact hminted.same hsame
  refine S3Layout.Minted.same (hminted.kept (removal.reach_versioned provider bucket phase)
    fun resource object content => ?_) hsame
  by_cases hown : removal.adapter.layout.path (.reference resource object content) =
      removal.referencePath
  · rw [hown]
    by_cases hphase : phase ≠ .start ∧ phase ≠ .blob
    · exact Or.inr (removal.reference_gone hfinds hphase)
    · left
      cases phase with
      | start => rfl
      | blob => exact removal.blobGone_entries provider bucket removal.referencePath_ne_blobPath
      | reference | pointer | evidence => simp at hphase
  · left
    apply removal.reach_entries provider bucket phase _ hown
    · simp [Removal.latestPath]
    · simp [Removal.evidencePath]
    · simp [Removal.blobPath]

-- Puts whose calls do not fail, and all other operations, keep it.
theorem Step.minted {step : Step} (hquiet : step.plan = []) (hjoin : step.Joins layout hashed)
    (hsound : layout.Sound hashed bucket) (hminted : layout.Minted provider bucket) :
    layout.Minted provider (step.run provider bucket).2 := by
  have hends : StepEnds provider hashed step bucket (step.run provider bucket).2 :=
    (step.ends hjoin hsound).2
  obtain ⟨rfl, -⟩ := hjoin
  cases hends with
  | read hsame => rwa [hsame]
  | registered hregister =>
      exact hminted.kept hregister.versioned fun _ _ _ =>
        Or.inl (hregister.entries (by simp [registryKey]))
  | published request hoperation =>
      have hafter : (step.run provider bucket).2 =
          ((step.adapter.put request).run provider.handle bucket).2 := by
        unfold Step.run
        simp only [hoperation, hquiet, S3ObjectAdapter.execute]
        rw [runFaulty_map, runFaulty_nil]
      have hput : PutEnds provider step.adapter request unfailing bucket
          ((step.adapter.put request).run provider.handle bucket).1
          ((step.adapter.put request).run provider.handle bucket).2 := put_unfailing request
      rw [hafter]
      exact hput.minted hminted
  | deleted request result hoperation hdelete => exact hdelete.minted hminted

theorem runSteps_minted {steps : List Step} (hquiet : ∀ step ∈ steps, step.plan = [])
    (hjoin : ∀ step ∈ steps, step.Joins layout hashed) (hsound : layout.Sound hashed bucket)
    (hminted : layout.Minted provider bucket) :
    layout.Minted provider (runSteps provider bucket steps) := by
  induction steps generalizing bucket with
  | nil => exact hminted
  | cons step rest ih =>
      have hfirst := hjoin step List.mem_cons_self
      rw [runSteps_cons]
      apply ih (fun other hmem => hquiet other (List.mem_cons_of_mem _ hmem))
        (fun other hmem => hjoin other (List.mem_cons_of_mem _ hmem))
        (step.ends hfirst hsound).1
      exact step.minted (hquiet step List.mem_cons_self) hfirst hsound hminted

-- A bucket in which everything that is stored can be read, and everything deleted.
structure S3Layout.Tidy (layout : S3Layout) (hashed : Set Bytes) (provider : Provider)
    (bucket : Bucket) : Prop where
  sound : layout.Sound hashed bucket
  minted : layout.Minted provider bucket
  legible : layout.Legible bucket

namespace S3Layout.Tidy

theorem empty (layout : S3Layout) (hashed : Set Bytes) (provider : Provider) (versioned : Bool) :
    layout.Tidy hashed provider (Store.empty versioned) :=
  ⟨S3Layout.sound_empty _ _ _, .empty _ _ _, S3Layout.legible_empty _ _⟩

theorem same (h : layout.Tidy hashed provider bucket) (hsame : SameObjects bucket after) :
    layout.Tidy hashed provider after :=
  ⟨h.sound.same hsame, h.minted.same hsame, h.legible.same hsame⟩

end S3Layout.Tidy

end MeridianS3
