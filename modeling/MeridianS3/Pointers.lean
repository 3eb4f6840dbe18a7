import MeridianS3.Acknowledged
import MeridianS3.Deposit.Versions

namespace MeridianS3

open Effect ObjectStore Json

variable {provider : Provider} {layout : S3Layout} {hashed : Set Bytes}
variable {bucket after : Bucket}

-- A delete that is permitted, of the version that the pointer names and when no other
-- version of the object is stored, finds no older version under the pointer key either.
def Step.Clears (step : Step) (bucket : Bucket) : Prop :=
  ∀ request, step.operation = .delete request → ∀ reference content envelope,
    step.adapter.reference request.resource request.reference "delete" true = .ok reference →
    reference.digest = some (HexDigest.digest content) →
    step.adapter.envelopeAt bucket request.resource reference.objectId content.digest =
      .ok envelope →
    step.adapter.requireDeleteAllowed envelope request.checkedAt = .ok () →
    step.adapter.layout.Points bucket (step.adapter.layout.resourceToken request.resource)
      (step.adapter.layout.objectToken reference.objectId) content →
    (∀ other, other ≠ content → bucket.entries (step.adapter.layout.path
      (.reference (step.adapter.layout.resourceToken request.resource)
        (step.adapter.layout.objectToken reference.objectId) other)) = []) →
    (bucket.entries (step.adapter.layout.latestKey request.resource reference.objectId)).length ≤ 1

theorem S3Layout.Resolved.same (hsame : SameObjects bucket after) (h : layout.Resolved bucket) :
    layout.Resolved after := by
  intro resource object content hpoints
  rw [hsame.entries]
  exact h resource object content (S3Layout.points_congr (by rw [hsame.entries]) hpoints)

theorem Publishes.resolved {sealed : HexDigest → HexDigest → Prop}
    (hpublishes : Publishes provider layout hashed sealed bucket after)
    (h : layout.Resolved bucket) : layout.Resolved after := by
  intro resource object content hpoints
  rcases hpublishes.latest resource object with hkept | ⟨-, other, hother, hstored⟩
  · exact hpublishes.references_kept
      (h resource object content (S3Layout.points_congr hkept.symm hpoints))
  · rwa [S3Layout.points_unique hpoints hother]

namespace Removal

variable {removal : Removal}

-- The pointer after its version has gone: at a version that stays, or nowhere.
theorem Finds.pointer_moved (provider : Provider) {faults : S3Call → Fault Failure → Prop}
    (hsound : removal.adapter.layout.Sound hashed bucket) (h : removal.Finds faults bucket)
    (hmoves : removal.moves = true)
    (hclears : removal.previous = none → (bucket.entries removal.latestPath).length ≤ 1) :
    (removal.pointerMoved provider bucket).entries removal.latestPath = [] ∨
    ∃ content, content ≠ removal.content ∧
      bucket.entries (removal.adapter.layout.path
        (.reference removal.resource removal.object content)) ≠ [] ∧
      removal.adapter.layout.Points (removal.pointerMoved provider bucket) removal.resource
        removal.object content := by
  have hentries : (removal.referenceGone provider bucket).entries removal.latestPath =
      bucket.entries removal.latestPath :=
    removal.referenceGone_entries provider bucket removal.latestPath_ne_blobPath
      removal.latestPath_ne_referencePath
  rw [pointerMoved, if_pos hmoves]
  cases hprevious : removal.previous with
  | some previous =>
      right
      have hnewest := h.previous
      rw [hprevious] at hnewest
      obtain ⟨content, hrecorded, hdigest, hother⟩ :=
        S3ObjectAdapter.newestIn_some hsound hnewest
      refine ⟨content, fun he => hother (by rw [he]), S3Layout.recorded_entries hrecorded, ?_⟩
      have hmoved : removal.movePointer provider (removal.referenceGone provider bucket) =
          removal.adapter.written (removal.referenceGone provider bucket) removal.latestPath
            (latestValue content.digest) := by
        simp [movePointer, hprevious, hdigest]
      rw [hmoved]
      exact ⟨_, Store.put_current_self .., rfl⟩
  | none =>
      left
      obtain ⟨id, object, hhead⟩ := h.pointer hmoves
      have hlength := hclears hprevious
      have hone : bucket.entries removal.latestPath = [⟨id, some object⟩] := by
        cases hlist : bucket.entries removal.latestPath with
        | nil => simp [Store.head, hlist] at hhead
        | cons entry rest =>
            rw [hlist, List.length_cons] at hlength
            have hrest : rest = [] := List.length_eq_zero_iff.mp (by omega)
            simp only [Store.head, hlist, List.head?_cons, Option.some.injEq] at hhead
            rw [hhead, hrest]
      have hgone : (removal.referenceGone provider bucket).head removal.latestPath =
          some ⟨id, some object⟩ := by
        rw [Store.head, hentries, hone, List.head?_cons]
      have hmoved : removal.movePointer provider (removal.referenceGone provider bucket) =
          provider.without (removal.referenceGone provider bucket) removal.latestPath
            (provider.reportedVersion (removal.referenceGone provider bucket) id) := by
        simp [movePointer, hprevious, hgone]
      rw [hmoved, Provider.without_reported]
      cases hversioned : (removal.referenceGone provider bucket).versioned with
      | true => simp [hentries, hone]
      | false => simp [Store.delete_none_entries_self _ _ hversioned]

end Removal

-- A removal that is carried out leaves every pointer at a stored reference.
theorem Removal.reach_resolved {removal : Removal} {faults : S3Call → Fault Failure → Prop}
    (houtage : S3ObjectAdapter.Outages faults)
    (hsound : removal.adapter.layout.Sound hashed bucket) (hfinds : removal.Finds faults bucket)
    (hclears : removal.moves = true → removal.previous = none →
      (bucket.entries removal.latestPath).length ≤ 1)
    (hresolved : removal.adapter.layout.Resolved bucket) :
    removal.adapter.layout.Resolved (removal.reach provider bucket .evidence) := by
  have hkept {physical : PhysicalKey}
      (hblob : physical ≠ .blob removal.resource removal.object removal.content)
      (hreference : physical ≠ .reference removal.resource removal.object removal.content)
      (hlatest : physical ≠ .latest removal.resource removal.object)
      (hevidence : physical ≠ .deletion removal.resource removal.object removal.content) :
      (removal.reach provider bucket .evidence).entries (removal.adapter.layout.path physical) =
        bucket.entries (removal.adapter.layout.path physical) :=
    removal.reach_entries provider bucket .evidence (by simpa [Removal.blobPath] using hblob)
      (by simpa [Removal.referencePath] using hreference)
      (by simpa [Removal.latestPath] using hlatest)
      (by simpa [Removal.evidencePath] using hevidence)
  have hpointer : (removal.reach provider bucket .evidence).entries removal.latestPath =
      (removal.pointerMoved provider bucket).entries removal.latestPath :=
    removal.recordEvidence_entries _ removal.evidencePath_ne_latestPath.symm
  intro resource object content hpoints
  by_cases hsame : PhysicalKey.latest resource object = .latest removal.resource removal.object
  · obtain ⟨rfl, rfl⟩ : resource = removal.resource ∧ object = removal.object := by
      simpa using hsame
    have hstays : content ≠ removal.content → bucket.entries (removal.adapter.layout.path
        (.reference removal.resource removal.object content)) ≠ [] →
        (removal.reach provider bucket .evidence).entries (removal.adapter.layout.path
          (.reference removal.resource removal.object content)) ≠ [] := by
      intro hother hstored
      rw [hkept (by simp) (by simpa using hother) (by simp) (by simp)]
      exact hstored
    have hmoved : removal.adapter.layout.Points (removal.pointerMoved provider bucket)
        removal.resource removal.object content := S3Layout.points_congr hpointer.symm hpoints
    cases hmoves : removal.moves with
    | false =>
        have hbefore : removal.adapter.layout.Points bucket removal.resource removal.object
            content := by
          refine S3Layout.points_congr (Eq.symm ?_) hmoved
          rw [Removal.pointerMoved, if_neg (by simp [hmoves])]
          exact removal.referenceGone_entries provider bucket removal.latestPath_ne_blobPath
            removal.latestPath_ne_referencePath
        apply hstays
        · rintro rfl
          rw [hfinds.moves_of_points houtage hsound hbefore] at hmoves
          cases hmoves
        · exact hresolved _ _ _ hbefore
    | true =>
        rcases hfinds.pointer_moved provider hsound hmoves (hclears hmoves) with
          hgone | ⟨other, hother, hstored, hnamed⟩
        · obtain ⟨stored, hcurrent, -⟩ := hmoved
          rw [show removal.adapter.layout.path (.latest removal.resource removal.object) =
            removal.latestPath from rfl, Store.current_eq_none _ _ hgone] at hcurrent
          cases hcurrent
        · obtain rfl := S3Layout.points_unique hmoved hnamed
          exact hstays hother hstored
  · have hbefore : removal.adapter.layout.Points bucket resource object content :=
      S3Layout.points_congr (hkept (by simp) (by simp) hsame (by simp)).symm hpoints
    rw [hkept (by simp) _ (by simp) (by simp)]
    · exact hresolved _ _ _ hbefore
    · rintro ⟨⟩
      exact hsame rfl

theorem DeleteEnds.resolved {request : DeleteRequest} {result : Except Failure Bool}
    {faults : S3Call → Fault Failure → Prop} (hfaults : ∀ call fault, ¬faults call fault)
    (hsound : adapter.layout.Sound hashed bucket)
    (h : DeleteEnds provider adapter request faults bucket result after)
    (hclears : ∀ removal : Removal, removal.adapter = adapter → removal.request = request →
      removal.Finds faults bucket → removal.moves = true → removal.previous = none →
      (bucket.entries removal.latestPath).length ≤ 1)
    (hresolved : adapter.layout.Resolved bucket) : adapter.layout.Resolved after := by
  have houtage : S3ObjectAdapter.Outages faults := fun call fault h => absurd h (hfaults call fault)
  cases h with
  | refused failure _ hsame => exact S3Layout.Resolved.same hsame hresolved
  | rejected removal failure error _ _ _ _ _ hsame => exact S3Layout.Resolved.same hsame hresolved
  | cut removal call fault failure _ _ _ _ hfault => exact absurd hfault (hfaults call fault)
  | recorded removal _ hadapter hrequest hfinds _ hsame =>
      subst hadapter
      exact S3Layout.Resolved.same hsame (removal.reach_resolved houtage hsound hfinds
        (hclears removal rfl hrequest hfinds) hresolved)
  | completed removal _ hadapter hrequest hfinds _ hsame =>
      subst hadapter
      exact S3Layout.Resolved.same hsame (removal.reach_resolved houtage hsound hfinds
        (hclears removal rfl hrequest hfinds) hresolved)

theorem Step.resolved {step : Step} (hjoin : step.Joins layout hashed) (hplan : step.plan = [])
    (hsound : layout.Sound hashed bucket) (hclears : step.Clears bucket)
    (hresolved : layout.Resolved bucket) : layout.Resolved (step.run provider bucket).2 := by
  have hends : StepEnds provider hashed step bucket (step.run provider bucket).2 :=
    (Step.ends hjoin hsound).2
  obtain ⟨rfl, -⟩ := hjoin
  cases hends with
  | read hsame => rwa [hsame]
  | registered hends =>
      intro resource object content hpoints
      rw [hends.entries id]
      exact hresolved _ _ _ (S3Layout.points_congr (hends.entries id).symm hpoints)
  | published _ _ hpublishes => exact hpublishes.resolved hresolved
  | deleted request result hoperation hends =>
      refine hends.resolved ?_ hsound ?_ hresolved
      · simp [Step.struck, hplan, struck_nil]
      · rintro removal hadapter rfl hfinds hmoves hnone
        rcases step with ⟨adapter, operation, plan⟩
        subst hadapter
        apply hclears _ hoperation removal.reference removal.content removal.envelope
          hfinds.reference hfinds.digest hfinds.envelope hfinds.allowed
        · exact hfinds.points_of_moves hsound hmoves
        · intro other hother
          by_contra hstored
          have hexcluded := S3ObjectAdapter.newestIn_none hsound (hnone ▸ hfinds.previous) other
            hstored
          simp only [Option.some.injEq, HexDigest.digest_inj] at hexcluded
          exact hother hexcluded

theorem runSteps_resolved {steps : List Step} (hjoin : ∀ step ∈ steps, step.Joins layout hashed)
    (hplan : ∀ step ∈ steps, step.plan = []) (hsound : layout.Sound hashed bucket)
    (hclears : Along provider Step.Clears bucket steps) (hresolved : layout.Resolved bucket) :
    layout.Resolved (runSteps provider bucket steps) := by
  induction steps generalizing bucket with
  | nil => exact hresolved
  | cons step rest ih =>
      have hstep := hjoin step List.mem_cons_self
      exact ih (fun later hmem => hjoin later (List.mem_cons_of_mem _ hmem))
        (fun later hmem => hplan later (List.mem_cons_of_mem _ hmem))
        (Step.ends hstep hsound).1 hclears.2
        (step.resolved hstep (hplan step List.mem_cons_self) hsound hclears.1 hresolved)

-- The latest pointer of an object never dangles in a run of undisturbed operations.
theorem pointers_resolved (versioned : Bool) (steps : List Step)
    (hjoin : ∀ step ∈ steps, step.Joins layout hashed) (hplan : ∀ step ∈ steps, step.plan = [])
    (hclears : Along provider Step.Clears (Store.empty versioned) steps)
    (resource object : HexDigest) (stored : StoredBody)
    (hpointer : (runSteps provider (Store.empty versioned) steps).current
      (layout.path (.latest resource object)) = some stored) :
    ∃ content : HexDigest,
      stored.body = layout.common.canonicalJsonBytes (latestValue content.digest) ∧
      ((runSteps provider (Store.empty versioned) steps).current
        (layout.path (.reference resource object content))).isSome = true := by
  have hempty : layout.Sound hashed (Store.empty versioned) := S3Layout.sound_empty _ _ _
  have hsound : layout.Sound hashed (runSteps provider (Store.empty versioned) steps) :=
    runSteps_sound hjoin hempty
  have hresolved : layout.Resolved (runSteps provider (Store.empty versioned) steps) := by
    apply runSteps_resolved hjoin hplan hempty hclears
    rintro resource object content ⟨stored, hcurrent, -⟩
    cases hcurrent
  obtain ⟨content, hbody⟩ := hsound.proper_current hpointer
  refine ⟨content, hbody, ?_⟩
  rw [hsound.current_isSome_iff]
  exact hresolved resource object content ⟨stored, hpointer, hbody⟩

-- The delete of a version that the pointer does not name clears nothing.
theorem Deposit.Pair.clears {first next : Deposit} {request : DeleteRequest}
    {reference : ObjectReference} (h : first.Pair next provider hashed bucket)
    (hdelete : first.Deleted request reference) :
    Along provider Step.Clears bucket [first.step, next.step, first.deletion request] := by
  refine ⟨(fun _ hput => nomatch hput), (fun _ hput => nomatch hput), ?_, trivial⟩
  rintro request ⟨⟩ found content envelope hfound hdigest - - hpoints -
  obtain rfl : reference = found := Except.ok.inj (hdelete.names.1.symm.trans hfound)
  obtain rfl : first.hash = content :=
    HexDigest.digest_inj.mp (Option.some.inj (hdelete.names.2.symm.trans hdigest))
  have hresource : first.adapter.layout.resourceToken request.resource = first.resource := by
    rw [hdelete.resource]
    rfl
  have hobject : first.adapter.layout.objectToken reference.objectId = first.object := by
    rw [hdelete.object]
    rfl
  change first.adapter.layout.Points _ (first.adapter.layout.resourceToken request.resource)
    (first.adapter.layout.objectToken reference.objectId) first.hash at hpoints
  rw [hresource, hobject] at hpoints
  exact absurd (S3Layout.points_unique h.points hpoints) h.follows.differs

theorem other_version_deleted : ∃ (stored : StoredBody) (content : HexDigest),
    (runSteps Standard.provider (Store.empty true) Standard.versionSteps).current
      (Standard.early.adapter.layout.path
        (.latest Standard.early.resource Standard.early.object)) = some stored ∧
    stored.body =
      Standard.early.adapter.layout.common.canonicalJsonBytes (latestValue content.digest) ∧
    ((runSteps Standard.provider (Store.empty true) Standard.versionSteps).current
      (Standard.early.adapter.layout.path
        (.reference Standard.early.resource Standard.early.object content))).isSome = true := by
  obtain ⟨stored, hstored⟩ :=
    Standard.versions.survivor_latest Standard.early_deleted rfl Standard.early_evidence
  rw [← Standard.runSteps_versionSteps] at hstored
  obtain ⟨content, hbody, hreference⟩ := pointers_resolved true Standard.versionSteps
    Standard.versionSteps_joins Standard.versionSteps_quiet
    ⟨(fun _ h => nomatch h), Standard.versions.clears Standard.early_deleted⟩ _ _ stored hstored
  exact ⟨stored, content, hstored, hbody, hreference⟩

-- Once the other is deleted too, the pointer to the first of them comes back.
theorem pointer_left_dangling : ∃ stored : StoredBody,
    (runSteps Standard.provider (Store.empty true) (Standard.versionSteps ++
      [Standard.late.deletion (Standard.deleteRequest Standard.late.hash 4)])).current
        (Standard.early.adapter.layout.path
          (.latest Standard.early.resource Standard.early.object)) = some stored ∧
    stored.body = Standard.early.adapter.layout.common.canonicalJsonBytes
      (latestValue Standard.early.hash.digest) ∧
    (runSteps Standard.provider (Store.empty true) (Standard.versionSteps ++
      [Standard.late.deletion (Standard.deleteRequest Standard.late.hash 4)])).current
        (Standard.early.adapter.layout.path (.reference Standard.early.resource
          Standard.early.object Standard.early.hash)) = none := by
  have hallowed : Standard.early.adapter.requireDeleteAllowed
      (Standard.early.published Standard.provider (Standard.base true))
      (Standard.deleteRequest Standard.early.hash 3).checkedAt = .ok () := rfl
  obtain ⟨⟨stored, hstored, hbody⟩, hgone⟩ := Standard.versions.dangles
    (Standard.base_versioned true) Standard.early_deleted Standard.late_deleted hallowed
    (fun _ => rfl) Standard.early_evidence
  rw [runSteps_append, Standard.runSteps_versionSteps, runSteps_cons, runSteps_nil]
  exact ⟨stored, hstored, hbody, hgone⟩

end MeridianS3
