import MeridianS3.Adapter.Execute
import MeridianS3.Publication.Put
import MeridianS3.Removal.Records

namespace MeridianS3

open Effect ObjectStore Json

variable {provider : Provider} {adapter : S3ObjectAdapter} {layout : S3Layout} {hashed : Set Bytes}
variable {bucket : Bucket}

-- A put that runs alone, however it is disturbed.
theorem put_alone (provider : Provider) {request : PutRequest}
    (hsound : adapter.layout.Sound hashed bucket)
    (hhashes : request.Hashes hashed) (plan : Plan Failure) :
    adapter.layout.Sound hashed ((adapter.put request).runFaulty provider.handle plan bucket).2 ∧
    Publishes provider adapter.layout hashed (fun _ _ => False) bucket
      ((adapter.put request).runFaulty provider.handle plan bucket).2 ∧
    ∀ metadata, ((adapter.put request).runFaulty provider.handle plan bucket).1 = .ok metadata →
      ∃ content seen, S3ObjectAdapter.Committed
        (Company.nobody provider adapter.layout hashed fun _ _ => False) request metadata content
        seen ((adapter.put request).runFaulty provider.handle plan bucket).2 := by
  have hput : Verified provider.handle
      (publication (Company.nobody provider adapter.layout hashed fun _ _ => False)).protocol
      (adapter.put request) ∅ bucket fun result _ after => ∀ metadata, result = .ok metadata →
        ∃ content seen, S3ObjectAdapter.Committed
          (Company.nobody provider adapter.layout hashed fun _ _ => False) request metadata content
          seen after :=
    S3ObjectAdapter.put_rule hhashes fun h => h.elim
  obtain ⟨hafter, -, hpost⟩ := hput.runFaulty Discipline.rely_refl hsound plan
    fun _ _ _ => trivial
  refine ⟨hafter, ?_, hpost⟩
  apply hput.runFaulty_related (Publishes provider adapter.layout hashed fun _ _ => False)
    (fun _ => .same (.refl _)) (fun _ _ _ => Publishes.trans) _ Discipline.rely_refl hsound plan
    fun _ _ _ => trivial
  exact fun _ _ _ _ hguar => hguar.1

-- A delete that runs alone, with the faults that strike it.
theorem delete_alone {request : DeleteRequest} (hsound : adapter.layout.Sound hashed bucket)
    (plan : Plan Failure) :
    DeleteEnds provider adapter request
      (fun call fault => (call, fault) ∈
        (adapter.delete request).struck provider.handle plan bucket) bucket
      ((adapter.delete request).runFaulty provider.handle plan bucket).1
      ((adapter.delete request).runFaulty provider.handle plan bucket).2 := by
  have hdelete : Verified provider.handle (solo fun call fault => (call, fault) ∈
      (adapter.delete request).struck provider.handle plan bucket).protocol
      (adapter.delete request) ∅ bucket fun result _ after => DeleteEnds provider adapter request
        (fun call fault => (call, fault) ∈
          (adapter.delete request).struck provider.handle plan bucket) bucket result after :=
    delete_ends hsound
  obtain ⟨-, -, hpost⟩ := hdelete.runFaulty Discipline.rely_refl trivial plan
    fun _ _ h => h
  exact hpost

-- The keys of the registry.
def registryKey : PhysicalKey → Prop
  | .schema _ | .registered _ => True
  | _ => False

section Registry

variable {faults : S3Call → Fault Failure → Prop} {owned : Set Nat}

theorem requireSame_within (key : String) (document : Value) (message : String) :
    (adapter.transport.requireSame key document message).Within (S3Call.reads anything anything) := by
  apply Program.Within.bind (S3Transport.readJson_within _ trivial)
  intro stored
  split <;> trivial

-- A registration writes its document where nothing is stored, or leaves the bucket.
theorem register_rule {key message : String} {document : Value} :
    Verified provider.handle (solo faults).protocol (adapter.transport.register key document message) owned
      bucket fun _ _ after => SameObjects bucket after ∨
        bucket.current key = none ∧ SameObjects (adapter.written bucket key document) after := by
  have hfailed (failure : Failure) (after : Bucket) (hafter : SameObjects bucket after ∨
      bucket.current key = none ∧ SameObjects (adapter.written bucket key document) after) :
      Verified provider.handle (solo faults).protocol
        (if failure.is .conditionalConflict then adapter.transport.requireSame key document message
        else throw failure) owned after fun _ _ after => SameObjects bucket after ∨
          bucket.current key = none ∧
            SameObjects (adapter.written bucket key document) after := by
    split
    · apply Discipline.observe (requireSame_within key document message) provider.handle_reads
      intro result final hfinal
      exact hafter.imp (fun h => h.trans hfinal) fun ⟨hnone, h⟩ => ⟨hnone, h.trans hfinal⟩
    · exact Verified.done hafter
  have hrefl := SameObjects.refl bucket
  unfold S3Transport.register
  apply Verified.recover
  apply Verified.seq
  apply S3ObjectAdapter.putJson_solo hrefl
  · exact fun _ after hafter => Verified.done
      (hfailed S3Transport.refusedWrite after (Or.inl hafter))
  · intro hfree stored after hafter
    apply Verified.done
    apply Verified.done
    refine Or.inr ⟨?_, hafter⟩
    simpa using hfree
  · intro call fault failure after _ _ hafter
    apply Verified.done
    apply hfailed failure after
    split at hafter
    · rename_i h
      refine Or.inr ⟨?_, hafter⟩
      simpa using h.2
    · exact Or.inl hafter

-- What a registry operation may do to a bucket.
def RegisterEnds (adapter : S3ObjectAdapter) (bucket after : Bucket) : Prop :=
  SameObjects bucket after ∨ ∃ physical value, registryKey physical ∧
    bucket.current (adapter.layout.path physical) = none ∧
    SameObjects (adapter.written bucket (adapter.layout.path physical) value) after

theorem publishSchema_rule {request : SchemaRequest} :
    Verified provider.handle (solo faults).protocol (adapter.publishSchema request) owned bucket
      fun _ _ after => RegisterEnds adapter bucket after := by
  apply Verified.seq
  apply register_rule.mono
  intro result held after hafter
  have hends : RegisterEnds adapter bucket after := hafter.imp id fun ⟨hnone, hsame⟩ =>
    ⟨.schema _, _, trivial, hnone, hsame⟩
  cases result <;> exact Verified.done hends

theorem createResource_rule {request : ResourceRequest} :
    Verified provider.handle (solo faults).protocol (adapter.createResource request) owned bucket
      fun _ _ after => RegisterEnds adapter bucket after := by
  unfold S3ObjectAdapter.createResource
  apply Verified.seq
  apply Verified.lift
  cases adapter.common.parseObjectProfile request.profile with
  | error failure => exact Verified.done (Or.inl (.refl bucket))
  | ok profile =>
      apply Verified.seq
      apply register_rule.mono
      intro result held after hafter
      have hends : RegisterEnds adapter bucket after := hafter.imp id fun ⟨hnone, hsame⟩ =>
        ⟨.registered _, _, trivial, hnone, hsame⟩
      cases result <;> exact Verified.done hends

theorem RegisterEnds.sound {after : Bucket} (hsound : adapter.layout.Sound hashed bucket)
    (h : RegisterEnds adapter bucket after) : adapter.layout.Sound hashed after := by
  rcases h with hsame | ⟨physical, value, hregistry, hnone, hsame⟩
  · exact hsound.same hsame
  · refine S3Layout.Sound.same ?_ hsame
    apply hsound.put
    · cases physical <;> trivial
    · exact fun _ => hnone

theorem RegisterEnds.entries {after : Bucket} (h : RegisterEnds adapter bucket after)
    {physical : PhysicalKey} (hother : ¬registryKey physical) :
    after.entries (adapter.layout.path physical) =
      bucket.entries (adapter.layout.path physical) := by
  rcases h with hsame | ⟨written, value, hregistry, -, hsame⟩
  · rw [hsame.entries]
  · have hne : physical ≠ written := by
      rintro rfl
      exact hother hregistry
    rw [hsame.entries, adapter.written_entries_of_ne _ (by simpa using hne)]

theorem RegisterEnds.versioned {after : Bucket} (h : RegisterEnds adapter bucket after) :
    after.versioned = bucket.versioned := by
  rcases h with hsame | ⟨_, _, -, -, hsame⟩
  · exact hsame.versioned
  · exact hsame.versioned

end Registry

section Observing

variable (adapter)

theorem stat_within (request : ReferenceRequest) :
    (adapter.stat request).Within S3Call.observes := by
  apply Program.Within.bind (.ofLift _)
  intro reference
  have hread : (adapter.readEnvelope request.resource reference.objectId reference.digest).Within
      (S3Call.reads anything anything) :=
    adapter.readEnvelope_within _ _ (fun _ _ => trivial) _
  apply Program.Within.bind (hread.mono fun call h => call.reads_observes h)
  intro envelope
  apply Program.Within.bind (.ofLift _)
  intro blobKey
  apply Program.Within.bind (S3Transport.head_within _ _)
  intro head
  exact Program.Within.bind (.ofLift _) fun _ => trivial

theorem get_within (resource : ResourceRef) (reference : Value) :
    (adapter.get resource reference).Within S3Call.observes := by
  apply Program.Within.bind (stat_within adapter _)
  intro envelope
  exact Program.Within.bind (.ofLift _) fun _ => trivial

theorem readRange_within (request : RangeRequest) :
    (adapter.readRange request).Within S3Call.observes := by
  apply Program.Within.bind (stat_within adapter _)
  intro envelope
  apply Program.Within.bind (.ofLift _)
  intro rawRange
  apply Program.Within.bind (.ofLift _)
  intro resolved
  have hrest : (do
      let key ← Program.lift (adapter.layout.blobKey request.resource
        envelope.metadata.objectRef.objectId envelope.metadata.digest)
      return (⟨envelope.metadata, ⟨key, envelope.blobVersionId, resolved.length, none⟩, resolved,
        envelope.chunkDigests⟩ : RangeResult) : S3M RangeResult).Within S3Call.observes :=
    Program.Within.bind (.ofLift _) fun _ => trivial
  dsimp only
  split
  · trivial
  · split
    · trivial
    · exact hrest

theorem listPage_within (namePrefix : String) (limit : Nat) (keys : List String)
    (progress : ListProgress) :
    (adapter.listPage namePrefix limit keys progress).Within
      (S3Call.reads anything anything) := by
  induction keys generalizing progress with
  | nil => trivial
  | cons key rest ih =>
      rw [S3ObjectAdapter.listPage]
      split
      · trivial
      · apply Program.Within.bind (S3Transport.readJson_within _ trivial)
        intro value
        apply Program.Within.bind (.ofLift _)
        exact fun envelope => ih _

theorem listPages_within (keyPrefix namePrefix : String) (limit pages : Nat)
    (startAfter : Option String) (progress : ListProgress) (more : Bool) :
    (adapter.listPages keyPrefix namePrefix limit pages startAfter progress more).Within
      (S3Call.reads anything anything) := by
  induction pages generalizing startAfter progress more with
  | zero => trivial
  | succ pages ih =>
      apply Program.Within.bind (S3Transport.listKeys_within trivial _ _)
      intro page
      split
      · trivial
      · apply Program.Within.bind (listPage_within adapter _ _ _ _)
        intro scanned
        simp only
        split
        · trivial
        · split
          · trivial
          · exact ih _ _ _

theorem list_within (request : ListRequest) :
    (adapter.list request).Within S3Call.observes := by
  apply Program.Within.bind (.ofLift _)
  intro startAfter
  have hpages := (listPages_within adapter (adapter.layout.referencePrefix request.resource)
    request.namePrefix request.limit MAX_INTERNAL_LIST_PAGES startAfter ⟨[], none⟩ false).mono
      fun call h => call.reads_observes h
  apply Program.Within.bind hpages
  intro scanned
  simp only
  split
  · exact Program.Within.bind (.ofLift _) fun _ => trivial
  · trivial

end Observing

-- What a step of a run does to its bucket, for each kind of operation.
inductive StepEnds (provider : Provider) (hashed : Set Bytes) (step : Step) (bucket after : Bucket) :
    Prop where
  | read (hsame : after = bucket)
  | registered (hends : RegisterEnds step.adapter bucket after)
  | published (request : PutRequest) (hoperation : step.operation = .put request)
      (hpublishes : Publishes provider step.adapter.layout hashed (fun _ _ => False)
      bucket after)
  | deleted (request : DeleteRequest) (result : Except Failure Bool)
      (hoperation : step.operation = .delete request)
      (hends : DeleteEnds provider step.adapter request
        (fun call fault => (call, fault) ∈ step.struck provider bucket) bucket result after)

-- A step that takes part in a run: it uses the layout, and the bytes that it hashes
-- are kept account of.
structure Step.Joins (step : Step) (layout : S3Layout) (hashed : Set Bytes) : Prop where
  keyed : step.adapter.layout = layout
  hashes : ∀ request, step.operation = .put request → request.Hashes hashed

theorem PutRequest.hashes_univ (request : PutRequest) : request.Hashes Set.univ :=
  ⟨Set.mem_univ _, fun _ _ _ => Set.mem_univ _⟩

theorem Step.ends {step : Step} (hjoin : step.Joins layout hashed)
    (hsound : layout.Sound hashed bucket) :
    layout.Sound hashed (step.run provider bucket).2 ∧
      StepEnds provider hashed step bucket (step.run provider bucket).2 := by
  obtain ⟨rfl, hhashes⟩ := hjoin
  rcases step with ⟨adapter, operation, plan⟩
  have hobserved {α : Type} (program : S3M α) (f : α → Outcome)
      (hwithin : program.Within S3Call.observes) :
      ((f <$> program).runFaulty provider.handle plan bucket).2 = bucket := by
    rw [runFaulty_map]
    exact hwithin.runFaulty_state provider.handle_observes plan bucket
  have hread {operation : Operation} {after : Bucket} (hsame : after = bucket) :
      adapter.layout.Sound hashed after ∧
        StepEnds provider hashed ⟨adapter, operation, plan⟩ bucket after :=
    ⟨hsame ▸ hsound, .read hsame⟩
  have hregistered {α : Type} {operation : Operation} (program : S3M α) (f : α → Outcome)
      (h : Verified provider.handle (solo fun _ _ => True).protocol program ∅ bucket
        fun _ _ after => RegisterEnds adapter bucket after) :
      adapter.layout.Sound hashed ((f <$> program).runFaulty provider.handle plan bucket).2 ∧
        StepEnds provider hashed ⟨adapter, operation, plan⟩ bucket
          ((f <$> program).runFaulty provider.handle plan bucket).2 := by
    rw [runFaulty_map]
    obtain ⟨-, -, hends⟩ := h.runFaulty Discipline.rely_refl trivial plan fun _ _ _ => trivial
    exact ⟨hends.sound hsound, .registered hends⟩
  cases operation with
  | publishSchema request => exact hregistered _ _ publishSchema_rule
  | createResource request => exact hregistered _ _ createResource_rule
  | put request =>
      obtain ⟨hafter, hpublishes, -⟩ :=
        put_alone provider hsound (hhashes request rfl) plan
      unfold Step.run
      simp only [S3ObjectAdapter.execute, runFaulty_map]
      exact ⟨hafter, .published request rfl hpublishes⟩
  | get resource reference => exact hread (hobserved _ _ (get_within adapter resource reference))
  | stat resource reference => exact hread (hobserved _ _ (stat_within adapter _))
  | readRange request => exact hread (hobserved _ _ (readRange_within adapter request))
  | list request => exact hread (hobserved _ _ (list_within adapter request))
  | delete request =>
      have hends : DeleteEnds provider adapter request (fun call fault => (call, fault) ∈
          (adapter.delete request).struck provider.handle plan bucket) bucket
          ((adapter.delete request).runFaulty provider.handle plan bucket).1
          ((adapter.delete request).runFaulty provider.handle plan bucket).2 :=
        delete_alone hsound plan
      have hafter : (Step.run provider ⟨adapter, .delete request, plan⟩ bucket).2 =
          ((adapter.delete request).runFaulty provider.handle plan bucket).2 := by
        simp only [Step.run, S3ObjectAdapter.execute, runFaulty_map]
      have hstruck : Step.struck provider ⟨adapter, .delete request, plan⟩ bucket =
          (adapter.delete request).struck provider.handle plan bucket := by
        simp only [Step.struck, S3ObjectAdapter.execute, struck_map]
      rw [hafter]
      exact ⟨hends.sound hsound, .deleted request _ rfl (by rwa [hstruck])⟩

theorem runSteps_sound {steps : List Step} (hjoin : ∀ step ∈ steps, step.Joins layout hashed)
    (hsound : layout.Sound hashed bucket) :
    layout.Sound hashed (runSteps provider bucket steps) := by
  induction steps generalizing bucket with
  | nil => exact hsound
  | cons step rest ih =>
      rw [runSteps_cons]
      exact ih (fun later hmem => hjoin later (List.mem_cons_of_mem _ hmem))
        (Step.ends (hjoin step List.mem_cons_self) hsound).1

theorem runSteps_versioned {steps : List Step} (hjoin : ∀ step ∈ steps, step.Joins layout hashed)
    (hsound : layout.Sound hashed bucket) :
    (runSteps provider bucket steps).versioned = bucket.versioned := by
  induction steps generalizing bucket with
  | nil => rfl
  | cons step rest ih =>
      have hstep : layout.Sound hashed (step.run provider bucket).2 ∧
          StepEnds provider hashed step bucket (step.run provider bucket).2 :=
        Step.ends (hjoin step List.mem_cons_self) hsound
      obtain ⟨hafter, hends⟩ := hstep
      rw [runSteps_cons, ih (fun later hmem => hjoin later (List.mem_cons_of_mem _ hmem)) hafter]
      cases hends with
      | read hsame => rw [hsame]
      | registered hends => exact hends.versioned
      | published _ _ hpublishes => exact hpublishes.versioned
      | deleted request result hoperation hends => exact hends.versioned

end MeridianS3
