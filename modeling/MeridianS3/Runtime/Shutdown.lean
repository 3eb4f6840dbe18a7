import MeridianS3.Runtime.Deployment

namespace MeridianS3

open Effect ObjectStore Json

variable {Client Manifest : Type}

-- A client that is not about to call the bucket and has not returned an answer.
structure Idle (program : ServiceM Client Manifest Answer) : Prop where
  uncalled : ∀ (request : S3Call) (next : Except Failure request.Reply →
    ServiceM Client Manifest Answer), program ≠ .call (S := S3.both _) (.inl request) next
  unanswered : ∀ answer, program ≠ .done (.ok answer)

-- The session is closed, or the runtime holds no adapter and is not opened any more.
inductive Refuses (demands : List (Demand Client Manifest)) (session : Nat)
    (after : Schedule Failure) (service : Service Client Manifest) : Prop where
  | closed (h : service.closed[session]? = some true)
  | unopened (h : service.place.runtime.adapter = none)
      (hafter : ∀ turn ∈ after, ∀ sdk, demands[turn.1]? ≠ some (.open sdk))

section Idle

variable {possible : (request : (S3.both (RuntimeSignature Client Manifest)).Call) →
  Except Failure ((S3.both (RuntimeSignature Client Manifest)).Reply request) → Prop}

def Asked (request : (S3.both (RuntimeSignature Client Manifest)).Call) : Prop :=
  ∃ call, request = .inr call

def Failed {α : Type} (result : Except Failure α) : Prop := ∃ failure, result = .error failure

theorem idle_of_confined {program : ServiceM Client Manifest Answer}
    (h : program.Confined Asked possible Failed) : Idle program := by
  constructor
  · rintro request next rfl
    obtain ⟨call, hcall⟩ := h.1
    cases hcall
  · rintro answer rfl
    obtain ⟨failure, hfailure⟩ := h
    cases hfailure

-- An execute asks whether its session is open, and then for the adapter. One of the two
-- fails.
theorem execute_confined (fields : ManifestFields Manifest) (session : Nat)
    (operation : Operation)
    (hrefused : (∀ reply, possible (.inr (.requireOpen session)) reply → Failed reply) ∨
      ∀ reply, possible (.inr .adapter) reply → Failed reply) :
    (Demand.program fields (.execute session operation)).Confined Asked possible Failed := by
  have hasked (call : RuntimeCall Client Manifest) :
      (S3AdapterSession.asked call).Confined Asked possible (possible (.inr call)) :=
    Program.Confined.perform ⟨call, rfl⟩
  simp only [Demand.program, S3AdapterSession.execute, map_bind]
  refine (hasked (.requireOpen session)).bind (fun value hvalue => ?_)
    fun failure _ => ⟨failure, rfl⟩
  refine (hasked .adapter).bind (fun adapter hadapter => ?_) fun failure _ => ⟨failure, rfl⟩
  rcases hrefused with hrefused | hrefused
  · obtain ⟨failure, hfailure⟩ := hrefused _ hvalue
    cases hfailure
  · obtain ⟨failure, hfailure⟩ := hrefused _ hadapter
    cases hfailure

end Idle

namespace Service

-- A session that is closed stays closed.
theorem closed_stays {service : Service Client Manifest} {session : Nat}
    (h : service.closed[session]? = some true) (call : RuntimeCall Client Manifest) :
    (Service.handle call service).2.closed[session]? = some true := by
  cases call with
  | openSession transactional =>
      simp only [Service.handle]
      split
      · exact h
      · obtain ⟨hlt, -⟩ := List.getElem?_eq_some_iff.mp h
        exact (List.getElem?_append_left hlt).trans h
  | closeSession other =>
      simp only [Service.handle]
      rw [List.getElem?_set]
      split
      · rename_i hsame
        obtain ⟨hlt, -⟩ := List.getElem?_eq_some_iff.mp h
        rw [if_pos (hsame ▸ hlt)]
      · exact h
  | «open» sdk | close sdk | requireOpen other | adapter | probe | config => exact h

-- A runtime that holds no adapter gets one only by an open.
theorem unopened_stays {service : Service Client Manifest}
    (h : service.place.runtime.adapter = none) {call : RuntimeCall Client Manifest}
    (hcall : ∀ sdk, call ≠ .open sdk) :
    (Service.handle call service).2.place.runtime.adapter = none := by
  cases call with
  | «open» sdk => exact absurd rfl (hcall sdk)
  | close sdk =>
      have hkept (place : Workplace Client Manifest) (hplace : place.runtime.adapter = none) :
          place.cleaned.runtime.adapter = none := by
        unfold Workplace.cleaned
        split <;> exact hplace
      by_cases hclose : ∀ client, service.place.runtime.transport = some client →
          sdk.surroundings.close client = .ok ()
      · simp only [Service.handle]
        rw [S3AdapterRuntime.close_run sdk.surroundings service.place hclose]
        exact hkept _ rfl
      · push Not at hclose
        obtain ⟨client, htransport, hraised⟩ := hclose
        cases hfailed : sdk.surroundings.close client with
        | ok _ => exact absurd hfailed hraised
        | error failure =>
            simp only [Service.handle]
            rw [S3AdapterRuntime.close_raised sdk.surroundings service.place client failure
              htransport hfailed]
            exact h
  | openSession transactional =>
      simp only [Service.handle]
      split <;> exact h
  | closeSession other | requireOpen other | adapter | probe | config => exact h

end Service

section Kept

variable {provider : Provider} {session : Nat} {state : Bucket × Service Client Manifest}
  {request : (S3.both (RuntimeSignature Client Manifest)).Call}

theorem closed_kept (h : state.2.closed[session]? = some true)
    (request : (S3.both (RuntimeSignature Client Manifest)).Call) :
    (provider.handle.both Service.handle request state).2.2.closed[session]? = some true := by
  cases request with
  | inl call => exact h
  | inr call => exact Service.closed_stays h call

theorem closed_refuses (h : state.2.closed[session]? = some true)
    (hsame : request = .inr (.requireOpen session)) :
    Failed (provider.handle.both Service.handle request state).1 := by
  subst hsame
  refine ⟨Service.sessionClosed, if_neg ?_⟩
  rw [h]
  exact fun hopen => Bool.noConfusion (Option.some.inj hopen)

theorem unopened_kept (h : state.2.place.runtime.adapter = none)
    (hopen : ∀ sdk, request ≠ .inr (.open sdk)) :
    (provider.handle.both Service.handle request state).2.2.place.runtime.adapter = none := by
  cases request with
  | inl call => exact h
  | inr call => exact Service.unopened_stays h fun sdk hsame => hopen sdk (congrArg Sum.inr hsame)

theorem unopened_refuses (h : state.2.place.runtime.adapter = none)
    (hsame : request = .inr .adapter) :
    Failed (provider.handle.both Service.handle request state).1 := by
  subst hsame
  refine ⟨S3AdapterRuntime.notOpen, ?_⟩
  change state.2.place.runtime.heldAdapter = _
  rw [S3AdapterRuntime.heldAdapter, h]
  rfl

end Kept

-- If the call is an open, it is one of these.
def Opens (opened : Sdk Client Manifest → Prop)
    (request : (S3.both (RuntimeSignature Client Manifest)).Call) : Prop :=
  ∀ sdk, request = .inr (.open sdk) → opened sdk

-- Only a demand to open opens.
theorem Demand.opens (fields : ManifestFields Manifest) (demand : Demand Client Manifest) :
    (demand.program fields).Within (Opens fun sdk => demand = .open sdk) := by
  have hasked {call : RuntimeCall Client Manifest} (hcall : ∀ sdk, call ≠ .open sdk) :
      (S3AdapterSession.asked call).Within (Opens fun sdk => demand = .open sdk) :=
    Program.Within.perform fun sdk hsame => absurd (Sum.inr.inj hsame) (hcall sdk)
  have htransaction (session : Nat) : (S3AdapterSession.transaction session :
      ServiceM Client Manifest Answer).Within (Opens fun sdk => demand = .open sdk) :=
    (hasked fun sdk hsame => by cases hsame).bind fun _ => trivial
  cases demand with
  | «open» sdk =>
      apply Program.Within.map
      apply Program.Within.perform
      intro other hsame
      cases hsame
      rfl
  | close sdk | openSession transactional | closeSession session =>
      exact (hasked fun sdk hsame => by cases hsame).map _
  | begin session | commit session | rollback session => exact htransaction session
  | execute session operation =>
      apply Program.Within.map
      refine (hasked fun sdk hsame => by cases hsame).bind fun _ => ?_
      refine (hasked fun sdk hsame => by cases hsame).bind fun adapter => ?_
      refine (Program.within_inject _ fun request sdk hsame => by cases hsame).bind fun _ => ?_
      refine (hasked fun sdk hsame => by cases hsame).bind fun _ => ?_
      exact (hasked fun sdk hsame => by cases hsame).bind fun _ => trivial

namespace Standard

-- A session that is closed before its operation begins.
def closedSession : List (Demand Unit CapabilityManifest) :=
  [.open sdk, .openSession false, .closeSession 0,
    .execute 0 (.createResource (resourceRequest .mutable))]

end Standard

section Runs

variable (provider : Provider) (fields : ManifestFields Manifest) (bucket : Bucket)
  (runtime : S3AdapterRuntime Client Manifest) (named : Nat)

theorem deployment_opens (demands : List (Demand Client Manifest)) :
    (deployment fields bucket runtime named demands).Confined
      (fun place => Opens fun sdk => demands[place]? = some (.open sdk)) fun _ _ => True := by
  intro place program hprogram
  obtain ⟨demand, hdemand, rfl⟩ : ∃ demand, demands[place]? = some demand ∧
      Demand.program fields demand = program := by
    simpa [deployment, List.getElem?_map] using hprogram
  apply Program.Within.confined
  apply (demand.opens fields).mono
  intro request hrequest sdk hsame
  rw [hdemand, hrequest sdk hsame]

-- Once a session is closed, or the runtime for good, an execute that has not begun never
-- reaches the bucket and returns no answer, whatever else goes on.
theorem refused_idle {demands : List (Demand Client Manifest)} {place session : Nat}
    {operation : Operation} (hdemand : demands[place]? = some (.execute session operation))
    {before after : Schedule Failure} (hwaits : ∀ turn ∈ before, turn.1 ≠ place)
    (hrefuses : Refuses demands session after ((deployment fields bucket runtime named
      demands).runSchedule (provider.handle.both Service.handle) before).state.2) :
    ∃ program, ((deployment fields bucket runtime named demands).runSchedule
      (provider.handle.both Service.handle) (before ++ after)).clients[place]? = some program ∧
        Idle program := by
  have hclient : ((deployment fields bucket runtime named demands).runSchedule
      (provider.handle.both Service.handle) before).clients[place]? =
        some (Demand.program fields (.execute session operation)) := by
    rw [System.client_waits hwaits]
    simp [deployment, hdemand]
  rw [System.runSchedule_append]
  generalize hreached : (deployment fields bucket runtime named demands).runSchedule
    (provider.handle.both Service.handle) before = reached at hclient hrefuses ⊢
  cases hrefuses with
  | closed hclosed =>
      have hprogram : ((Demand.execute session operation :
          Demand Client Manifest).program fields).Confined Asked
          (fun request reply => request = .inr (.requireOpen session) → Failed reply) Failed :=
        execute_confined fields session operation (.inl fun reply hreply => hreply rfl)
      have hconfined : reached.Confined (fun _ _ => True) fun _ _ => True :=
        fun _ program _ => Program.Confined.any program
      obtain ⟨program, hrest, hidle⟩ := hconfined.guarded
        (fun state => state.2.closed[session]? = some true)
        (fun turn _ request _ state hstate => closed_kept hstate request) hclosed
        (fun request _ state hstate hsame => closed_refuses hstate hsame)
        (fun request failure _ => ⟨failure, rfl⟩) hclient hprogram
      exact ⟨program, hrest, idle_of_confined hidle⟩
  | unopened hadapter hafter =>
      have hprogram : ((Demand.execute session operation :
          Demand Client Manifest).program fields).Confined Asked
          (fun request reply => request = .inr .adapter → Failed reply) Failed :=
        execute_confined fields session operation (.inr fun reply hreply => hreply rfl)
      have hconfined : reached.Confined (fun place =>
          Opens fun sdk => demands[place]? = some (.open sdk)) fun _ _ => True := by
        rw [← hreached]
        exact (deployment_opens fields bucket runtime named demands).runSchedule before
      obtain ⟨program, hrest, hidle⟩ := hconfined.guarded
        (fun state => state.2.place.runtime.adapter = none)
        (fun turn hturn request hrequest state hstate => unopened_kept hstate
          fun sdk hsame => hafter turn hturn sdk (hrequest sdk hsame)) hadapter
        (fun request _ state hstate hsame => unopened_refuses hstate hsame)
        (fun request failure _ => ⟨failure, rfl⟩) hclient hprogram
      exact ⟨program, hrest, idle_of_confined hidle⟩

theorem closed_session_idle : ∃ program, ((deployment Standard.manifestFields (Store.empty true)
    Standard.boundRuntime 0 Standard.closedSession).runSchedule
      (Standard.provider.handle.both Service.handle)
        ([(0, none), (1, none), (2, none)] ++ [(0, none), (3, none)])).clients[3]? =
          some program ∧ Idle program :=
  refused_idle Standard.provider Standard.manifestFields (Store.empty true) Standard.boundRuntime 0
    rfl (by decide) (.closed rfl)

end Runs

end MeridianS3
