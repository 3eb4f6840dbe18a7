import MeridianS3.Effect.Interleaving
import MeridianS3.Effect.Trace

namespace Effect

variable {S : Signature} {ε α β σ : Type} {handler : Handler S ε σ}

-- Some first calls of a program, without failures, and what is left of it.
inductive Program.Advances (handler : Handler S ε σ) :
    Program S ε α → σ → Program S ε α → σ → Prop where
  | here (program : Program S ε α) (state : σ) : Advances handler program state program state
  | call (request : S.Call) (next : Except ε (S.Reply request) → Program S ε α) (state : σ)
      (rest : Program S ε α) (after : σ)
      (h : Advances handler (next (handler request state).1) (handler request state).2 rest after) :
      Advances handler (.call request next) state rest after

namespace Program

theorem Advances.trans {program middle rest : Program S ε α} {state between after : σ}
    (h : program.Advances handler state middle between)
    (hrest : middle.Advances handler between rest after) :
    program.Advances handler state rest after := by
  induction h with
  | here program state => exact hrest
  | call request next state middle between _ ih =>
      exact .call request next state rest after (ih hrest)

theorem Advances.andThen {program rest : Program S ε α} {state after : σ}
    (h : program.Advances handler state rest after) (next : Except ε α → Program S ε β) :
    (program.andThen next).Advances handler state (rest.andThen next) after := by
  induction h with
  | here program state => exact .here _ state
  | call request rest state final after _ ih => exact .call request _ state _ after ih

theorem advances_run (handler : Handler S ε σ) (program : Program S ε α) (state : σ) :
    program.Advances handler state (.done (program.run handler state).1)
      (program.run handler state).2 := by
  induction program generalizing state with
  | done result => exact .here _ state
  | call request next ih => exact .call request next state _ _ (ih _ _)

theorem Advances.bind {program rest : Program S ε α} {state after : σ}
    (h : program.Advances handler state rest after) (next : α → Program S ε β) :
    (program >>= next).Advances handler state (rest >>= next) after := h.andThen (onOk next)

theorem Advances.tryCatch {program rest : Program S ε α} {state after : σ}
    (h : program.Advances handler state rest after) (recover : ε → Program S ε α) :
    (tryCatch program recover).Advances handler state (tryCatch rest recover) after :=
  h.andThen (onError recover)

-- The first half of a bind runs out, and the second half goes on from there.
theorem Advances.seq {program : Program S ε α} {next : α → Program S ε β} {rest : Program S ε β}
    {state between after : σ} {value : α} (hrun : program.run handler state = (.ok value, between))
    (h : (next value).Advances handler between rest after) :
    (program >>= next).Advances handler state rest after := by
  have hfirst := advances_run handler program state
  rw [hrun] at hfirst
  exact (hfirst.bind next).trans h

theorem Advances.mem_trace {program : Program S ε α} {request : S.Call}
    {next : Except ε (S.Reply request) → Program S ε α} {state after : σ}
    (h : program.Advances handler state (.call request next) after) :
    request ∈ program.trace handler state := by
  generalize hrest : Program.call request next = rest at h
  induction h with
  | here program state =>
      subst hrest
      exact List.mem_cons_self
  | call first others state rest after _ ih => exact List.mem_cons_of_mem _ (ih hrest)

-- What is left runs as the program would have run on.
theorem Advances.run {program rest : Program S ε α} {state after : σ}
    (h : program.Advances handler state rest after) :
    program.run handler state = rest.run handler after := by
  induction h with
  | here program state => rfl
  | call request next state rest after _ ih => exact ih

end Program

-- A client makes these calls while the others wait.
theorem System.advance {system : System S ε α σ} {client : Nat} {program rest : Program S ε α}
    {after : σ} (h : program.Advances handler system.state rest after)
    (hclient : system.clients[client]? = some program) :
    ∃ schedule, system.runSchedule handler schedule =
        ⟨after, system.clients.set client rest⟩ ∧ ∀ turn ∈ schedule, turn = (client, none) := by
  rcases system with ⟨state, clients⟩
  dsimp only at h hclient ⊢
  induction h generalizing clients with
  | here program state =>
      refine ⟨[], ?_, fun _ hturn => nomatch hturn⟩
      have hset : clients.set client program = clients := by
        obtain ⟨hlt, hget⟩ := List.getElem?_eq_some_iff.mp hclient
        subst hget
        exact List.set_getElem_self hlt
      rw [hset]
      rfl
  | call request next state rest after _ ih =>
      obtain ⟨hlt, hget⟩ := List.getElem?_eq_some_iff.mp hclient
      obtain ⟨schedule, hschedule, hturns⟩ := ih
        (clients.set client (next (handler request state).1)) (by simp [hlt])
      refine ⟨(client, none) :: schedule, ?_, ?_⟩
      · have hstep : System.step handler ⟨state, clients⟩ (client, none) =
            ⟨(handler request state).2, clients.set client (next (handler request state).1)⟩ :=
          System.step_call hclient
        change System.runSchedule handler (System.step handler ⟨state, clients⟩ (client, none))
          schedule = _
        rw [hstep, hschedule, List.set_set]
      · intro turn hturn
        rcases List.mem_cons.mp hturn with rfl | hrest
        · rfl
        · exact hturns turn hrest

-- One client stops at some call, and another runs out meanwhile.
theorem System.overtakes {system : System S ε α σ} {slow fast : Nat} (hne : slow ≠ fast)
    {program rest quick : Program S ε α} {between : σ}
    (h : program.Advances handler system.state rest between)
    (hslow : system.clients[slow]? = some program)
    (hfast : system.clients[fast]? = some quick) :
    ∃ opening middle, system.runSchedule handler (opening ++ middle) =
        ⟨(quick.run handler between).2,
          (system.clients.set slow rest).set fast (.done (quick.run handler between).1)⟩ ∧
      system.runSchedule handler opening = ⟨between, system.clients.set slow rest⟩ ∧
      (∀ turn ∈ opening, turn = (slow, none)) ∧ ∀ turn ∈ middle, turn = (fast, none) := by
  obtain ⟨opening, hopening, hslows⟩ := System.advance h hslow
  have hwaits : (System.mk between (system.clients.set slow rest)).clients[fast]? = some quick :=
    (List.getElem?_set_ne hne).trans hfast
  obtain ⟨middle, hmiddle, hfasts⟩ :=
    System.advance (Program.advances_run handler quick between) hwaits
  refine ⟨opening, middle, ?_, hopening, hslows, hfasts⟩
  rw [System.runSchedule_append, hopening, hmiddle]

-- One client runs out before the first call of another, and a third between that call and
-- the rest of it.
theorem System.crosses (handler : Handler S ε σ) (first last : Program S ε α) {request : S.Call}
    (next : Except ε (S.Reply request) → Program S ε α) (state : σ) :
    ∃ opening middle closing ended,
      (∀ turn ∈ opening, turn = (0, none)) ∧ (∀ turn ∈ middle, turn = (2, none)) ∧
      (∀ turn ∈ closing, turn = (1, none)) ∧
      ((System.mk state [first, .call request next, last]).runSchedule handler opening).state =
        (first.run handler state).2 ∧
      ((System.mk state [first, .call request next, last]).runSchedule handler
        (opening ++ (1, none) :: (middle ++ closing))).clients =
          [.done (first.run handler state).1, .done ended,
            .done (last.run handler (handler request (first.run handler state).2).2).1] := by
  have hfirst : (System.mk state [first, .call request next, last]).clients[0]? =
      some first := rfl
  obtain ⟨opening, hopening, hopens⟩ :=
    System.advance (Program.advances_run handler first state) hfirst
  generalize first.run handler state = before at hopening ⊢
  generalize hanswer : handler request before.2 = answer at *
  have hlast : (System.mk answer.2 [.done before.1, next answer.1, last]).clients[2]? =
      some last := rfl
  obtain ⟨middle, hmiddle, hlasts⟩ :=
    System.advance (Program.advances_run handler last answer.2) hlast
  generalize last.run handler answer.2 = after at hmiddle ⊢
  have hnext : (System.mk after.2 [.done before.1, next answer.1, .done after.1]).clients[1]? =
      some (next answer.1) := rfl
  obtain ⟨closing, hclosing, hcloses⟩ :=
    System.advance (Program.advances_run handler (next answer.1) after.2) hnext
  refine ⟨opening, middle, closing, ((next answer.1).run handler after.2).1, hopens, hlasts,
    hcloses, by rw [hopening], ?_⟩
  have hcall : System.step handler ⟨before.2, [.done before.1, .call request next, last]⟩
      (1, none) = ⟨answer.2, [.done before.1, next answer.1, last]⟩ := by
    rw [← hanswer]
    rfl
  rw [System.runSchedule_append, hopening]
  change ((System.step handler ⟨before.2, [.done before.1, .call request next, last]⟩
    (1, none)).runSchedule handler (middle ++ closing)).clients = _
  rw [hcall, System.runSchedule_append, hmiddle]
  exact congrArg System.clients hclosing

-- One client runs out while another stands between two of its calls.
theorem System.pauses (f : α → β) (fast : Program S ε β) {request again : S.Call}
    {state between : σ} {next : Except ε (S.Reply request) → Program S ε α}
    {rest : Except ε (S.Reply again) → Program S ε α}
    (h : (next (handler request state).1).Advances handler (handler request state).2
      (.call again rest) between) :
    ∃ opening middle closing,
      (∀ turn ∈ opening, turn = (0, none)) ∧ (∀ turn ∈ middle, turn = (1, none)) ∧
      (∀ turn ∈ closing, turn = (0, none)) ∧
      ((System.mk state [f <$> Program.call request next, fast]).runSchedule handler
        ((0, none) :: (opening ++ middle ++ (0, none) :: closing))).clients =
          [.done ((f <$> Program.call again rest).run handler (fast.run handler between).2).1,
            .done (fast.run handler between).1] := by
  have hcall : (System.mk state [f <$> Program.call request next, fast]).step handler (0, none) =
      ⟨(handler request state).2, [f <$> next (handler request state).1, fast]⟩ := rfl
  generalize handler request state = answer at h hcall
  have hslow : (System.mk answer.2 [f <$> next answer.1, fast]).clients[0]? =
      some (f <$> next answer.1) := rfl
  have hfast : (System.mk answer.2 [f <$> next answer.1, fast]).clients[1]? = some fast := rfl
  obtain ⟨opening, middle, hmeets, -, hopens, hmiddle⟩ :=
    System.overtakes Nat.zero_ne_one (h.andThen _) hslow hfast
  generalize fast.run handler between = quick at hmeets ⊢
  have hagain : (System.mk quick.2 [f <$> Program.call again rest, .done quick.1]).step handler
      (0, none) = ⟨(handler again quick.2).2,
        [f <$> rest (handler again quick.2).1, .done quick.1]⟩ := rfl
  have hrest : (System.mk (handler again quick.2).2
      [f <$> rest (handler again quick.2).1, .done quick.1]).clients[0]? =
        some (f <$> rest (handler again quick.2).1) := rfl
  obtain ⟨closing, hclosing, hcloses⟩ := System.advance (Program.advances_run handler
    (f <$> rest (handler again quick.2).1) (handler again quick.2).2) hrest
  refine ⟨opening, middle, closing, hopens, hmiddle, hcloses, ?_⟩
  change (((System.mk state [f <$> Program.call request next, fast]).step handler
    (0, none)).runSchedule handler (opening ++ middle ++ (0, none) :: closing)).clients = _
  rw [hcall, System.runSchedule_append, hmeets]
  change (((System.mk quick.2 [f <$> Program.call again rest, .done quick.1]).step handler
    (0, none)).runSchedule handler closing).clients = _
  rw [hagain, hclosing]
  rfl

-- A fault strikes the call that a client has come to, and the client runs out.
theorem System.struck_out {system : System S ε α σ} {client : Nat} {request : S.Call}
    {next : Except ε (S.Reply request) → Program S ε α}
    (hclient : system.clients[client]? = some (.call request next)) (fault : Fault ε) :
    ∃ closing ended, (system.runSchedule handler ((client, some fault) :: closing)).clients =
      system.clients.set client (.done ended) := by
  have hstep : system.step handler (client, some fault) =
      ⟨(strike handler (some fault) request system.state).2,
        system.clients.set client (next (strike handler (some fault) request system.state).1)⟩ :=
    System.step_call hclient
  obtain ⟨hlt, -⟩ := List.getElem?_eq_some_iff.mp hclient
  have hnext : (system.step handler (client, some fault)).clients[client]? =
      some (next (strike handler (some fault) request system.state).1) := by
    rw [hstep]
    exact List.getElem?_set_self hlt
  have hset (rest : Program S ε α) : (system.step handler (client, some fault)).clients.set client
      rest = system.clients.set client rest := by
    rw [hstep, List.set_set]
  obtain ⟨closing, hclosing, -⟩ := System.advance (Program.advances_run handler _ _) hnext
  exact ⟨closing, _, (congrArg System.clients hclosing).trans (hset _)⟩

end Effect
