import MeridianS3.Effect.Crowd

namespace Effect

section Settled

variable {S : Signature} {ε α β σ : Type} {handler : Handler S ε σ} {later : σ → Prop} {origin : σ}

namespace Program

-- In whichever of these states its calls are made, a program ends with this result.
def Settled (handler : Handler S ε σ) (later : σ → Prop) : Program S ε α → Except ε α → Prop
  | .done ended, result => ended = result
  | .call request next, result =>
      ∀ state, later state → (next (handler request state).1).Settled handler later result

-- The result is settled by the first call, which is made in this state.
def SettledFrom (handler : Handler S ε σ) (later : σ → Prop) (origin : σ) :
    Program S ε α → Except ε α → Prop
  | .done ended, result => ended = result
  | .call request next, result => (next (handler request origin).1).Settled handler later result

variable {program : Program S ε α}

theorem Settled.andThen {next : Except ε α → Program S ε β} {middle : Except ε α}
    {result : Except ε β} (h : program.Settled handler later middle)
    (hnext : (next middle).Settled handler later result) :
    (program.andThen next).Settled handler later result := by
  induction program with
  | done ended =>
      obtain rfl : ended = middle := h
      exact hnext
  | call request rest ih => exact fun state hlater => ih _ (h state hlater)

theorem Settled.settledFrom {result : Except ε α} (h : program.Settled handler later result)
    (horigin : later origin) : program.SettledFrom handler later origin result := by
  cases program with
  | done ended => exact h
  | call request next => exact h origin horigin

theorem SettledFrom.andThen {next : Except ε α → Program S ε β} {middle : Except ε α}
    {result : Except ε β} (h : program.SettledFrom handler later origin middle)
    (hnext : (next middle).Settled handler later result) (horigin : later origin) :
    (program.andThen next).SettledFrom handler later origin result := by
  cases program with
  | done ended =>
      obtain rfl : ended = middle := h
      exact hnext.settledFrom horigin
  | call request rest => exact Settled.andThen h hnext

theorem Settled.bind {next : α → Program S ε β} {value : α} {result : Except ε β}
    (h : program.Settled handler later (.ok value))
    (hnext : (next value).Settled handler later result) :
    (program >>= next).Settled handler later result := h.andThen hnext

-- One call, and what is made of its reply.
theorem Settled.once {request : S.Call} {make : Except ε (S.Reply request) → Except ε α}
    {next : α → Program S ε β} {result : Except ε β}
    (h : ∀ state, later state →
      (onOk next (make (handler request state).1)).Settled handler later result) :
    ((perform request).andThen (fun reply => .done (make reply)) >>= next).Settled handler later
      result := h

-- Without calls there is nothing to settle.
theorem Settled.quiet (h : program.Within fun _ => False) :
    ∃ result, program.Settled handler later result := by
  cases program with
  | done ended => exact ⟨ended, rfl⟩
  | call request next => exact h.1.elim

theorem SettledFrom.bind {next : α → Program S ε β} {value : α} {result : Except ε β}
    (h : program.SettledFrom handler later origin (.ok value))
    (hnext : (next value).Settled handler later result) (horigin : later origin) :
    (program >>= next).SettledFrom handler later origin result := h.andThen hnext horigin

theorem SettledFrom.bind_error {next : α → Program S ε β} {error : ε}
    (h : program.SettledFrom handler later origin (.error error)) (horigin : later origin) :
    (program >>= next).SettledFrom handler later origin (.error error) :=
  h.andThen (show Settled handler later (.done (.error error)) (.error error) from rfl) horigin

theorem SettledFrom.bind_quiet {next : α → Program S ε β} {result : Except ε α}
    (h : program.SettledFrom handler later origin result)
    (hnext : ∀ value, (next value).Within fun _ => False) (horigin : later origin) :
    ∃ ended, (program >>= next).SettledFrom handler later origin ended := by
  cases result with
  | error error => exact ⟨.error error, h.bind_error horigin⟩
  | ok value =>
      obtain ⟨ended, hended⟩ := Settled.quiet (hnext value)
      exact ⟨ended, h.bind hended horigin⟩

theorem Settled.map {f : α → β} {result : Except ε α}
    (h : program.Settled handler later result) :
    (f <$> program).Settled handler later (result.map f) := by
  cases result <;> exact h.andThen rfl

theorem SettledFrom.map {f : α → β} {result : Except ε α}
    (h : program.SettledFrom handler later origin result) (horigin : later origin) :
    (f <$> program).SettledFrom handler later origin (result.map f) := by
  rw [map_eq]
  refine h.andThen ?_ horigin
  cases result <;> rfl

-- A program that only reads comes to that result where it runs alone.
theorem SettledFrom.run {kind : S.Call → Prop} {result : Except ε α}
    (h : program.SettledFrom handler later origin result) (hwithin : program.Within kind)
    (hreads : handler.Reads kind) (horigin : later origin) :
    (program.run handler origin).1 = result := by
  have hsettled {program : Program S ε α} (hwithin : program.Within kind)
      (h : program.Settled handler later result) : (program.run handler origin).1 = result := by
    induction program with
    | done ended => exact h
    | call request next ih =>
        rw [run_call, hreads request hwithin.1]
        exact ih _ (hwithin.2 _) (h origin horigin)
  cases program with
  | done ended => exact h
  | call request next =>
      rw [run_call, hreads request hwithin.1]
      exact hsettled (hwithin.2 _) h

-- Some first calls of a program, each in a state of its own, and what is left of it.
inductive Amid (handler : Handler S ε σ) :
    Program S ε α → List (σ × Option (Fault ε)) → Program S ε α → Prop where
  | here (program : Program S ε α) : Amid handler program [] program
  | call {request : S.Call} {next : Except ε (S.Reply request) → Program S ε α} {state : σ}
      {fault : Option (Fault ε)} {seen : List (σ × Option (Fault ε))} {rest : Program S ε α}
      (h : Amid handler (next (strike handler fault request state).1) seen rest) :
      Amid handler (.call request next) ((state, fault) :: seen) rest

-- An undisturbed run of reads sees one state only.
theorem Within.amid {kind : S.Call → Prop} (h : program.Within kind)
    (hreads : handler.Reads kind) (state : σ) :
    ∃ seen, program.Amid handler seen (.done (program.run handler state).1) ∧
      ∀ turn ∈ seen, turn = (state, none) := by
  induction program with
  | done result => exact ⟨[], .here _, fun _ hmem => absurd hmem List.not_mem_nil⟩
  | call request next ih =>
      obtain ⟨seen, hamid, hseen⟩ := ih (handler request state).1 (h.2 _)
      rw [run_call, hreads request h.1 state]
      exact ⟨(state, none) :: seen, .call hamid, List.forall_mem_cons.mpr ⟨rfl, hseen⟩⟩

-- What has been seen of a program that has ended is a path of it.
theorem Amid.path {seen : List (σ × Option (Fault ε))} {result : Except ε α}
    (h : program.Amid handler seen (.done result)) :
    ∃ events, program.Path events result := by
  generalize hended : Program.done result = ended at h
  induction h with
  | here program =>
      subst hended
      exact ⟨[], .done result⟩
  | call _ ih =>
      obtain ⟨events, path⟩ := ih hended
      exact ⟨_, .call path⟩

theorem amid_done {seen : List (σ × Option (Fault ε))} {result : Except ε α}
    {rest : Program S ε α} (h : (done result).Amid handler seen rest) :
    seen = [] ∧ rest = done result := by
  cases h
  exact ⟨rfl, rfl⟩

theorem amid_andThen {next : Except ε α → Program S ε β} {seen : List (σ × Option (Fault ε))}
    {result : Except ε β} (h : (program.andThen next).Amid handler seen (.done result)) :
    ∃ first rest middle, seen = first ++ rest ∧ program.Amid handler first (.done middle) ∧
      (next middle).Amid handler rest (.done result) := by
  induction program generalizing seen with
  | done ended => exact ⟨[], seen, ended, rfl, .here _, h⟩
  | call request following ih =>
      cases h with
      | @call _ _ state fault later _ hlater =>
          obtain ⟨first, rest, middle, rfl, hfirst, hrest⟩ := ih _ hlater
          exact ⟨(state, fault) :: first, rest, middle, rfl, .call hfirst, hrest⟩

theorem amid_bind {next : α → Program S ε β} {seen : List (σ × Option (Fault ε))} {value : β}
    (h : (program >>= next).Amid handler seen (.done (.ok value))) :
    ∃ first rest middle, seen = first ++ rest ∧ program.Amid handler first (.done (.ok middle)) ∧
      (next middle).Amid handler rest (.done (.ok value)) := by
  obtain ⟨first, rest, middle, rfl, hfirst, hrest⟩ := amid_andThen h
  cases middle with
  | ok middle => exact ⟨first, rest, middle, rfl, hfirst, hrest⟩
  | error error => cases amid_done hrest |>.2

theorem amid_lift_bind {result : Except ε α} {next : α → Program S ε β}
    {seen : List (σ × Option (Fault ε))} {value : β}
    (h : (lift result >>= next).Amid handler seen (.done (.ok value))) :
    ∃ middle, result = .ok middle ∧ (next middle).Amid handler seen (.done (.ok value)) := by
  cases result with
  | ok middle => exact ⟨middle, rfl, h⟩
  | error error => cases amid_done h |>.2

theorem run_map (f : α → β) (program : Program S ε α) (state : σ) :
    (f <$> program).run handler state =
      ((program.run handler state).1.map f, (program.run handler state).2) := by
  rw [map_eq, run_andThen]
  cases hrun : program.run handler state with
  | mk result after => cases result <;> rfl

theorem amid_map {f : α → β} {seen : List (σ × Option (Fault ε))} {value : β}
    (h : (f <$> program).Amid handler seen (.done (.ok value))) :
    ∃ made, value = f made ∧ program.Amid handler seen (.done (.ok made)) := by
  rw [map_eq] at h
  obtain ⟨first, rest, middle, rfl, hfirst, hrest⟩ := amid_andThen h
  cases middle with
  | error error => cases amid_done hrest |>.2
  | ok made =>
      obtain ⟨rfl, hended⟩ := amid_done hrest
      cases hended
      exact ⟨made, rfl, by rwa [List.append_nil]⟩

-- A value that is made of one reply was made of what the handler answered.
theorem amid_once {request : S.Call} {make : Except ε (S.Reply request) → Except ε α}
    {seen : List (σ × Option (Fault ε))} {value : α}
    (hstruck : ∀ error, ∃ raised, make (.error error) = .error raised)
    (h : ((perform request).andThen fun reply => .done (make reply)).Amid handler seen
      (.done (.ok value))) :
    ∃ state, seen = [(state, none)] ∧ make (handler request state).1 = .ok value := by
  cases h with
  | @call _ _ state fault later _ hlater =>
      obtain ⟨rfl, hmade⟩ := amid_done hlater
      cases fault with
      | none => exact ⟨state, rfl, (Program.done.inj hmade).symm⟩
      | some struck =>
          obtain ⟨raised, hraised⟩ := hstruck struck.error
          exact absurd (hraised.symm.trans (Program.done.inj hmade).symm) (by simp)

theorem Settled.amid {seen : List (σ × Option (Fault ε))} {result ended : Except ε α}
    (h : program.Settled handler later result) (hamid : program.Amid handler seen (.done ended))
    (hseen : ∀ turn ∈ seen, turn.2 = none ∧ later turn.1) : ended = result := by
  induction program generalizing seen with
  | done other =>
      cases hamid
      exact h
  | call request next ih =>
      cases hamid with
      | @call _ _ state fault seen rest hrest =>
          obtain ⟨hfault, hlater⟩ := hseen _ List.mem_cons_self
          obtain rfl : fault = none := hfault
          exact ih _ (h state hlater) hrest
            fun turn hmem => hseen turn (List.mem_cons_of_mem _ hmem)

-- Nor does it come to another among others, as long as none of its calls is struck.
theorem SettledFrom.amid {seen : List (σ × Option (Fault ε))} {result ended : Except ε α}
    (h : program.SettledFrom handler later origin result)
    (hamid : program.Amid handler seen (.done ended))
    (hseen : ∀ turn ∈ seen, turn.2 = none ∧ later turn.1)
    (hfirst : ∀ turn ∈ seen.head?, turn.1 = origin) : ended = result := by
  cases program with
  | done other =>
      cases hamid
      exact h
  | call request next =>
      cases hamid with
      | @call _ _ state fault seen rest hrest =>
          obtain rfl : state = origin := hfirst _ rfl
          obtain rfl : fault = none := (hseen _ List.mem_cons_self).1
          exact Settled.amid h hrest fun turn hmem => hseen turn (List.mem_cons_of_mem _ hmem)

end Program

-- The state before each turn of a client, and what strikes the turn.
def System.turnsOf (handler : Handler S ε σ) (client : Nat) :
    System S ε α σ → Schedule ε → List (σ × Option (Fault ε))
  | _, [] => []
  | system, turn :: rest =>
      (if turn.1 = client then [(system.state, turn.2)] else []) ++
        turnsOf handler client (system.step handler turn) rest

namespace System

variable {system : System S ε α σ} {client : Nat} {schedule : Schedule ε}

theorem turnsOf_unstruck (hunstruck : ∀ turn ∈ schedule, turn.1 = client → turn.2 = none) :
    ∀ turn ∈ system.turnsOf handler client schedule, turn.2 = none := by
  induction schedule generalizing system with
  | nil => exact fun _ hmem => absurd hmem List.not_mem_nil
  | cons turn rest ih =>
      intro found hmem
      rw [turnsOf, List.mem_append] at hmem
      obtain hmem | hmem := hmem
      · split at hmem
        · rename_i hclient
          obtain rfl := List.mem_singleton.mp hmem
          exact hunstruck turn List.mem_cons_self hclient
        · cases hmem
      · exact ih (fun later hlater => hunstruck later (List.mem_cons_of_mem _ hlater)) found hmem

-- The first of them comes where the schedule first names the client.
theorem turnsOf_head : ∀ turn ∈ (system.turnsOf handler client schedule).head?, turn.1 =
    (system.runSchedule handler (schedule.takeWhile fun turn => turn.1 ≠ client)).state := by
  induction schedule generalizing system with
  | nil => exact fun _ hmem => nomatch hmem
  | cons turn rest ih =>
      intro found hmem
      rw [turnsOf] at hmem
      by_cases hclient : turn.1 = client
      · rw [if_pos hclient] at hmem
        obtain rfl := Option.some.inj hmem
        rw [List.takeWhile_cons_of_neg (by simp [hclient])]
        rfl
      · rw [if_neg hclient] at hmem
        rw [List.takeWhile_cons_of_pos (by simp [hclient])]
        exact ih found hmem

theorem step_other {turn : Nat × Option (Fault ε)} (h : turn.1 ≠ client) :
    (system.step handler turn).clients[client]? = system.clients[client]? := by
  unfold step
  split
  · exact List.getElem?_set_ne h
  · rfl

theorem client_done {result : Except ε α} (h : system.clients[client]? = some (.done result)) :
    (system.runSchedule handler schedule).clients[client]? = some (.done result) := by
  induction schedule generalizing system with
  | nil => exact h
  | cons turn rest ih =>
      apply ih
      by_cases hturn : turn.1 = client
      · subst hturn
        rw [step_idle fun request next hcall => nomatch h.symm.trans hcall]
        exact h
      · rw [step_other hturn]
        exact h

-- A client makes its calls at its turns.
theorem client_amid (handler : Handler S ε σ) (schedule : Schedule ε) {program : Program S ε α}
    (hclient : system.clients[client]? = some program) :
    ∃ seen rest, (system.runSchedule handler schedule).clients[client]? = some rest ∧
      program.Amid handler seen rest ∧ seen <+: system.turnsOf handler client schedule := by
  induction schedule generalizing system program with
  | nil => exact ⟨[], program, hclient, .here program, List.nil_prefix⟩
  | cons turn rest ih =>
      by_cases hturn : turn.1 = client
      · rw [turnsOf, if_pos hturn]
        subst hturn
        cases program with
        | done result => exact ⟨[], .done result, client_done hclient, .here _, List.nil_prefix⟩
        | call request next =>
            have hstep : (system.step handler turn).clients[turn.1]? =
                some (next (strike handler turn.2 request system.state).1) := by
              rw [step_call hclient]
              exact List.getElem?_set_self (List.getElem?_eq_some_iff.mp hclient).1
            obtain ⟨seen, left, hleft, hamid, hbegins⟩ := ih hstep
            exact ⟨(system.state, turn.2) :: seen, left, hleft, .call hamid,
              List.prefix_append_right_inj [_] |>.mpr hbegins⟩
      · rw [turnsOf, if_neg hturn]
        exact ih ((step_other hturn).trans hclient)

-- What the guarantees keep holds of the states before the turns, from one to the next.
theorem Coherent.turnsOf_related {γ : Type} {rules : Protocol S ε σ γ} {apart : γ → γ → Prop}
    {owns : γ → σ → Prop} {post : Nat → Except ε α → γ → σ → Prop} {ghosts : Nat → γ}
    (hrules : rules.Composes apart owns) (related : σ → σ → Prop)
    (hrefl : ∀ before, related before before)
    (htrans : ∀ first second third, related first second → related second third →
      related first third)
    (hrelated : ∀ ghost owned before after, rules.guarantee ghost owned before after →
      related before after)
    (h : system.Coherent handler rules apart owns post ghosts)
    (hfaults : ∀ turn ∈ schedule, ∀ call, Allowed rules.faults call turn.2) :
    (∀ turn ∈ system.turnsOf handler client schedule,
      related system.state turn.1 ∧ rules.invariant turn.1 ∧
        related turn.1 (system.runSchedule handler schedule).state) ∧
    (system.turnsOf handler client schedule).Pairwise fun first second =>
      related first.1 second.1 := by
  induction schedule generalizing system ghosts with
  | nil => exact ⟨fun _ hmem => absurd hmem List.not_mem_nil, .nil⟩
  | cons turn rest ih =>
      have hfault := hfaults turn List.mem_cons_self
      obtain ⟨owned, hstep⟩ := h.step hrules turn hfault
      obtain ⟨hrest, hpairs⟩ :=
        ih hstep fun later hmem => hfaults later (List.mem_cons_of_mem _ hmem)
      have hnext : related system.state (system.step handler turn).state := by
        rcases h.step_guarantee turn hfault with hsame | ⟨ghost, owned, hguar⟩
        · rw [hsame]
          exact hrefl _
        · exact hrelated _ _ _ _ hguar
      have hlater : ∀ found ∈ (system.step handler turn).turnsOf handler client rest,
          related system.state found.1 ∧ rules.invariant found.1 ∧
            related found.1 (system.runSchedule handler (turn :: rest)).state := by
        intro found hmem
        obtain ⟨hbefore, hinvariant, hafter⟩ := hrest found hmem
        exact ⟨htrans _ _ _ hnext hbefore, hinvariant, hafter⟩
      rw [turnsOf]
      split
      · refine ⟨?_, List.pairwise_cons.mpr ⟨fun found hmem => (hlater found hmem).1, hpairs⟩⟩
        intro found hmem
        obtain rfl | hmem := List.mem_cons.mp hmem
        · exact ⟨hrefl _, h.invariant, h.runSchedule_related hrules related hrefl htrans hrelated
            (turn :: rest) hfaults⟩
        · exact hlater found hmem
      · exact ⟨hlater, hpairs⟩

end System

end Settled

end Effect
