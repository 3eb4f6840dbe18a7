import MeridianS3.Effect.Protocol

namespace Effect

section Reading

variable {S : Signature} {ε α β σ γ : Type}

namespace Program

-- Every call that the program can come to make is of the given kind.
def Within (kind : S.Call → Prop) : Program S ε α → Prop
  | .done _ => True
  | .call request next => kind request ∧ ∀ outcome, Within kind (next outcome)

-- A call that fails with one of the given errors ends the program with one of them.
def Surfaces (raised : ε → Prop) : Program S ε α → Prop
  | .done _ => True
  | .call _ next =>
      (∀ error, raised error → ∃ final, raised final ∧ next (.error error) = .done (.error final)) ∧
        ∀ outcome, Surfaces raised (next outcome)

variable {kind : S.Call → Prop} {raised : ε → Prop}

theorem Within.mono {program : Program S ε α} {weaker : S.Call → Prop}
    (h : program.Within kind) (himp : ∀ request, kind request → weaker request) :
    program.Within weaker := by
  induction program with
  | done result => trivial
  | call request next ih => exact ⟨himp _ h.1, fun outcome => ih outcome (h.2 outcome)⟩

theorem Within.andThen {program : Program S ε α} {next : Except ε α → Program S ε β}
    (h : program.Within kind) (hnext : ∀ result, (next result).Within kind) :
    (program.andThen next).Within kind := by
  induction program with
  | done result => exact hnext result
  | call request rest ih => exact ⟨h.1, fun outcome => ih outcome (h.2 outcome)⟩

theorem Within.bind {program : Program S ε α} {next : α → Program S ε β}
    (h : program.Within kind) (hnext : ∀ value, (next value).Within kind) :
    (program >>= next).Within kind := by
  apply h.andThen
  intro result
  cases result with
  | ok value => exact hnext value
  | error error => trivial

theorem Within.recover {program : Program S ε α} {handle : ε → Program S ε α}
    (h : program.Within kind) (hnext : ∀ error, (handle error).Within kind) :
    (tryCatch program handle).Within kind := by
  apply h.andThen
  intro result
  cases result with
  | ok value => trivial
  | error error => exact hnext error

theorem Within.map {program : Program S ε α} (h : program.Within kind) (f : α → β) :
    (f <$> program).Within kind := by
  apply h.andThen
  intro result
  cases result <;> trivial

theorem Within.perform {request : S.Call} (h : kind request) :
    (perform request : Program S ε _).Within kind := ⟨h, fun _ => trivial⟩

theorem Within.ofLift (result : Except ε α) : (lift result : Program S ε α).Within kind := trivial

theorem Within.lift_bind {result : Except ε α} {next : α → Program S ε β}
    (h : ∀ value, result = .ok value → (next value).Within kind) :
    (lift result >>= next).Within kind := by
  cases result with
  | ok value => exact h value rfl
  | error error => trivial

theorem Surfaces.ofLift (result : Except ε α) : (lift result : Program S ε α).Surfaces raised :=
  trivial

theorem Surfaces.andThen {program : Program S ε α} {next : Except ε α → Program S ε β}
    (h : program.Surfaces raised) (hnext : ∀ result, (next result).Surfaces raised)
    (herror : ∀ error, raised error →
      ∃ final, raised final ∧ next (.error error) = .done (.error final)) :
    (program.andThen next).Surfaces raised := by
  induction program with
  | done result => exact hnext result
  | call request rest ih =>
      refine ⟨fun error hraised => ?_, fun outcome => ih outcome (h.2 outcome)⟩
      obtain ⟨middle, hmiddle, hrest⟩ := h.1 error hraised
      simp only [hrest]
      exact herror middle hmiddle

theorem Surfaces.bind {program : Program S ε α} {next : α → Program S ε β}
    (h : program.Surfaces raised) (hnext : ∀ value, (next value).Surfaces raised) :
    (program >>= next).Surfaces raised := by
  apply h.andThen
  · intro result
    cases result with
    | ok value => exact hnext value
    | error error => trivial
  · intro error hraised
    exact ⟨error, hraised, rfl⟩

theorem Surfaces.recover {program : Program S ε α} {handle : ε → Program S ε α}
    (h : program.Surfaces raised) (hnext : ∀ error, (handle error).Surfaces raised)
    (herror : ∀ error, raised error →
      ∃ final, raised final ∧ handle error = .done (.error final)) :
    (tryCatch program handle).Surfaces raised := by
  apply h.andThen
  · intro result
    cases result with
    | ok value => trivial
    | error error => exact hnext error
  · exact herror

theorem Surfaces.map {program : Program S ε α} (h : program.Surfaces raised) (f : α → β) :
    (f <$> program).Surfaces raised := by
  apply h.andThen
  · intro result
    cases result <;> trivial
  · intro error hraised
    exact ⟨error, hraised, rfl⟩

theorem Surfaces.perform {request : S.Call} :
    (perform request : Program S ε _).Surfaces raised :=
  ⟨fun error hraised => ⟨error, hraised, rfl⟩, fun _ => trivial⟩

end Program

-- The calls of a kind leave the state as it is.
def Handler.Reads (handler : Handler S ε σ) (kind : S.Call → Prop) : Prop :=
  ∀ request, kind request → ∀ state, (handler request state).2 = state

variable {handler : Handler S ε σ} {kind : S.Call → Prop} {raised : ε → Prop}

theorem Program.Within.run_state {program : Program S ε α} (h : program.Within kind)
    (hreads : handler.Reads kind) (state : σ) : (program.run handler state).2 = state := by
  induction program with
  | done result => rfl
  | call request next ih =>
      rw [run_call, hreads request h.1]
      exact ih _ (h.2 _)

-- A run that only reads sees no difference between states that answer alike.
theorem Program.Within.run_congr {program : Program S ε α} (h : program.Within kind)
    (hreads : handler.Reads kind) {first second : σ}
    (halike : ∀ request, kind request → (handler request first).1 = (handler request second).1) :
    (program.run handler first).1 = (program.run handler second).1 := by
  induction program with
  | done result => rfl
  | call request next ih =>
      rw [run_call, run_call, hreads request h.1, hreads request h.1, halike request h.1]
      exact ih _ (h.2 _)

theorem Program.Within.runFaulty_state {program : Program S ε α} (h : program.Within kind)
    (hreads : handler.Reads kind) (plan : Plan ε) (state : σ) :
    (program.runFaulty handler plan state).2 = state := by
  induction program generalizing plan with
  | done result => rfl
  | call request next ih =>
      have hstate : (strike handler plan.head?.join request state).2 = state := by
        cases plan.head?.join with
        | none => exact hreads request h.1 state
        | some fault => simp [strike, hreads request h.1 state]
      rw [runFaulty_call, hstate]
      exact ih _ (h.2 _) plan.tail

-- A program that lets its failures through does not get past one that strikes it.
theorem Program.Surfaces.runFaulty_struck {program : Program S ε α}
    (h : program.Surfaces raised) {plan : Plan ε} {state : σ}
    (hraised : ∀ request fault, (request, fault) ∈ program.struck handler plan state →
      raised fault.error) (hstruck : program.struck handler plan state ≠ []) :
    ∃ error, raised error ∧ (program.runFaulty handler plan state).1 = .error error := by
  induction program generalizing plan state with
  | done result => exact absurd rfl hstruck
  | call request next ih =>
      rw [runFaulty_call]
      simp only [struck] at hraised hstruck
      cases hfault : plan.head?.join with
      | none =>
          rw [hfault] at hraised hstruck
          exact ih _ (h.2 _) (fun request fault hmem => hraised request fault (by simpa using hmem))
            (by simpa using hstruck)
      | some fault =>
          rw [hfault] at hraised
          obtain ⟨final, hfinal, hnext⟩ := h.1 fault.error (hraised request fault (by simp))
          refine ⟨final, hfinal, ?_⟩
          simp only [strike, hnext]
          rfl

variable {rules : Protocol S ε σ γ}

-- Reading ends with any result, in a state that the others led to.
theorem Verified.observing {program : Program S ε α} (h : program.Within kind)
    (hreads : handler.Reads kind) {ghost : γ} {state : σ} {post : Except ε α → γ → σ → Prop}
    (hguar : ∀ before, rules.guarantee ghost ghost before before)
    (hrefl : ∀ before, rules.rely ghost before before)
    (htrans : ∀ first second third, rules.rely ghost first second →
      rules.rely ghost second third → rules.rely ghost first third)
    (hpost : ∀ result after, rules.rely ghost state after → post result ghost after) :
    Verified handler rules program ghost state post := by
  induction program generalizing state with
  | done result => exact hpost result state (hrefl state)
  | call request next ih =>
      intro before hrely hinv fault hfault
      have hstate : (strike handler fault request before).2 = before := by
        cases fault with
        | none => exact hreads request h.1 before
        | some fault => simp [strike, hreads request h.1 before]
      rw [hstate]
      refine ⟨hinv, ghost, hguar before, ?_⟩
      exact ih _ (h.2 _) fun result after hafter => hpost result after (htrans _ _ _ hrely hafter)

-- Reading while the others change nothing that the calls answer: the result of a
-- run from the state in which the reading began, or the error of a call that failed.
theorem Verified.reading {program : Program S ε α} (h : program.Within kind)
    (hreads : handler.Reads kind) (hsurfaces : program.Surfaces raised) (origin : σ) {ghost : γ}
    {state : σ} {post : Except ε α → γ → σ → Prop}
    (hguar : ∀ before, rules.guarantee ghost ghost before before)
    (htrans : ∀ first second third, rules.rely ghost first second →
      rules.rely ghost second third → rules.rely ghost first third)
    (halike : ∀ before, rules.rely ghost origin before → ∀ request, kind request →
      (handler request before).1 = (handler request origin).1)
    (hfaults : ∀ request fault, kind request → rules.faults request fault → raised fault.error)
    (hstate : rules.rely ghost origin state)
    (hok : ∀ after, rules.rely ghost origin after → post (program.run handler origin).1 ghost after)
    (herror : ∀ request fault error after, kind request → rules.faults request fault →
      raised error → rules.rely ghost origin after → post (.error error) ghost after) :
    Verified handler rules program ghost state post := by
  induction program generalizing state with
  | done result => exact hok state hstate
  | call request next ih =>
      intro before hrely hinv fault hfault
      have hbefore := htrans _ _ _ hstate hrely
      cases fault with
      | none =>
          rw [strike_none, hreads request h.1, halike before hbefore request h.1]
          refine ⟨hinv, ghost, hguar before, ih _ (h.2 _) (hsurfaces.2 _) hbefore ?_⟩
          intro after hafter
          have hpost := hok after hafter
          rwa [Program.run_call, hreads request h.1] at hpost
      | some fault =>
          have hactual := hfault fault rfl
          have hkept : (strike handler (some fault) request before).2 = before := by
            simp [strike, hreads request h.1 before]
          obtain ⟨final, hfinal, hnext⟩ := hsurfaces.1 fault.error (hfaults request fault h.1 hactual)
          rw [hkept]
          refine ⟨hinv, ghost, hguar before, ?_⟩
          change Verified handler rules (next (.error fault.error)) ghost before post
          rw [hnext]
          exact Verified.done (herror request fault final before h.1 hactual hfinal hbefore)

end Reading

end Effect
