import MeridianS3.Effect.Reading

namespace Effect

namespace Program

variable {S : Signature} {ε α β σ : Type} {raised : ε → Prop}

-- The program ends with an error, whatever its calls are answered.
def Fails : Program S ε α → Prop
  | .done result => ∃ error, result = .error error
  | .call _ next => ∀ outcome, Fails (next outcome)

-- Once a call has failed with one of the given errors, the program can only fail.
def Heeds (raised : ε → Prop) : Program S ε α → Prop
  | .done _ => True
  | .call _ next =>
      (∀ error, raised error → Fails (next (.error error))) ∧
        ∀ outcome, Heeds raised (next outcome)

theorem Fails.throw (error : ε) : (throw error : Program S ε α).Fails := ⟨error, rfl⟩

theorem Fails.andThen {program : Program S ε α} {next : Except ε α → Program S ε β}
    (h : program.Fails) (hnext : ∀ error, (next (.error error)).Fails) :
    (program.andThen next).Fails := by
  induction program with
  | done result =>
      obtain ⟨error, rfl⟩ := h
      exact hnext error
  | call request rest ih => exact fun outcome => ih outcome (h outcome)

theorem Fails.ofNext (program : Program S ε α) {next : Except ε α → Program S ε β}
    (hnext : ∀ result, (next result).Fails) : (program.andThen next).Fails := by
  induction program with
  | done result => exact hnext result
  | call request rest ih => exact fun outcome => ih outcome

-- A program fails where what follows its first half fails.
theorem Fails.bind (program : Program S ε α) {next : α → Program S ε β}
    (hnext : ∀ value, (next value).Fails) : (program >>= next).Fails := by
  apply Fails.ofNext
  intro result
  cases result with
  | ok value => exact hnext value
  | error error => exact ⟨error, rfl⟩

theorem Fails.heeds {program : Program S ε α} (h : program.Fails) : program.Heeds raised := by
  induction program with
  | done result => trivial
  | call request next ih => exact ⟨fun error _ => h _, fun outcome => ih outcome (h outcome)⟩

theorem Fails.runFaulty {program : Program S ε α} (h : program.Fails) {handler : Handler S ε σ}
    {plan : Plan ε} {state : σ} :
    ∃ error, (program.runFaulty handler plan state).1 = .error error := by
  induction program generalizing plan state with
  | done result => exact h
  | call request next ih =>
      rw [runFaulty_call]
      exact ih _ (h _)

theorem Surfaces.heeds {program : Program S ε α} (h : program.Surfaces raised) :
    program.Heeds raised := by
  induction program with
  | done result => trivial
  | call request next ih =>
      refine ⟨fun error hraised => ?_, fun outcome => ih outcome (h.2 outcome)⟩
      obtain ⟨final, -, hnext⟩ := h.1 error hraised
      rw [hnext]
      exact ⟨final, rfl⟩

theorem Heeds.perform {request : S.Call} : (perform request : Program S ε _).Heeds raised :=
  ⟨fun error _ => ⟨error, rfl⟩, fun _ => trivial⟩

theorem Heeds.ofLift (result : Except ε α) : (lift result : Program S ε α).Heeds raised := trivial

theorem Heeds.andThen {program : Program S ε α} {next : Except ε α → Program S ε β}
    (h : program.Heeds raised) (hnext : ∀ result, (next result).Heeds raised)
    (herror : ∀ error, (next (.error error)).Fails) : (program.andThen next).Heeds raised := by
  induction program with
  | done result => exact hnext result
  | call request rest ih =>
      exact ⟨fun error hraised => (h.1 error hraised).andThen herror,
        fun outcome => ih outcome (h.2 outcome)⟩

theorem Heeds.bind {program : Program S ε α} {next : α → Program S ε β}
    (h : program.Heeds raised) (hnext : ∀ value, (next value).Heeds raised) :
    (program >>= next).Heeds raised := by
  apply h.andThen
  · intro result
    cases result with
    | ok value => exact hnext value
    | error error => trivial
  · exact fun error => ⟨error, rfl⟩

-- A handler that raises again what it has caught, whatever it does before.
theorem Heeds.recover {program : Program S ε α} {handle : ε → Program S ε α}
    (h : program.Heeds raised) (hnext : ∀ error, (handle error).Fails) :
    (tryCatch program handle).Heeds raised := by
  apply h.andThen
  · intro result
    cases result with
    | ok value => trivial
    | error error => exact (hnext error).heeds
  · exact hnext

theorem Heeds.runFaulty_struck {program : Program S ε α} (h : program.Heeds raised)
    {handler : Handler S ε σ} {plan : Plan ε} {state : σ}
    (hraised : ∀ request fault, (request, fault) ∈ program.struck handler plan state →
      raised fault.error) (hstruck : program.struck handler plan state ≠ []) :
    ∃ error, (program.runFaulty handler plan state).1 = .error error := by
  induction program generalizing plan state with
  | done result => exact absurd rfl hstruck
  | call request next ih =>
      rw [runFaulty_call]
      simp only [struck] at hraised hstruck
      cases hfault : plan.head?.join with
      | none =>
          rw [hfault] at hraised hstruck
          exact ih _ (h.2 _) (fun request fault hmem => hraised request fault (by simpa using hmem))
            (by simpa using hstruck)
      | some fault =>
          rw [hfault] at hraised
          exact (h.1 fault.error (hraised request fault (by simp))).runFaulty

end Program

end Effect
