import MeridianS3.Effect.Path
import MeridianS3.Effect.Reading

namespace Effect

section Blame

variable {S : Signature} {ε α β : Type} {foreign : ε → Prop} {bad : Event S ε → Prop}
variable {possible : Event S ε → Prop}

def Foreign (foreign : ε → Prop) (result : Except ε α) : Prop :=
  ∃ error, result = .error error ∧ foreign error

theorem not_foreign_ok {value : α} : ¬Foreign foreign (.ok value : Except ε α) := by
  rintro ⟨error, herror, -⟩
  cases herror

theorem foreign_error {error : ε} : Foreign foreign (.error error : Except ε α) ↔ foreign error := by
  constructor
  · rintro ⟨raised, hraised, hforeign⟩
    obtain rfl := Except.error.inj hraised
    exact hforeign
  · exact fun h => ⟨error, rfl, h⟩

theorem foreign_bind {first : Except ε α} {next : α → Except ε β} :
    Foreign foreign (first.bind next) ↔
      Foreign foreign first ∨ ∃ value, first = .ok value ∧ Foreign foreign (next value) := by
  cases first with
  | ok value =>
    rw [or_iff_right not_foreign_ok]
    constructor
    · exact fun h => ⟨value, rfl, h⟩
    · rintro ⟨other, hvalue, h⟩
      obtain rfl := Except.ok.inj hvalue
      exact h
  | error error =>
    rw [or_iff_left (by rintro ⟨value, hvalue, -⟩; cases hvalue)]
    exact foreign_error.trans foreign_error.symm

theorem not_foreign_bind {first : Except ε α} {next : α → Except ε β}
    (h : ¬Foreign foreign first)
    (hnext : ∀ value, first = .ok value → ¬Foreign foreign (next value)) :
    ¬Foreign foreign (first >>= next) := by
  cases first with
  | ok value => exact hnext value rfl
  | error error => exact mt (fun h => foreign_error.mpr (foreign_error.mp h)) h

namespace Program

-- Whatever possible outcomes its calls have, the program raises a foreign error exactly
-- when one of them was bad.
def Blames (foreign : ε → Prop) (bad possible : Event S ε → Prop) (program : Program S ε α) :
    Prop :=
  ∀ events result, program.Path events result → (∀ event ∈ events, possible event) →
    (Foreign foreign result ↔ ∃ event ∈ events, bad event)

theorem Blames.ofLift {result : Except ε α} (h : ¬Foreign foreign result) :
    (lift result : Program S ε α).Blames foreign bad possible := by
  intro events ended path _
  obtain ⟨rfl, rfl⟩ := path_lift.mp path
  exact iff_of_false h (by simp)

theorem Blames.ofPure (value : α) :
    (pure value : Program S ε α).Blames foreign bad possible := .ofLift not_foreign_ok

theorem Blames.ofThrow {error : ε} (h : ¬foreign error) :
    (throw error : Program S ε α).Blames foreign bad possible :=
  .ofLift (mt foreign_error.mp h)

-- What goes on may rely on what the first part has come to.
theorem Blames.bind_path {program : Program S ε α} {next : α → Program S ε β}
    (h : program.Blames foreign bad possible)
    (hnext : ∀ events value, program.Path events (.ok value) →
      (∀ event ∈ events, possible event) → (next value).Blames foreign bad possible) :
    (program >>= next).Blames foreign bad possible := by
  intro events result path hpossible
  obtain ⟨error, hfirst, rfl⟩ | ⟨first, rest, value, rfl, hfirst, hrest⟩ := path_bind.mp path
  · exact foreign_error.trans (foreign_error.symm.trans (h _ _ hfirst hpossible))
  · obtain ⟨hbefore, hafter⟩ := List.forall_mem_append.mp hpossible
    have hgood := (h _ _ hfirst hbefore).not.mp not_foreign_ok
    rw [hnext first value hfirst hbefore _ _ hrest hafter]
    simp [or_and_right, exists_or, hgood]

theorem Blames.bind {program : Program S ε α} {next : α → Program S ε β}
    (h : program.Blames foreign bad possible)
    (hnext : ∀ value, (next value).Blames foreign bad possible) :
    (program >>= next).Blames foreign bad possible :=
  h.bind_path fun _ value _ _ => hnext value

theorem Blames.lift_bind {result : Except ε α} {next : α → Program S ε β}
    (h : ¬Foreign foreign result)
    (hnext : ∀ value, result = .ok value → (next value).Blames foreign bad possible) :
    (lift result >>= next).Blames foreign bad possible := by
  cases result with
  | ok value => exact hnext value rfl
  | error error => exact .ofThrow (mt foreign_error.mpr h)

-- A handler is given no foreign error that it does not raise again.
theorem Blames.recover {program : Program S ε α} {handle : ε → Program S ε α}
    (h : program.Blames foreign bad possible)
    (hforeign : ∀ error, foreign error → handle error = throw error)
    (hnext : ∀ error, ¬foreign error → (handle error).Blames foreign bad possible) :
    (tryCatch program handle).Blames foreign bad possible := by
  intro events result path hpossible
  obtain ⟨value, hfirst, rfl⟩ | ⟨first, rest, error, rfl, hfirst, hrest⟩ := path_tryCatch.mp path
  · exact h _ _ hfirst hpossible
  · obtain ⟨hbefore, hafter⟩ := List.forall_mem_append.mp hpossible
    have hblames := h _ _ hfirst hbefore
    by_cases herror : foreign error
    · rw [hforeign error herror] at hrest
      obtain ⟨rfl, rfl⟩ := path_throw.mp hrest
      rw [List.append_nil]
      exact hblames
    · have hgood := hblames.not.mp (mt foreign_error.mp herror)
      rw [hnext error herror _ _ hrest hafter]
      simp [or_and_right, exists_or, hgood]

theorem Blames.perform {request : S.Call}
    (herror : ∀ error, possible ⟨request, .error error⟩ → ¬foreign error)
    (hgood : ∀ outcome, ¬bad ⟨request, outcome⟩) :
    (perform request : Program S ε _).Blames foreign bad possible := by
  intro events result path hpossible
  rw [path_perform.mp path] at hpossible ⊢
  apply iff_of_false
  · rintro ⟨error, rfl, hforeign⟩
    exact herror error (hpossible _ (List.mem_singleton_self _)) hforeign
  · simp [hgood]

theorem Blames.map {program : Program S ε α} {f : α → β}
    (h : program.Blames foreign bad possible) :
    (f <$> program).Blames foreign bad possible := by
  rw [← bind_pure_comp]
  exact h.bind fun value => .ofPure (f value)

theorem foreign_of_map {program : Program S ε α} {f : α → β} {events : List (Event S ε)}
    {result : Except ε β} (path : (f <$> program).Path events result) :
    ∃ inner, program.Path events inner ∧ (Foreign foreign result ↔ Foreign foreign inner) := by
  rw [← bind_pure_comp] at path
  obtain ⟨error, hinner, rfl⟩ | ⟨first, rest, value, rfl, hinner, hrest⟩ := path_bind.mp path
  · exact ⟨.error error, hinner, foreign_error.trans foreign_error.symm⟩
  · obtain ⟨rfl, rfl⟩ := path_pure.mp hrest
    rw [List.append_nil]
    exact ⟨.ok value, hinner, iff_of_false not_foreign_ok not_foreign_ok⟩

end Program

-- What every answer of a handler is, and every fault, the events of a run are.
theorem Program.history_possible {σ : Type} {handler : Handler S ε σ}
    (hanswers : ∀ request state, possible ⟨request, (handler request state).1⟩)
    (program : Program S ε α) {plan : Plan ε}
    (hplan : ∀ fault, some fault ∈ plan → ∀ request, possible ⟨request, .error fault.error⟩)
    (state : σ) : ∀ event ∈ program.history handler plan state, possible event := by
  induction program generalizing plan state with
  | done result => exact fun _ hmem => absurd hmem List.not_mem_nil
  | call request next ih =>
      intro event hmem
      obtain rfl | hmem := List.mem_cons.mp hmem
      · cases plan with
        | nil => exact hanswers request state
        | cons head rest =>
            cases head with
            | none => exact hanswers request state
            | some fault => exact hplan fault List.mem_cons_self request
      · refine ih _ (fun fault hfault => hplan fault ?_) _ event hmem
        exact List.mem_of_mem_tail hfault

-- A program that only reads is answered in the state that it has started in.
theorem Program.Within.history_answers {σ : Type} {kind : S.Call → Prop}
    {handler : Handler S ε σ} {program : Program S ε α} (h : program.Within kind)
    (hreads : handler.Reads kind) (plan : Plan ε) (state : σ) :
    ∀ event ∈ program.history handler plan state,
      event.2 = (handler event.1 state).1 ∨ ∃ error, event.2 = .error error := by
  induction program generalizing plan with
  | done result => exact fun _ hmem => absurd hmem List.not_mem_nil
  | call request next ih =>
      have hstate : (strike handler plan.head?.join request state).2 = state := by
        cases plan.head?.join with
        | none => exact hreads request h.1 state
        | some fault => simp [strike, hreads request h.1 state]
      rw [Program.history, List.forall_mem_cons, hstate]
      refine ⟨?_, ih _ (h.2 _) _⟩
      cases plan.head?.join with
      | none => exact Or.inl rfl
      | some fault => exact Or.inr ⟨fault.error, rfl⟩

end Blame

end Effect
