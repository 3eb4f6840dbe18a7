import MeridianS3.Effect.Program

namespace Effect

-- A call with what came of it.
abbrev Event (S : Signature) (ε : Type) : Type := (request : S.Call) × Except ε (S.Reply request)

section Path

variable {S : Signature} {ε α β σ : Type}

namespace Program

-- A program can make these calls, one after another, with these outcomes, and end with
-- this result. Nothing is said about who answers.
inductive Path : Program S ε α → List (Event S ε) → Except ε α → Prop where
  | done (result : Except ε α) : Path (.done result) [] result
  | call {request : S.Call} {next : Except ε (S.Reply request) → Program S ε α}
      {outcome : Except ε (S.Reply request)} {events : List (Event S ε)} {result : Except ε α}
      (rest : Path (next outcome) events result) :
      Path (.call request next) (⟨request, outcome⟩ :: events) result

variable {events : List (Event S ε)}

theorem path_done {ended result : Except ε α} :
    (done ended : Program S ε α).Path events result ↔ events = [] ∧ result = ended := by
  constructor
  · intro h
    cases h
    exact ⟨rfl, rfl⟩
  · rintro ⟨rfl, rfl⟩
    exact .done _

theorem path_call {request : S.Call} {next : Except ε (S.Reply request) → Program S ε α}
    {result : Except ε α} : (call request next).Path events result ↔
      ∃ outcome rest, events = ⟨request, outcome⟩ :: rest ∧ (next outcome).Path rest result := by
  constructor
  · intro h
    cases h with
    | call rest => exact ⟨_, _, rfl, rest⟩
  · rintro ⟨outcome, rest, rfl, h⟩
    exact .call h

theorem path_andThen {program : Program S ε α} {next : Except ε α → Program S ε β}
    {result : Except ε β} : (program.andThen next).Path events result ↔
      ∃ first rest middle, events = first ++ rest ∧ program.Path first middle ∧
        (next middle).Path rest result := by
  induction program generalizing events with
  | done ended =>
      constructor
      · intro h
        exact ⟨[], events, ended, rfl, .done ended, h⟩
      · rintro ⟨first, rest, middle, rfl, hfirst, hrest⟩
        obtain ⟨rfl, rfl⟩ := path_done.mp hfirst
        exact hrest
  | call request following ih =>
      constructor
      · intro h
        obtain ⟨outcome, later, rfl, hlater⟩ := path_call.mp h
        obtain ⟨first, rest, middle, rfl, hfirst, hrest⟩ := (ih outcome).mp hlater
        exact ⟨⟨request, outcome⟩ :: first, rest, middle, rfl, .call hfirst, hrest⟩
      · rintro ⟨first, rest, middle, rfl, hfirst, hrest⟩
        obtain ⟨outcome, later, rfl, hlater⟩ := path_call.mp hfirst
        exact .call ((ih outcome).mpr ⟨later, rest, middle, rfl, hlater, hrest⟩)

theorem path_bind {program : Program S ε α} {next : α → Program S ε β} {result : Except ε β} :
    (program >>= next).Path events result ↔
      (∃ error, program.Path events (.error error) ∧ result = .error error) ∨
        ∃ first rest value, events = first ++ rest ∧ program.Path first (.ok value) ∧
          (next value).Path rest result := by
  rw [bind_eq, path_andThen]
  constructor
  · rintro ⟨first, rest, middle, rfl, hfirst, hrest⟩
    cases middle with
    | ok value => exact Or.inr ⟨first, rest, value, rfl, hfirst, hrest⟩
    | error error =>
        obtain ⟨rfl, rfl⟩ := path_done.mp hrest
        rw [List.append_nil]
        exact Or.inl ⟨error, hfirst, rfl⟩
  · rintro (⟨error, hfirst, rfl⟩ | ⟨first, rest, value, rfl, hfirst, hrest⟩)
    · exact ⟨events, [], .error error, (List.append_nil events).symm, hfirst, .done _⟩
    · exact ⟨first, rest, .ok value, rfl, hfirst, hrest⟩

theorem path_tryCatch {program : Program S ε α} {handle : ε → Program S ε α}
    {result : Except ε α} : (tryCatch program handle).Path events result ↔
      (∃ value, program.Path events (.ok value) ∧ result = .ok value) ∨
        ∃ first rest error, events = first ++ rest ∧ program.Path first (.error error) ∧
          (handle error).Path rest result := by
  rw [tryCatch_eq, path_andThen]
  constructor
  · rintro ⟨first, rest, middle, rfl, hfirst, hrest⟩
    cases middle with
    | ok value =>
        obtain ⟨rfl, rfl⟩ := path_done.mp hrest
        rw [List.append_nil]
        exact Or.inl ⟨value, hfirst, rfl⟩
    | error error => exact Or.inr ⟨first, rest, error, rfl, hfirst, hrest⟩
  · rintro (⟨value, hfirst, rfl⟩ | ⟨first, rest, error, rfl, hfirst, hrest⟩)
    · exact ⟨events, [], .ok value, (List.append_nil events).symm, hfirst, .done _⟩
    · exact ⟨first, rest, .error error, rfl, hfirst, hrest⟩

theorem path_pure {value : α} {result : Except ε α} :
    (pure value : Program S ε α).Path events result ↔ events = [] ∧ result = .ok value :=
  path_done

theorem path_throw {error : ε} {result : Except ε α} :
    (throw error : Program S ε α).Path events result ↔ events = [] ∧ result = .error error :=
  path_done

theorem path_lift {ended result : Except ε α} :
    (lift ended : Program S ε α).Path events result ↔ events = [] ∧ result = ended :=
  path_done

theorem path_perform {request : S.Call} {result : Except ε (S.Reply request)} :
    (perform request : Program S ε _).Path events result ↔ events = [⟨request, result⟩] := by
  rw [perform, path_call]
  constructor
  · rintro ⟨outcome, rest, rfl, hrest⟩
    obtain ⟨rfl, rfl⟩ := path_done.mp hrest
    rfl
  · rintro rfl
    exact ⟨result, [], rfl, .done result⟩

-- The outcomes of its calls determine how far a program comes and what it ends with.
theorem path_unique {program : Program S ε α} {first second rest last : List (Event S ε)}
    {result other : Except ε α} (h : program.Path first result)
    (hsecond : program.Path second other) (hsame : first ++ rest = second ++ last) :
    first = second ∧ result = other := by
  induction h generalizing second with
  | done result =>
      obtain ⟨rfl, rfl⟩ := path_done.mp hsecond
      exact ⟨rfl, rfl⟩
  | call hrest ih =>
      obtain ⟨outcome, later, rfl, hlater⟩ := path_call.mp hsecond
      rw [List.cons_append, List.cons_append] at hsame
      obtain ⟨hevent, htail⟩ := List.cons.inj hsame
      cases hevent
      obtain ⟨rfl, rfl⟩ := ih hlater htail
      exact ⟨rfl, rfl⟩

-- The calls of a run with their outcomes.
def history (handler : Handler S ε σ) :
    Program S ε α → Plan ε → σ → List (Event S ε)
  | .done _, _, _ => []
  | .call request next, plan, state =>
      let outcome := strike handler plan.head?.join request state
      ⟨request, outcome.1⟩ :: history handler (next outcome.1) plan.tail outcome.2

-- Every run takes a path.
theorem runFaulty_path (handler : Handler S ε σ) (program : Program S ε α) (plan : Plan ε)
    (state : σ) :
    program.Path (program.history handler plan state)
      (program.runFaulty handler plan state).1 := by
  induction program generalizing plan state with
  | done result => exact .done result
  | call request next ih =>
      rw [runFaulty_call]
      exact .call (ih _ _ _)

theorem run_path (handler : Handler S ε σ) (program : Program S ε α) (state : σ) :
    program.Path (program.history handler [] state) (program.run handler state).1 := by
  rw [← runFaulty_nil]
  exact runFaulty_path handler program [] state

-- What a handler answers, its histories hold.
theorem history_answers {handler : Handler S ε σ} {answer : (request : S.Call) →
      Except ε (S.Reply request)}
    (hanswers : ∀ request state, (handler request state).1 = answer request)
    (program : Program S ε α) (state : σ) :
    ∀ event ∈ program.history handler [] state, event.2 = answer event.1 := by
  induction program generalizing state with
  | done result => exact fun _ hmem => absurd hmem List.not_mem_nil
  | call request next ih =>
      intro event hmem
      rcases List.mem_cons.mp hmem with rfl | hmem
      · exact hanswers request state
      · exact ih _ _ event hmem

end Program

end Path

end Effect
