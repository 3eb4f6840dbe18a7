import Mathlib.Tactic.Common

namespace Effect

-- Each call has its own type of replies.
structure Signature where
  Call : Type
  Reply : Call → Type

-- A program has finished, with a value or a raised error, or it waits for the
-- outcome of a call. A call that fails raises an error of the program's own type.
inductive Program (S : Signature) (ε α : Type) where
  | done (result : Except ε α)
  | call (request : S.Call) (next : Except ε (S.Reply request) → Program S ε α)

-- A handler answers one call and moves the state.
abbrev Handler (S : Signature) (ε σ : Type) :=
  (request : S.Call) → σ → Except ε (S.Reply request) × σ

namespace Program

variable {S : Signature} {ε α β δ σ : Type}

def andThen (program : Program S ε α) (next : Except ε α → Program S ε β) : Program S ε β :=
  match program with
  | .done result => next result
  | .call request rest => .call request fun reply => (rest reply).andThen next

def onOk (next : α → Program S ε β) : Except ε α → Program S ε β
  | .ok value => next value
  | .error error => .done (.error error)

def onError (handler : ε → Program S ε α) : Except ε α → Program S ε α
  | .ok value => .done (.ok value)
  | .error error => handler error

instance : Monad (Program S ε) where
  pure value := .done (.ok value)
  bind program next := program.andThen (onOk next)

instance : MonadExceptOf ε (Program S ε) where
  throw error := .done (.error error)
  tryCatch program handler := program.andThen (onError handler)

-- The call itself, as a program.
def perform (request : S.Call) : Program S ε (S.Reply request) := .call request .done

def lift : Except ε α → Program S ε α := .done

theorem andThen_done (program : Program S ε α) : program.andThen .done = program := by
  induction program with
  | done result => rfl
  | call request next ih => simp only [andThen, ih]

theorem andThen_assoc (program : Program S ε α) (first : Except ε α → Program S ε β)
    (second : Except ε β → Program S ε δ) :
    (program.andThen first).andThen second =
      program.andThen fun result => (first result).andThen second := by
  induction program with
  | done result => rfl
  | call request next ih => simp only [andThen, ih]

theorem bind_eq (program : Program S ε α) (next : α → Program S ε β) :
    program >>= next = program.andThen (onOk next) := rfl

theorem tryCatch_eq (program : Program S ε α) (handler : ε → Program S ε α) :
    tryCatch program handler = program.andThen (onError handler) := rfl

theorem map_eq (program : Program S ε α) (f : α → β) :
    f <$> program = program.andThen (onOk fun value => .done (.ok (f value))) := rfl

theorem map_id (program : Program S ε α) : id <$> program = program := by
  rw [map_eq]
  conv_rhs => rw [← andThen_done program]
  congr 1
  funext result
  cases result <;> rfl

theorem bind_assoc (program : Program S ε α) (first : α → Program S ε β)
    (second : β → Program S ε δ) :
    program >>= first >>= second = program >>= fun value => first value >>= second := by
  simp only [bind_eq, andThen_assoc]
  congr 1
  funext result
  cases result <;> rfl

instance : LawfulMonad (Program S ε) :=
  LawfulMonad.mk' (Program S ε) map_id (fun _ _ => rfl) bind_assoc

-- Running to the end, every call answered by the handler.
def run (handler : Handler S ε σ) : Program S ε α → σ → Except ε α × σ
  | .done result, state => (result, state)
  | .call request next, state =>
      run handler (next (handler request state).1) (handler request state).2

@[simp] theorem run_done (handler : Handler S ε σ) (result : Except ε α) (state : σ) :
    run handler (.done result) state = (result, state) := rfl

@[simp] theorem run_call (handler : Handler S ε σ) (request : S.Call)
    (next : Except ε (S.Reply request) → Program S ε α) (state : σ) :
    run handler (.call request next) state =
      run handler (next (handler request state).1) (handler request state).2 := rfl

@[simp] theorem run_perform (handler : Handler S ε σ) (request : S.Call) (state : σ) :
    run handler (perform request) state = handler request state := rfl

@[simp] theorem run_lift (handler : Handler S ε σ) (result : Except ε α) (state : σ) :
    run handler (lift result) state = (result, state) := rfl

@[simp] theorem run_pure (handler : Handler S ε σ) (value : α) (state : σ) :
    run handler (pure value) state = (.ok value, state) := rfl

@[simp] theorem run_throw (handler : Handler S ε σ) (error : ε) (state : σ) :
    run handler (throw error : Program S ε α) state = (.error error, state) := rfl

theorem run_andThen (handler : Handler S ε σ) (program : Program S ε α)
    (next : Except ε α → Program S ε β) (state : σ) :
    run handler (program.andThen next) state =
      run handler (next (run handler program state).1) (run handler program state).2 := by
  induction program generalizing state with
  | done result => rfl
  | call request rest ih => exact ih _ _

theorem run_bind (handler : Handler S ε σ) (program : Program S ε α)
    (next : α → Program S ε β) (state : σ) :
    run handler (program >>= next) state =
      run handler (onOk next (run handler program state).1) (run handler program state).2 :=
  run_andThen handler program (onOk next) state

theorem run_bind_ok (handler : Handler S ε σ) (program : Program S ε α)
    (next : α → Program S ε β) (state after : σ) (value : α)
    (h : run handler program state = (.ok value, after)) :
    run handler (program >>= next) state = run handler (next value) after := by
  rw [run_bind, h]; rfl

theorem run_bind_error (handler : Handler S ε σ) (program : Program S ε α)
    (next : α → Program S ε β) (state after : σ) (error : ε)
    (h : run handler program state = (.error error, after)) :
    run handler (program >>= next) state = (.error error, after) := by
  rw [run_bind, h]; rfl

theorem run_tryCatch (handler : Handler S ε σ) (program : Program S ε α)
    (recover : ε → Program S ε α) (state : σ) :
    run handler (tryCatch program recover) state =
      run handler (onError recover (run handler program state).1) (run handler program state).2 :=
  run_andThen handler program (onError recover) state

end Program

-- A call can fail before or after it has taken effect. The caller sees the same error.
structure Fault (ε : Type) where
  error : ε
  effect : Bool

-- The faults of a run, call by call. Calls past the end of the plan do not fail.
abbrev Plan (ε : Type) := List (Option (Fault ε))

section Faults

variable {S : Signature} {ε α β σ : Type}

def strike (handler : Handler S ε σ) (fault : Option (Fault ε)) : Handler S ε σ :=
  fun request state =>
    match fault with
    | none => handler request state
    | some fault =>
        (.error fault.error, if fault.effect then (handler request state).2 else state)

def disturbed (handler : Handler S ε σ) : Handler S ε (Plan ε × σ) :=
  fun request (plan, state) =>
    ((strike handler plan.head?.join request state).1,
      (plan.tail, (strike handler plan.head?.join request state).2))

def Program.runFaulty (handler : Handler S ε σ) (program : Program S ε α) (plan : Plan ε)
    (state : σ) : Except ε α × σ :=
  ((program.run (disturbed handler) (plan, state)).1,
    (program.run (disturbed handler) (plan, state)).2.2)

-- The faults of a run that strike, each with the call that it strikes.
def Program.struck (handler : Handler S ε σ) :
    Program S ε α → Plan ε → σ → List (S.Call × Fault ε)
  | .done _, _, _ => []
  | .call request next, plan, state =>
      let fault := plan.head?.join
      let outcome := strike handler fault request state
      (fault.map fun fault => (request, fault)).toList ++
        struck handler (next outcome.1) plan.tail outcome.2

theorem strike_none (handler : Handler S ε σ) (request : S.Call) (state : σ) :
    strike handler none request state = handler request state := rfl

theorem runFaulty_call (handler : Handler S ε σ) (request : S.Call)
    (next : Except ε (S.Reply request) → Program S ε α) (plan : Plan ε) (state : σ) :
    (Program.call request next).runFaulty handler plan state =
      (next (strike handler plan.head?.join request state).1).runFaulty handler plan.tail
        (strike handler plan.head?.join request state).2 := rfl

theorem runFaulty_nil (handler : Handler S ε σ) (program : Program S ε α) (state : σ) :
    program.runFaulty handler [] state = program.run handler state := by
  induction program generalizing state with
  | done result => rfl
  | call request next ih =>
      rw [runFaulty_call]
      exact ih _ _

theorem runFaulty_map (handler : Handler S ε σ) (program : Program S ε α) (f : α → β)
    (plan : Plan ε) (state : σ) :
    (f <$> program).runFaulty handler plan state =
      ((program.runFaulty handler plan state).1.map f,
        (program.runFaulty handler plan state).2) := by
  rw [Program.map_eq]
  induction program generalizing plan state with
  | done result => cases result <;> rfl
  | call request next ih => exact ih _ _ _

theorem struck_map (handler : Handler S ε σ) (program : Program S ε α) (f : α → β)
    (plan : Plan ε) (state : σ) :
    (f <$> program).struck handler plan state = program.struck handler plan state := by
  rw [Program.map_eq]
  induction program generalizing plan state with
  | done result => cases result <;> rfl
  | call request next ih =>
      simp only [Program.andThen, Program.struck]
      congr 1
      exact ih _ _ _

theorem struck_nil (handler : Handler S ε σ) (program : Program S ε α) (state : σ) :
    program.struck handler [] state = [] := by
  induction program generalizing state with
  | done result => rfl
  | call request next ih => exact ih _ _

end Faults

end Effect
