import MeridianS3.Effect.Settled

namespace Effect

-- Calls of two kinds.
def Signature.both (S R : Signature) : Signature where
  Call := S.Call ⊕ R.Call
  Reply := Sum.elim S.Reply R.Reply

section Layered

variable {S R : Signature} {ε α β δ σ ρ : Type}

-- Each kind has a state of its own.
def Handler.both (left : Handler S ε σ) (right : Handler R ε ρ) :
    Handler (S.both R) ε (σ × ρ)
  | .inl request, state => ((left request state.1).1, ((left request state.1).2, state.2))
  | .inr request, state => ((right request state.2).1, (state.1, (right request state.2).2))

namespace Program

-- A program that makes calls of the first kind only.
def inject : Program S ε α → Program (S.both R) ε α
  | .done result => .done result
  | .call request next => .call (S := S.both R) (.inl request) fun reply => (next reply).inject

theorem run_inject (left : Handler S ε σ) (right : Handler R ε ρ) (program : Program S ε α)
    (state : σ × ρ) :
    (program.inject : Program (S.both R) ε α).run (left.both right) state =
      ((program.run left state.1).1, ((program.run left state.1).2, state.2)) := by
  induction program generalizing state with
  | done result => rfl
  | call request next ih => exact ih _ _

theorem within_inject (program : Program S ε α) {kind : (S.both R).Call → Prop}
    (h : ∀ request, kind (.inl request)) :
    (program.inject : Program (S.both R) ε α).Within kind := by
  induction program with
  | done result => trivial
  | call request next ih => exact ⟨h request, fun outcome => ih outcome⟩

-- The calls of the first kind are those of the inner program, one after another. Those of
-- the second kind stand between them: they are of these kinds, and return nothing but
-- these answers or an error. What the outer program comes to, the inner one ends with.
inductive Follows (kinds : R.Call → Prop) (answers : (request : R.Call) → R.Reply request → Prop)
    (ends : β → Program S ε α → Prop) : Program (S.both R) ε β → Program S ε α → Prop where
  | done (result : Except ε β) (inner : Program S ε α)
      (h : ∀ value, result = .ok value → ends value inner) :
      Follows kinds answers ends (.done result) inner
  | aside (request : R.Call)
      (next : Except ε (R.Reply request) → Program (S.both R) ε β) (inner : Program S ε α)
      (hkind : kinds request)
      (h : ∀ reply, (∀ value, reply = .ok value → answers request value) →
        Follows kinds answers ends (next reply) inner) :
      Follows kinds answers ends (.call (S := S.both R) (.inr request) next) inner
  | call (request : S.Call)
      (next : Except ε (S.Reply request) → Program (S.both R) ε β)
      (inner : Except ε (S.Reply request) → Program S ε α)
      (h : ∀ reply, Follows kinds answers ends (next reply) (inner reply)) :
      Follows kinds answers ends (.call (S := S.both R) (.inl request) next)
        (.call request inner)

variable {kinds : R.Call → Prop} {answers : (request : R.Call) → R.Reply request → Prop}
  {ends : β → Program S ε α → Prop}

theorem follows_error (error : ε) (inner : Program S ε α) :
    (done (.error error) : Program (S.both R) ε β).Follows kinds answers ends inner := by
  apply Follows.done
  intro value hvalue
  cases hvalue

-- A program that goes on where the inner one has returned follows it.
theorem follows_inject (program : Program S ε α) {next : α → Program (S.both R) ε β}
    (h : ∀ value, (next value).Follows kinds answers ends (.done (.ok value))) :
    (program.inject >>= next).Follows kinds answers ends program := by
  induction program with
  | done result =>
      cases result with
      | error error => exact follows_error error _
      | ok value => exact h value
  | call request rest ih => exact .call request _ _ ih

-- A call of the second kind, and what is done with its answer.
theorem follows_aside {request : R.Call} {next : R.Reply request → Program (S.both R) ε β}
    {inner : Program S ε α} (hkind : kinds request)
    (h : ∀ value, answers request value → (next value).Follows kinds answers ends inner) :
    ((perform (S := S.both R) (.inr request) : Program (S.both R) ε (R.Reply request)) >>=
      next).Follows kinds answers ends inner := by
  apply Follows.aside request _ inner hkind
  intro reply hreply
  cases reply with
  | error error => exact follows_error error _
  | ok value => exact h value (hreply value rfl)

end Program

variable {kinds : R.Call → Prop} {answers : (request : R.Call) → R.Reply request → Prop}
  {ends : β → Program S ε α → Prop} {kept : ρ → Prop} {right : Handler R ε ρ}

-- A handler that keeps this about its state gives no other answers.
structure Handler.Keeps (right : Handler R ε ρ) (kinds : R.Call → Prop)
    (answers : (request : R.Call) → R.Reply request → Prop) (kept : ρ → Prop) : Prop where
  state : ∀ request, kinds request → ∀ state, kept state → kept (right request state).2
  answer : ∀ request, kinds request → ∀ state, kept state → ∀ value,
    (right request state).1 = .ok value → answers request value

-- The outer system is where the inner one is, and each of its clients follows the inner
-- client of its place.
structure System.Projects (kinds : R.Call → Prop)
    (answers : (request : R.Call) → R.Reply request → Prop) (ends : β → Program S ε α → Prop)
    (kept : ρ → Prop) (outer : System (S.both R) ε β (σ × ρ)) (inner : System S ε α σ) :
    Prop where
  state : outer.state.1 = inner.state
  aside : kept outer.state.2
  clients : List.Forall₂ (Program.Follows kinds answers ends) outer.clients inner.clients

theorem forall₂_getElem? {relation : α → β → Prop} {first : List α} {second : List β}
    (h : List.Forall₂ relation first second) {place : Nat} {value : α}
    (hget : first[place]? = some value) :
    ∃ other, second[place]? = some other ∧ relation value other := by
  induction h generalizing place with
  | nil => cases hget
  | cons hhead htail ih =>
      cases place with
      | zero =>
          cases hget
          exact ⟨_, rfl, hhead⟩
      | succ place => exact ih hget

theorem forall₂_set {relation : α → β → Prop} {first : List α} {second : List β}
    (h : List.Forall₂ relation first second) (place : Nat) {value : α} {other : β}
    (hrelation : relation value other) :
    List.Forall₂ relation (first.set place value) (second.set place other) := by
  induction h generalizing place with
  | nil => exact .nil
  | cons hhead htail ih =>
      cases place with
      | zero => exact .cons hrelation htail
      | succ place => exact .cons hhead (ih place)

theorem forall₂_set_left {relation : α → β → Prop} {first : List α} {second : List β}
    (h : List.Forall₂ relation first second) {place : Nat} {value : α} {other : β}
    (hget : second[place]? = some other) (hrelation : relation value other) :
    List.Forall₂ relation (first.set place value) second := by
  induction h generalizing place with
  | nil => exact .nil
  | cons hhead htail ih =>
      cases place with
      | zero =>
          cases hget
          exact .cons hrelation htail
      | succ place => exact .cons hhead (ih hget)

-- One turn of the outer system is one turn of the inner one, or none.
theorem System.Projects.step (left : Handler S ε σ) (hright : right.Keeps kinds answers kept)
    {outer : System (S.both R) ε β (σ × ρ)} {inner : System S ε α σ}
    (h : outer.Projects kinds answers ends kept inner) (turn : Nat × Option (Fault ε)) :
    (outer.step (left.both right) turn).Projects kinds answers ends kept inner ∨
      (outer.step (left.both right) turn).Projects kinds answers ends kept
        (inner.step left turn) := by
  obtain ⟨place, fault⟩ := turn
  cases hclient : outer.clients[place]? with
  | none =>
      left
      rw [System.step_idle (by simp [hclient])]
      exact h
  | some program =>
  obtain ⟨other, hother, hfollows⟩ := forall₂_getElem? h.clients hclient
  cases hfollows with
  | done result inner hends =>
      left
      rw [System.step_idle (by simp [hclient])]
      exact h
  | aside request next inner hkind hnext =>
      left
      rw [System.step_call hclient]
      have hstate : (strike (left.both right) fault (.inr request) outer.state).2.1 =
          outer.state.1 := by
        cases fault with
        | none => rfl
        | some fault => cases hfault : fault.effect <;> simp [strike, hfault, Handler.both]
      have hkept : kept (strike (left.both right) fault (.inr request) outer.state).2.2 := by
        have hmoved := hright.state request hkind _ h.aside
        cases fault with
        | none => exact hmoved
        | some fault =>
            cases hfault : fault.effect
            · simpa [strike, hfault] using h.aside
            · simpa [strike, hfault, Handler.both] using hmoved
      refine ⟨hstate.trans h.state, hkept, forall₂_set_left h.clients hother (hnext _ ?_)⟩
      intro value hvalue
      cases fault with
      | none => exact hright.answer request hkind _ h.aside value hvalue
      | some fault => cases hvalue
  | call request next inner hnext =>
      right
      rw [System.step_call hclient, System.step_call hother, ← h.state]
      have hreply : (strike (left.both right) fault (.inl request) outer.state).1 =
          (strike left fault request outer.state.1).1 := by
        cases fault with
        | none => rfl
        | some fault => rfl
      have hstate : (strike (left.both right) fault (.inl request) outer.state).2 =
          ((strike left fault request outer.state.1).2, outer.state.2) := by
        cases fault with
        | none => rfl
        | some fault => cases hfault : fault.effect <;> simp [strike, hfault, Handler.both]
      refine ⟨by rw [hstate], by rw [hstate]; exact h.aside, ?_⟩
      apply forall₂_set h.clients
      change Program.Follows kinds answers ends (next (strike (left.both right) fault
        (.inl request) outer.state).1) _
      rw [hreply]
      exact hnext _

-- What any schedule does to the outer system, some turns of it do to the inner one.
theorem System.Projects.runSchedule (left : Handler S ε σ) (hright : right.Keeps kinds answers kept)
    {outer : System (S.both R) ε β (σ × ρ)} {inner : System S ε α σ}
    (h : outer.Projects kinds answers ends kept inner) (schedule : Schedule ε) :
    ∃ turns : Schedule ε, turns.Sublist schedule ∧
      (outer.runSchedule (left.both right) schedule).Projects kinds answers ends kept
        (inner.runSchedule left turns) := by
  induction schedule generalizing outer inner with
  | nil => exact ⟨[], .slnil, h⟩
  | cons turn rest ih =>
      rcases h.step left hright turn with hstep | hstep
      · obtain ⟨turns, hturns, hprojects⟩ := ih hstep
        exact ⟨turns, hturns.cons turn, hprojects⟩
      · obtain ⟨turns, hturns, hprojects⟩ := ih hstep
        exact ⟨turn :: turns, hturns.cons_cons turn, hprojects⟩

-- A client that has returned has an inner client that has ended with it.
theorem System.Projects.finished {outer : System (S.both R) ε β (σ × ρ)}
    {inner : System S ε α σ} (h : outer.Projects kinds answers ends kept inner) {place : Nat}
    {value : β} (hdone : outer.clients[place]? = some (.done (.ok value))) :
    ∃ program, inner.clients[place]? = some program ∧ ends value program := by
  obtain ⟨program, hprogram, hfollows⟩ := forall₂_getElem? h.clients hdone
  cases hfollows with
  | done result inner hends => exact ⟨program, hprogram, hends value rfl⟩

section Guarded

variable {handler : Handler S ε σ} {kinds : Nat → S.Call → Prop} {post : Except ε α → Prop}

-- A client that the schedule does not name stands where it stood.
theorem System.client_waits {system : System S ε α σ} {schedule : Schedule ε} {place : Nat}
    (hwaits : ∀ turn ∈ schedule, turn.1 ≠ place) :
    (system.runSchedule handler schedule).clients[place]? = system.clients[place]? := by
  induction schedule generalizing system with
  | nil => rfl
  | cons turn rest ih =>
      have hrest : ((system.step handler turn).runSchedule handler rest).clients[place]? =
          (system.step handler turn).clients[place]? :=
        ih fun later hlater => hwaits later (List.mem_cons_of_mem _ hlater)
      exact hrest.trans (System.step_other (hwaits turn (List.mem_cons_self ..)))

theorem System.Confined.runSchedule {system : System S ε α σ}
    (h : system.Confined kinds fun _ _ => True) (schedule : Schedule ε) :
    (system.runSchedule handler schedule).Confined kinds fun _ _ => True := by
  induction schedule generalizing system with
  | nil => exact h
  | cons turn rest ih => exact ih (h.step (fun _ _ _ _ => trivial) fun _ _ _ => trivial).1

-- While this holds of the state, a client gets only answers that are possible then, and
-- stays within what they let it do.
theorem System.Confined.guarded {system : System S ε α σ}
    (h : system.Confined kinds fun _ _ => True) (holds : σ → Prop) {kind : S.Call → Prop}
    {possible : (request : S.Call) → Except ε (S.Reply request) → Prop} {schedule : Schedule ε}
    (hkept : ∀ turn ∈ schedule, ∀ request, kinds turn.1 request → ∀ state, holds state →
      holds (handler request state).2)
    (hholds : holds system.state)
    (hanswers : ∀ request, kind request → ∀ state, holds state →
      possible request (handler request state).1)
    (hfaults : ∀ request error, possible request (.error error)) {place : Nat}
    {program : Program S ε α} (hclient : system.clients[place]? = some program)
    (hprogram : program.Confined kind possible post) :
    ∃ rest, (system.runSchedule handler schedule).clients[place]? = some rest ∧
      rest.Confined kind possible post := by
  induction schedule generalizing system program with
  | nil => exact ⟨program, hclient, hprogram⟩
  | cons turn schedule ih =>
      obtain ⟨hconfined, hstep⟩ : (system.step handler turn).Confined kinds (fun _ _ => True) ∧
          ∀ related : σ → σ → Prop, (∀ state, related state state) →
            (∀ request, kinds turn.1 request → ∀ state, related state (handler request state).2) →
            related system.state (system.step handler turn).state :=
        h.step (fun _ _ _ _ => trivial) fun _ _ _ => trivial
      have hmoved : holds (system.step handler turn).state :=
        hstep (fun before after => holds before → holds after) (fun _ hstate => hstate)
          (fun request hrequest state => hkept turn (List.mem_cons_self ..) request hrequest state)
          hholds
      have hrest : ∃ rest, (system.step handler turn).clients[place]? = some rest ∧
          rest.Confined kind possible post := by
        by_cases hplace : turn.1 = place
        case neg => exact ⟨program, (System.step_other hplace).trans hclient, hprogram⟩
        case pos =>
          obtain rfl := hplace
          obtain ⟨hlt, -⟩ := List.getElem?_eq_some_iff.mp hclient
          cases program with
          | done result =>
              rw [System.step_idle (by simp [hclient])]
              exact ⟨_, hclient, hprogram⟩
          | call request next =>
              rw [System.step_call hclient]
              refine ⟨_, List.getElem?_set_self hlt, hprogram.2 _ ?_⟩
              cases hfault : turn.2 with
              | none => exact hanswers request hprogram.1 _ hholds
              | some fault => exact hfaults request fault.error
      obtain ⟨rest, hclient, hprogram⟩ := hrest
      exact ih hconfined (fun later hlater => hkept later (List.mem_cons_of_mem _ hlater)) hmoved
        hclient hprogram

end Guarded

end Layered

end Effect
