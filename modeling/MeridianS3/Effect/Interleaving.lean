import MeridianS3.Effect.Protocol
import Mathlib.Data.List.Basic

namespace Effect

section System

variable {S : Signature} {ε α σ γ : Type}

-- Clients that share a state. Each entry of a schedule lets one client make its
-- next call and says how that call fails, if it does.
structure System (S : Signature) (ε α σ : Type) where
  state : σ
  clients : List (Program S ε α)

abbrev Schedule (ε : Type) := List (Nat × Option (Fault ε))

def System.step (handler : Handler S ε σ) (system : System S ε α σ)
    (turn : Nat × Option (Fault ε)) : System S ε α σ :=
  match system.clients[turn.1]? with
  | some (.call request next) =>
      { state := (strike handler turn.2 request system.state).2
        clients := system.clients.set turn.1 (next (strike handler turn.2 request system.state).1) }
  | _ => system

theorem System.step_call {system : System S ε α σ} {turn : Nat × Option (Fault ε)}
    {request : S.Call} {next : Except ε (S.Reply request) → Program S ε α}
    (h : system.clients[turn.1]? = some (.call request next)) : system.step handler turn =
      ⟨(strike handler turn.2 request system.state).2,
        system.clients.set turn.1 (next (strike handler turn.2 request system.state).1)⟩ := by
  simp only [System.step, h]

def System.runSchedule (handler : Handler S ε σ) (system : System S ε α σ)
    (schedule : Schedule ε) : System S ε α σ :=
  schedule.foldl (System.step handler) system

theorem System.runSchedule_append (handler : Handler S ε σ) (system : System S ε α σ)
    (first second : Schedule ε) :
    system.runSchedule handler (first ++ second) =
      (system.runSchedule handler first).runSchedule handler second := by
  simp [System.runSchedule]

@[simp] theorem System.runSchedule_length (handler : Handler S ε σ) (system : System S ε α σ)
    (schedule : Schedule ε) :
    (system.runSchedule handler schedule).clients.length = system.clients.length := by
  induction schedule generalizing system with
  | nil => rfl
  | cons turn rest ih =>
      have hstep : (system.step handler turn).clients.length = system.clients.length := by
        unfold System.step
        split
        · exact List.length_set ..
        · rfl
      exact (ih (system.step handler turn)).trans hstep

-- What a protocol must satisfy for clients that each keep it to be run together.
structure Protocol.Composes (rules : Protocol S ε σ γ) (apart : γ → γ → Prop)
    (owns : γ → σ → Prop) : Prop where
  rely_refl : ∀ ghost state, rules.rely ghost state state
  rely_trans : ∀ ghost first second third, rules.rely ghost first second →
    rules.rely ghost second third → rules.rely ghost first third
  guarantee_owns : ∀ ghost owned before after, owns ghost before →
    rules.guarantee ghost owned before after → owns owned after
  guarantee_rely : ∀ ghost owned other before after, rules.guarantee ghost owned before after →
    owns other before → apart ghost other →
    rules.rely other before after ∧ owns other after ∧ apart owned other
  apart_symm : ∀ first second, apart first second → apart second first

-- Each client has seen a state from which the others led to the present one.
structure System.Coherent (handler : Handler S ε σ) (rules : Protocol S ε σ γ)
    (apart : γ → γ → Prop) (owns : γ → σ → Prop)
    (post : Nat → Except ε α → γ → σ → Prop) (system : System S ε α σ) (ghosts : Nat → γ) :
    Prop where
  invariant : rules.invariant system.state
  owns : ∀ client < system.clients.length, owns (ghosts client) system.state
  apart : ∀ first second, first < system.clients.length → second < system.clients.length →
    first ≠ second → apart (ghosts first) (ghosts second)
  verified : ∀ client (h : client < system.clients.length), ∃ seen,
    rules.rely (ghosts client) seen system.state ∧
      Verified handler rules system.clients[client] (ghosts client) seen (post client)

variable {handler : Handler S ε σ} {rules : Protocol S ε σ γ} {apart : γ → γ → Prop}
  {owns : γ → σ → Prop} {post : Nat → Except ε α → γ → σ → Prop}

theorem System.Coherent.step (hrules : rules.Composes apart owns) {system : System S ε α σ}
    {ghosts : Nat → γ} (h : system.Coherent handler rules apart owns post ghosts)
    (turn : Nat × Option (Fault ε)) (hfault : ∀ call, Allowed rules.faults call turn.2) :
    ∃ owned, (system.step handler turn).Coherent handler rules apart owns post owned := by
  rcases turn with ⟨client, fault⟩
  by_cases hlt : client < system.clients.length
  case neg =>
    have hstep : system.step handler (client, fault) = system := by
      simp [System.step, List.getElem?_eq_none (Nat.le_of_not_lt hlt)]
    exact ⟨ghosts, by rw [hstep]; exact h⟩
  case pos =>
  cases hprogram : system.clients[client] with
  | done result =>
      have hstep : system.step handler (client, fault) = system := by
        simp [System.step, List.getElem?_eq_getElem hlt, hprogram]
      exact ⟨ghosts, by rw [hstep]; exact h⟩
  | call request next =>
      obtain ⟨seen, hseen, hverified⟩ := h.verified client hlt
      rw [hprogram] at hverified
      obtain ⟨hinv, owned, hguar, hrest⟩ :=
        hverified system.state hseen h.invariant fault (hfault _)
      have hstep : system.step handler (client, fault) =
          { state := (strike handler fault request system.state).2
            clients := system.clients.set client
              (next (strike handler fault request system.state).1) } := by
        simp [System.step, List.getElem?_eq_getElem hlt, hprogram]
      have hother : ∀ other < system.clients.length, other ≠ client →
          rules.rely (ghosts other) system.state (strike handler fault request system.state).2 ∧
          owns (ghosts other) (strike handler fault request system.state).2 ∧
          apart owned (ghosts other) := fun other hother hne =>
        hrules.guarantee_rely _ _ _ _ _ hguar (h.owns other hother)
          (h.apart client other hlt hother (Ne.symm hne))
      refine ⟨fun other => if other = client then owned else ghosts other, ?_⟩
      rw [hstep]
      constructor
      · exact hinv
      · intro other hlength
        rw [List.length_set] at hlength
        by_cases he : other = client
        · simp only [he, ite_true]
          exact hrules.guarantee_owns _ _ _ _ (h.owns client hlt) hguar
        · simp only [he, ite_false]
          exact (hother other hlength he).2.1
      · intro first second hfirst hsecond hne
        rw [List.length_set] at hfirst hsecond
        by_cases hf : first = client
        · have hs : second ≠ client := fun hs => hne (hf.trans hs.symm)
          simp only [hf, hs, ite_true, ite_false]
          exact (hother second hsecond hs).2.2
        · by_cases hs : second = client
          · simp only [hf, hs, ite_true, ite_false]
            exact hrules.apart_symm _ _ (hother first hfirst hf).2.2
          · simp only [hf, hs, ite_false]
            exact h.apart first second hfirst hsecond hne
      · intro other hlength
        rw [List.length_set] at hlength
        by_cases he : other = client
        · subst other
          exact ⟨_, by simpa using hrules.rely_refl _ _, by simpa using hrest⟩
        · obtain ⟨past, hpast, hv⟩ := h.verified other hlength
          refine ⟨past, ?_, ?_⟩
          · simp only [he, ite_false]
            exact hrules.rely_trans _ _ _ _ hpast (hother other hlength he).1
          · simpa [he, List.getElem_set_ne (Ne.symm he)] using hv

theorem System.Coherent.runSchedule (hrules : rules.Composes apart owns)
    {system : System S ε α σ} {ghosts : Nat → γ}
    (h : system.Coherent handler rules apart owns post ghosts) (schedule : Schedule ε)
    (hfaults : ∀ turn ∈ schedule, ∀ call, Allowed rules.faults call turn.2) :
    ∃ owned, (system.runSchedule handler schedule).Coherent handler rules apart owns post owned := by
  induction schedule generalizing system ghosts with
  | nil => exact ⟨ghosts, h⟩
  | cons turn rest ih =>
      obtain ⟨owned, hstep⟩ := h.step hrules turn (hfaults turn (by simp))
      exact ih hstep fun later hl => hfaults later (by simp [hl])

-- A client that has finished satisfies its postcondition in a state from which
-- the others led to the present one.
theorem System.Coherent.finished {system : System S ε α σ} {ghosts : Nat → γ}
    (h : system.Coherent handler rules apart owns post ghosts) (client : Nat)
    (result : Except ε α) (hdone : system.clients[client]? = some (.done result)) :
    ∃ seen, rules.rely (ghosts client) seen system.state ∧
      post client result (ghosts client) seen := by
  obtain ⟨hlt, he⟩ := List.getElem?_eq_some_iff.mp hdone
  obtain ⟨seen, hseen, hv⟩ := h.verified client hlt
  rw [he] at hv
  exact ⟨seen, hseen, hv⟩

-- The clients at the start: nothing has been called and each proof starts there.
theorem System.coherent_start {system : System S ε α σ} {ghosts : Nat → γ}
    (hrules : rules.Composes apart owns) (hinv : rules.invariant system.state)
    (howns : ∀ client < system.clients.length, owns (ghosts client) system.state)
    (hapart : ∀ first second, first < system.clients.length → second < system.clients.length →
      first ≠ second → apart (ghosts first) (ghosts second))
    (hverified : ∀ client (h : client < system.clients.length),
      Verified handler rules system.clients[client] (ghosts client) system.state (post client)) :
    system.Coherent handler rules apart owns post ghosts where
  invariant := hinv
  owns := howns
  apart := hapart
  verified client h := ⟨system.state, hrules.rely_refl _ _, hverified client h⟩

-- A step of the whole system is one client's guarantee, or no step at all.
theorem System.Coherent.step_guarantee {system : System S ε α σ} {ghosts : Nat → γ}
    (h : system.Coherent handler rules apart owns post ghosts)
    (turn : Nat × Option (Fault ε)) (hfault : ∀ call, Allowed rules.faults call turn.2) :
    (system.step handler turn).state = system.state ∨
    ∃ ghost owned, rules.guarantee ghost owned system.state (system.step handler turn).state := by
  rcases turn with ⟨client, fault⟩
  unfold System.step
  split
  · rename_i request next hget
    obtain ⟨hlt, he⟩ := List.getElem?_eq_some_iff.mp hget
    obtain ⟨seen, hseen, hv⟩ := h.verified client hlt
    rw [he] at hv
    obtain ⟨-, owned, hguar, -⟩ := hv system.state hseen h.invariant fault (hfault _)
    exact Or.inr ⟨ghosts client, owned, hguar⟩
  · exact Or.inl rfl

-- A relation that every client keeps holds between the ends of any schedule.
theorem System.Coherent.runSchedule_related (hrules : rules.Composes apart owns)
    (related : σ → σ → Prop) (hrefl : ∀ before, related before before)
    (htrans : ∀ first second third, related first second → related second third →
      related first third)
    (hrelated : ∀ ghost owned before after, rules.guarantee ghost owned before after →
      related before after) {system : System S ε α σ} {ghosts : Nat → γ}
    (h : system.Coherent handler rules apart owns post ghosts) (schedule : Schedule ε)
    (hfaults : ∀ turn ∈ schedule, ∀ call, Allowed rules.faults call turn.2) :
    related system.state (system.runSchedule handler schedule).state := by
  induction schedule generalizing system ghosts with
  | nil => exact hrefl _
  | cons turn rest ih =>
      have hfault := hfaults turn (by simp)
      have hfirst : related system.state (system.step handler turn).state := by
        rcases h.step_guarantee turn hfault with hsame | ⟨ghost, owned, hguar⟩
        · rw [hsame]
          exact hrefl _
        · exact hrelated _ _ _ _ hguar
      obtain ⟨owned, hstep⟩ := h.step hrules turn hfault
      exact htrans _ _ _ hfirst (ih hstep fun later hl => hfaults later (by simp [hl]))

end System

end Effect
