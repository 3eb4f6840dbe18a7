import MeridianS3.Effect.Confined
import MeridianS3.Effect.Interleaving

namespace Effect

section Crowd

variable {S : Signature} {ε α σ : Type} {handler : Handler S ε σ}
  {kinds : Nat → S.Call → Prop}
  {possible : (request : S.Call) → Except ε (S.Reply request) → Prop}

theorem Program.Confined.widen {kind weaker : S.Call → Prop} {program : Program S ε α}
    {post : Except ε α → Prop} (h : program.Confined kind possible post)
    (himp : ∀ request, kind request → weaker request) :
    program.Confined weaker possible post := by
  induction program with
  | done result => exact h
  | call request next ih =>
      exact ⟨himp request h.1, fun outcome houtcome => ih outcome (h.2 outcome houtcome)⟩

-- Clients that each keep to a kind of calls of their own.
def System.Confined (kinds : Nat → S.Call → Prop)
    (possible : (request : S.Call) → Except ε (S.Reply request) → Prop)
    (system : System S ε α σ) : Prop :=
  ∀ (client : Nat) (program : Program S ε α), system.clients[client]? = some program →
    program.Confined (kinds client) possible fun _ => True

theorem strike_kept {kept : σ → σ → Prop} (hrefl : ∀ state, kept state state)
    {request : S.Call} (hkept : ∀ state, kept state (handler request state).2)
    (fault : Option (Fault ε)) (state : σ) : kept state (strike handler fault request state).2 := by
  cases fault with
  | none => exact hkept state
  | some struck =>
      cases heffect : struck.effect with
      | true => simpa [strike, heffect] using hkept state
      | false => simpa [strike, heffect] using hrefl state

theorem System.Confined.step {system : System S ε α σ} (h : system.Confined kinds possible)
    (hanswers : ∀ client, handler.Answers (kinds client) possible)
    {turn : Nat × Option (Fault ε)}
    (hfault : ∀ fault ∈ turn.2, ∀ request, possible request (.error fault.error)) :
    (system.step handler turn).Confined kinds possible ∧
      ∀ kept : σ → σ → Prop, (∀ state, kept state state) →
        (∀ request, kinds turn.1 request → ∀ state, kept state (handler request state).2) →
        kept system.state (system.step handler turn).state := by
  unfold System.step
  split
  · rename_i request next hclient
    obtain ⟨hkind, hnext⟩ := h _ _ hclient
    have houtcome := strike_possible (hanswers turn.1) hkind
      (fun fault hmem => hfault fault hmem request) system.state
    constructor
    · intro client program hprogram
      dsimp only at hprogram
      rw [List.getElem?_set] at hprogram
      split at hprogram
      · rename_i hsame
        split at hprogram
        · cases hprogram
          exact hsame ▸ hnext _ houtcome
        · cases hprogram
      · exact h client program hprogram
    · intro kept hrefl hkept
      exact strike_kept hrefl (hkept request hkind) _ _
  · exact ⟨h, fun _ hrefl _ => hrefl _⟩

-- What the calls of every client keep, a schedule keeps.
theorem System.Confined.runSchedule_kept {kept : σ → σ → Prop} {system : System S ε α σ}
    (h : system.Confined kinds possible)
    (hanswers : ∀ client, handler.Answers (kinds client) possible)
    (hrefl : ∀ state, kept state state)
    (htrans : ∀ first second third, kept first second → kept second third → kept first third)
    (hkept : ∀ client request, kinds client request →
      ∀ state, kept state (handler request state).2)
    (schedule : Schedule ε)
    (hfaults : ∀ turn ∈ schedule, ∀ fault ∈ turn.2,
      ∀ request, possible request (.error fault.error)) :
    kept system.state (system.runSchedule handler schedule).state := by
  induction schedule generalizing system with
  | nil => exact hrefl _
  | cons turn rest ih =>
      obtain ⟨hstep, hstate⟩ := h.step hanswers (hfaults turn List.mem_cons_self)
      have hrest := ih hstep fun later hmem => hfaults later (List.mem_cons_of_mem _ hmem)
      exact htrans _ _ _ (hstate kept hrefl (hkept turn.1)) hrest

theorem System.step_idle {system : System S ε α σ} {turn : Nat × Option (Fault ε)}
    (h : ∀ (request : S.Call) (next : Except ε (S.Reply request) → Program S ε α),
      system.clients[turn.1]? ≠ some (.call request next)) :
    system.step handler turn = system := by
  unfold System.step
  split
  · rename_i request next hclient
    exact absurd hclient (h request next)
  · rfl

-- A client takes a turn, or the state changes without any of them.
def System.move (handler : Handler S ε σ) (system : System S ε α σ) :
    (Nat × Option (Fault ε)) ⊕ (σ → σ) → System S ε α σ
  | .inl turn => system.step handler turn
  | .inr change => ⟨change system.state, system.clients⟩

def System.runMoves (handler : Handler S ε σ) (system : System S ε α σ)
    (moves : List ((Nat × Option (Fault ε)) ⊕ (σ → σ))) : System S ε α σ :=
  moves.foldl (System.move handler) system

-- The turns of the first clients are kept, and those of the others are changes.
def Reduces (count : Nat) (changes : (σ → σ) → Prop) (turn : Nat × Option (Fault ε)) :
    (Nat × Option (Fault ε)) ⊕ (σ → σ) → Prop
  | .inl kept => kept = turn ∧ turn.1 < count
  | .inr change => changes change ∧ count ≤ turn.1

-- A crowd with some of its clients alone: these have come equally far in states that they
-- cannot tell apart.
structure System.Mirrors (alike : σ → σ → Prop) (count : Nat)
    (alone mixed : System S ε α σ) : Prop where
  clients : mixed.clients.take count = alone.clients
  alike : alike alone.state mixed.state

section Mirrors

variable {alike : σ → σ → Prop} {changes : (σ → σ) → Prop} {count : Nat}
  {alone mixed : System S ε α σ} {turn : Nat × Option (Fault ε)}

theorem System.Mirrors.own (h : alone.Mirrors alike count mixed)
    (hmixed : mixed.Confined kinds possible)
    (hsimulates : handler.Simulates (kinds turn.1) alike) (hlt : turn.1 < count) :
    (alone.step handler turn).Mirrors alike count (mixed.step handler turn) := by
  have hsame : alone.clients[turn.1]? = mixed.clients[turn.1]? := by
    rw [← h.clients, List.getElem?_take_of_lt hlt]
  by_cases hcall : ∃ (request : S.Call) (next : Except ε (S.Reply request) → Program S ε α),
      mixed.clients[turn.1]? = some (.call request next)
  · obtain ⟨request, next, hclient⟩ := hcall
    have hkind : kinds turn.1 request := (hmixed turn.1 _ hclient).1
    obtain ⟨houtcome, hstate⟩ := strike_alike hsimulates hkind turn.2 h.alike
    rw [System.step_call hclient, System.step_call (hsame.trans hclient)]
    refine ⟨?_, hstate⟩
    dsimp only
    rw [List.take_set, h.clients, houtcome]
  · have hidle (request : S.Call) (next : Except ε (S.Reply request) → Program S ε α) :
        mixed.clients[turn.1]? ≠ some (.call request next) :=
      fun hclient => hcall ⟨request, next, hclient⟩
    rw [System.step_idle hidle, System.step_idle (hsame ▸ hidle)]
    exact h

theorem System.Mirrors.other (h : alone.Mirrors alike count mixed)
    (hmixed : mixed.Confined kinds possible) (hunmoved : changes id)
    (hchanges : ∀ request, kinds turn.1 request → ∀ first second, alike first second →
      ∃ change, changes change ∧ alike (change first) (handler request second).2)
    (hle : count ≤ turn.1) :
    ∃ change, changes change ∧
      (alone.move handler (.inr change)).Mirrors alike count (mixed.step handler turn) := by
  by_cases hcall : ∃ (request : S.Call) (next : Except ε (S.Reply request) → Program S ε α),
      mixed.clients[turn.1]? = some (.call request next)
  · obtain ⟨request, next, hclient⟩ := hcall
    have hkind : kinds turn.1 request := (hmixed turn.1 _ hclient).1
    have hstruck : ∃ change, changes change ∧
        alike (change alone.state) (strike handler turn.2 request mixed.state).2 := by
      have hhandled := hchanges request hkind _ _ h.alike
      cases turn.2 with
      | none => exact hhandled
      | some struck =>
          cases heffect : struck.effect with
          | true => simpa [strike, heffect] using hhandled
          | false => exact ⟨id, hunmoved, by simpa [strike, heffect] using h.alike⟩
    obtain ⟨change, hchange, hstate⟩ := hstruck
    rw [System.step_call hclient]
    refine ⟨change, hchange, ?_, hstate⟩
    dsimp only [System.move]
    rw [List.take_set_of_le hle, h.clients]
  · have hidle (request : S.Call) (next : Except ε (S.Reply request) → Program S ε α) :
        mixed.clients[turn.1]? ≠ some (.call request next) :=
      fun hclient => hcall ⟨request, next, hclient⟩
    rw [System.step_idle hidle]
    exact ⟨id, hunmoved, h⟩

-- What some clients come to in a crowd they come to alone, as long as the others do
-- nothing to the state, as far as these can tell, but some changes.
theorem System.Mirrors.reduced (h : alone.Mirrors alike count mixed)
    (hmixed : mixed.Confined kinds possible)
    (hanswers : ∀ client, handler.Answers (kinds client) possible) (hunmoved : changes id)
    (hown : ∀ client < count, handler.Simulates (kinds client) alike)
    (hothers : ∀ client, count ≤ client → ∀ request, kinds client request →
      ∀ first second, alike first second →
        ∃ change, changes change ∧ alike (change first) (handler request second).2)
    (schedule : Schedule ε)
    (hfaults : ∀ turn ∈ schedule, ∀ fault ∈ turn.2,
      ∀ request, possible request (.error fault.error)) :
    ∃ moves, List.Forall₂ (Reduces count changes) schedule moves ∧
      (alone.runMoves handler moves).Mirrors alike count (mixed.runSchedule handler schedule) := by
  induction schedule generalizing alone mixed with
  | nil => exact ⟨[], .nil, h⟩
  | cons turn rest ih =>
      obtain ⟨hstep, -⟩ := hmixed.step hanswers (hfaults turn List.mem_cons_self)
      have hrest := fun later hmem => hfaults later (List.mem_cons_of_mem turn hmem)
      by_cases hlt : turn.1 < count
      · obtain ⟨moves, hmoves, hmirrors⟩ := ih (h.own hmixed (hown turn.1 hlt) hlt) hstep hrest
        exact ⟨.inl turn :: moves, .cons ⟨rfl, hlt⟩ hmoves, hmirrors⟩
      · have hle : count ≤ turn.1 := Nat.le_of_not_lt hlt
        obtain ⟨change, hchange, hafter⟩ := h.other hmixed hunmoved (hothers turn.1 hle) hle
        obtain ⟨moves, hmoves, hmirrors⟩ := ih hafter hstep hrest
        exact ⟨.inr change :: moves, .cons ⟨hchange, hle⟩ hmoves, hmirrors⟩

end Mirrors

end Crowd

end Effect
