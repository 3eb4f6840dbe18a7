import MeridianS3.Effect.Program

namespace Effect

-- What a client may assume of the others and owes them. The ghost value is what
-- the client owns: the rely relation is what others may do while it owns that.
structure Protocol (S : Signature) (ε σ γ : Type) where
  faults : S.Call → Fault ε → Prop
  invariant : σ → Prop
  rely : γ → σ → σ → Prop
  guarantee : γ → γ → σ → σ → Prop

def Allowed {S : Signature} (faults : S.Call → Fault ε → Prop) (request : S.Call)
    (fault : Option (Fault ε)) : Prop :=
  ∀ actual ∈ fault, faults request actual

section Rules

variable {S : Signature} {ε α β σ γ : Type}
variable (handler : Handler S ε σ) (rules : Protocol S ε σ γ)

-- Every call keeps the invariant and the guarantee, whatever the others did
-- before it and however it fails, and the end satisfies the postcondition.
def Verified : Program S ε α → γ → σ → (Except ε α → γ → σ → Prop) → Prop
  | .done result, ghost, state, post => post result ghost state
  | .call request next, ghost, state, post =>
      ∀ before, rules.rely ghost state before → rules.invariant before →
        ∀ fault, Allowed rules.faults request fault →
          rules.invariant (strike handler fault request before).2 ∧
          ∃ owned, rules.guarantee ghost owned before (strike handler fault request before).2 ∧
            Verified (next (strike handler fault request before).1) owned
              (strike handler fault request before).2 post

variable {handler rules}

theorem Verified.done {result : Except ε α} {ghost : γ} {state : σ}
    {post : Except ε α → γ → σ → Prop} (h : post result ghost state) :
    Verified handler rules (.done result : Program S ε α) ghost state post := h

theorem Verified.mono {program : Program S ε α} {ghost : γ} {state : σ}
    {post weaker : Except ε α → γ → σ → Prop}
    (h : Verified handler rules program ghost state post)
    (himp : ∀ result owned after, post result owned after → weaker result owned after) :
    Verified handler rules program ghost state weaker := by
  induction program generalizing ghost state with
  | done result => exact himp _ _ _ h
  | call request next ih =>
      intro before hrely hinv fault hfault
      obtain ⟨hafter, owned, hguar, hrest⟩ := h before hrely hinv fault hfault
      exact ⟨hafter, owned, hguar, ih _ hrest⟩

theorem Verified.andThen {program : Program S ε α} {next : Except ε α → Program S ε β}
    {ghost : γ} {state : σ} {middle : Except ε α → γ → σ → Prop}
    {post : Except ε β → γ → σ → Prop}
    (h : Verified handler rules program ghost state middle)
    (hnext : ∀ result owned after, middle result owned after →
      Verified handler rules (next result) owned after post) :
    Verified handler rules (program.andThen next) ghost state post := by
  induction program generalizing ghost state with
  | done result => exact hnext _ _ _ h
  | call request rest ih =>
      intro before hrely hinv fault hfault
      obtain ⟨hafter, owned, hguar, hrest⟩ := h before hrely hinv fault hfault
      exact ⟨hafter, owned, hguar, ih _ hrest⟩

-- The middle assertion of a bind, or of a handled failure, is the rest of the proof.
theorem Verified.seq {program : Program S ε α} {next : α → Program S ε β} {ghost : γ} {state : σ}
    {post : Except ε β → γ → σ → Prop}
    (h : Verified handler rules program ghost state fun result owned after =>
      Verified handler rules (Program.onOk next result) owned after post) :
    Verified handler rules (program >>= next) ghost state post :=
  h.andThen fun _ _ _ hrest => hrest

theorem Verified.recover {program : Program S ε α} {handle : ε → Program S ε α} {ghost : γ}
    {state : σ} {post : Except ε α → γ → σ → Prop}
    (h : Verified handler rules program ghost state fun result owned after =>
      Verified handler rules (Program.onError handle result) owned after post) :
    Verified handler rules (tryCatch program handle) ghost state post :=
  h.andThen fun _ _ _ hrest => hrest

theorem Verified.mapResult {program : Program S ε α} {f : Except ε α → Except ε β} {ghost : γ}
    {state : σ} {post : Except ε β → γ → σ → Prop}
    (h : Verified handler rules program ghost state fun result owned after =>
      post (f result) owned after) :
    Verified handler rules (program.andThen fun result => .done (f result)) ghost state post :=
  h.andThen fun _ _ _ hpost => hpost

theorem Verified.map {program : Program S ε α} {f : α → β} {ghost : γ} {state : σ}
    {post : Except ε β → γ → σ → Prop}
    (h : Verified handler rules program ghost state fun result owned after =>
      post (result.map f) owned after) :
    Verified handler rules (f <$> program) ghost state post := by
  rw [Program.map_eq]
  apply h.andThen
  intro result owned after hpost
  cases result <;> exact hpost

theorem Verified.lift {result : Except ε α} {ghost : γ} {state : σ}
    {post : Except ε α → γ → σ → Prop} (h : post result ghost state) :
    Verified handler rules (Program.lift result : Program S ε α) ghost state post := h

-- A call: what it does unharmed, and what is left of it by each fault that may strike it.
theorem Verified.perform {request : S.Call} {ghost : γ} {state : σ}
    {post : Except ε (S.Reply request) → γ → σ → Prop}
    (hguar : ∀ before, rules.guarantee ghost ghost before before)
    (h : ∀ before, rules.rely ghost state before → rules.invariant before →
      rules.invariant (handler request before).2 ∧
      ∃ owned, rules.guarantee ghost owned before (handler request before).2 ∧
        post (handler request before).1 owned (handler request before).2 ∧
        ∀ fault, rules.faults request fault →
          if fault.effect then post (.error fault.error) owned (handler request before).2
          else post (.error fault.error) ghost before) :
    Verified handler rules (Program.perform request) ghost state post := by
  intro before hrely hinv fault hfault
  obtain ⟨hafter, owned, howned, hok, herror⟩ := h before hrely hinv
  cases fault with
  | none => exact ⟨hafter, owned, howned, hok⟩
  | some fault =>
      have hpost := herror fault (hfault fault rfl)
      rcases fault with ⟨error, effect⟩
      cases effect with
      | true => exact ⟨hafter, owned, howned, hpost⟩
      | false => exact ⟨hinv, ghost, hguar before, hpost⟩

-- A call that leaves the state alone.
theorem Verified.perform_read {request : S.Call} {ghost : γ} {state : σ}
    {post : Except ε (S.Reply request) → γ → σ → Prop}
    (hread : ∀ before, (handler request before).2 = before)
    (hguar : ∀ before, rules.guarantee ghost ghost before before)
    (hpost : ∀ before, rules.rely ghost state before → rules.invariant before →
      post (handler request before).1 ghost before ∧
      ∀ fault, rules.faults request fault → post (.error fault.error) ghost before) :
    Verified handler rules (Program.perform request) ghost state post := by
  apply Verified.perform hguar
  intro before hrely hinv
  obtain ⟨hok, herror⟩ := hpost before hrely hinv
  rw [hread]
  exact ⟨hinv, ghost, hguar before, hok, fun fault hfault => by
    simpa using herror fault hfault⟩

end Rules

-- One client at a time: nobody else moves the state.
section Sequential

variable {S : Signature} {ε α σ γ : Type} {handler : Handler S ε σ} {rules : Protocol S ε σ γ}

theorem allowed_of_struck {program : Program S ε α} {request : S.Call}
    {next : Except ε (S.Reply request) → Program S ε α} {plan : Plan ε} {state : σ}
    (he : program = .call request next)
    (hplan : ∀ call fault, (call, fault) ∈ program.struck handler plan state →
      rules.faults call fault) : Allowed rules.faults request plan.head?.join := by
  subst he
  intro fault hfault
  apply hplan
  simp only [Program.struck, List.mem_append]
  exact Or.inl (by simp [Option.mem_def.mp hfault])

theorem Verified.runFaulty {program : Program S ε α} {ghost : γ} {state : σ}
    {post : Except ε α → γ → σ → Prop}
    (h : Verified handler rules program ghost state post)
    (hrely : ∀ owned before, rules.rely owned before before) (hinv : rules.invariant state)
    (plan : Plan ε)
    (hplan : ∀ call fault, (call, fault) ∈ program.struck handler plan state →
      rules.faults call fault) :
    rules.invariant (program.runFaulty handler plan state).2 ∧
    ∃ owned, post (program.runFaulty handler plan state).1 owned
      (program.runFaulty handler plan state).2 := by
  induction program generalizing ghost state plan with
  | done result => exact ⟨hinv, ghost, h⟩
  | call request next ih =>
      rw [runFaulty_call]
      obtain ⟨hafter, owned, hguar, hrest⟩ :=
        h state (hrely ghost state) hinv _ (allowed_of_struck rfl hplan)
      exact ih _ hrest hafter plan.tail fun call fault hf =>
        hplan call fault (List.mem_append_right _ hf)

-- With a transitive relation as guarantee, the whole run keeps it.
theorem Verified.runFaulty_related {program : Program S ε α} {ghost : γ} {state : σ}
    {post : Except ε α → γ → σ → Prop} (related : σ → σ → Prop)
    (hrefl : ∀ before, related before before)
    (htrans : ∀ first second third, related first second → related second third →
      related first third)
    (hrelated : ∀ ghost owned before after, rules.guarantee ghost owned before after →
      related before after)
    (h : Verified handler rules program ghost state post)
    (hrely : ∀ owned before, rules.rely owned before before) (hinv : rules.invariant state)
    (plan : Plan ε)
    (hplan : ∀ call fault, (call, fault) ∈ program.struck handler plan state →
      rules.faults call fault) :
    related state (program.runFaulty handler plan state).2 := by
  induction program generalizing ghost state plan with
  | done result => exact hrefl state
  | call request next ih =>
      rw [runFaulty_call]
      obtain ⟨hafter, owned, hguar, hrest⟩ :=
        h state (hrely ghost state) hinv _ (allowed_of_struck rfl hplan)
      exact htrans _ _ _ (hrelated _ _ _ _ hguar)
        (ih _ hrest hafter plan.tail fun call fault hf =>
          hplan call fault (List.mem_append_right _ hf))

-- Without faults nothing strikes.
theorem Verified.run {program : Program S ε α} {ghost : γ} {state : σ}
    {post : Except ε α → γ → σ → Prop}
    (h : Verified handler rules program ghost state post)
    (hrely : ∀ owned before, rules.rely owned before before) (hinv : rules.invariant state) :
    rules.invariant (program.run handler state).2 ∧
    ∃ owned, post (program.run handler state).1 owned (program.run handler state).2 := by
  rw [← runFaulty_nil]
  exact h.runFaulty hrely hinv [] fun call fault hf => by simp [struck_nil] at hf

end Sequential

end Effect
