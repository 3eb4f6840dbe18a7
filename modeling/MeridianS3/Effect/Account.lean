import MeridianS3.Effect.Path

namespace Effect

section Account

variable {S : Signature} {ε α σ : Type}

namespace Program

-- The calls of a run with their outcomes, and whether each one took effect: the handler
-- carried it out, and a fault that struck it did so afterwards.
def account (handler : Handler S ε σ) :
    Program S ε α → Plan ε → σ → List (Event S ε × Bool)
  | .done _, _, _ => []
  | .call request next, plan, state =>
      let fault := plan.head?.join
      let outcome := strike handler fault request state
      (⟨request, outcome.1⟩, (handler request state).1.isOk && fault.all Fault.effect) ::
        account handler (next outcome.1) plan.tail outcome.2

variable (handler : Handler S ε σ) (program : Program S ε α) (plan : Plan ε) (state : σ)

theorem account_path :
    program.Path ((program.account handler plan state).map Prod.fst)
      (program.runFaulty handler plan state).1 := by
  induction program generalizing plan state with
  | done result => exact .done result
  | call request next ih =>
      rw [runFaulty_call]
      exact .call (ih _ _ _)

-- A call that has returned has taken effect.
theorem account_returned {entry : Event S ε × Bool}
    (h : entry ∈ program.account handler plan state) (hok : entry.1.2.isOk = true) :
    entry.2 = true := by
  induction program generalizing plan state with
  | done result => exact absurd h List.not_mem_nil
  | call request next ih =>
      rcases List.mem_cons.mp h with rfl | h
      · dsimp only at hok ⊢
        cases hfault : plan.head?.join with
        | none =>
            rw [hfault, strike_none] at hok
            rw [hok]
            rfl
        | some fault =>
            rw [hfault] at hok
            cases hok
      · exact ih _ _ _ h

end Program

end Account

end Effect
