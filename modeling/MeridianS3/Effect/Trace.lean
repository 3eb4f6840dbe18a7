import MeridianS3.Effect.Reading

namespace Effect

variable {S : Signature} {ε α β σ : Type}

namespace Program

-- The calls that an undisturbed run makes, in order.
def trace (handler : Handler S ε σ) : Program S ε α → σ → List S.Call
  | .done _, _ => []
  | .call request next, state =>
      request :: trace handler (next (handler request state).1) (handler request state).2

@[simp] theorem trace_perform (handler : Handler S ε σ) (request : S.Call) (state : σ) :
    trace handler (perform request) state = [request] := rfl

@[simp] theorem trace_lift (handler : Handler S ε σ) (result : Except ε α) (state : σ) :
    trace handler (lift result) state = [] := rfl

theorem trace_andThen (handler : Handler S ε σ) (program : Program S ε α)
    (next : Except ε α → Program S ε β) (state : σ) :
    trace handler (program.andThen next) state = trace handler program state ++
      trace handler (next (run handler program state).1) (run handler program state).2 := by
  induction program generalizing state with
  | done result => rfl
  | call request rest ih => exact congrArg (request :: ·) (ih _ _)

theorem trace_tryCatch (handler : Handler S ε σ) (program : Program S ε α)
    (recover : ε → Program S ε α) (state : σ) :
    trace handler (tryCatch program recover) state = trace handler program state ++
      trace handler (onError recover (run handler program state).1)
        (run handler program state).2 :=
  trace_andThen handler program (onError recover) state

theorem mem_trace_first {handler : Handler S ε σ} {program : Program S ε α}
    {next : Except ε α → Program S ε β} {state : σ} {call : S.Call}
    (h : call ∈ trace handler program state) :
    call ∈ trace handler (program.andThen next) state := by
  rw [trace_andThen]
  exact List.mem_append_left _ h

-- The second half of a bind makes its calls where the first half has come to.
theorem mem_trace_bind {handler : Handler S ε σ} {program : Program S ε α}
    {next : α → Program S ε β} {state after : σ} {value : α} {call : S.Call}
    (hrun : run handler program state = (.ok value, after))
    (h : call ∈ trace handler (next value) after) :
    call ∈ trace handler (program >>= next) state := by
  rw [bind_eq, trace_andThen, hrun]
  exact List.mem_append_right _ h

theorem mem_trace_bind_first {handler : Handler S ε σ} {program : Program S ε α}
    {next : α → Program S ε β} {state : σ} {call : S.Call}
    (h : call ∈ trace handler program state) :
    call ∈ trace handler (program >>= next) state := mem_trace_first h

-- An undisturbed run makes calls of one kind only.
def Traced (handler : Handler S ε σ) (program : Program S ε α) (state : σ)
    (kind : S.Call → Prop) : Prop :=
  ∀ call ∈ trace handler program state, kind call

theorem Traced.ofLift (handler : Handler S ε σ) (result : Except ε α) (state : σ)
    (kind : S.Call → Prop) : (lift result).Traced handler state kind :=
  fun _ hcall => absurd hcall List.not_mem_nil

theorem Traced.bind {handler : Handler S ε σ} {program : Program S ε α}
    {next : α → Program S ε β} {state after : σ} {value : α} {kind : S.Call → Prop}
    (hfirst : program.Traced handler state kind)
    (hrun : run handler program state = (.ok value, after))
    (hnext : (next value).Traced handler after kind) :
    (program >>= next).Traced handler state kind := by
  intro call hcall
  rw [bind_eq, trace_andThen, hrun] at hcall
  exact (List.mem_append.mp hcall).elim (hfirst call) (hnext call)

theorem Traced.recover {handler : Handler S ε σ} {program : Program S ε α}
    {handle : ε → Program S ε α} {state after : σ} {value : α} {kind : S.Call → Prop}
    (hfirst : program.Traced handler state kind)
    (hrun : run handler program state = (.ok value, after)) :
    (tryCatch program handle).Traced handler state kind := by
  intro call hcall
  rw [trace_tryCatch, hrun] at hcall
  exact (List.mem_append.mp hcall).elim (hfirst call) fun hnil => absurd hnil List.not_mem_nil

theorem Within.traced {program : Program S ε α} {kind weaker : S.Call → Prop}
    (h : program.Within kind) (hkind : ∀ call, kind call → weaker call) (handler : Handler S ε σ)
    (state : σ) : program.Traced handler state weaker := by
  induction program generalizing state with
  | done result => exact fun _ hcall => absurd hcall List.not_mem_nil
  | call request next ih =>
      intro call hcall
      rcases List.mem_cons.mp hcall with rfl | hcall
      · exact hkind _ h.1
      · exact ih _ (h.2 _) _ call hcall

-- Any one of these calls can be the only one that a fault strikes.
theorem exists_struck {handler : Handler S ε σ} {program : Program S ε α} {state : σ}
    {call : S.Call} (h : call ∈ trace handler program state) (fault : Fault ε) :
    ∃ plan, program.struck handler plan state = [(call, fault)] := by
  induction program generalizing state with
  | done result => exact absurd h List.not_mem_nil
  | call request next ih =>
      rcases List.mem_cons.mp h with rfl | hrest
      · refine ⟨[some fault], ?_⟩
        simp only [struck, List.head?_cons, Option.join_some, List.tail_cons, Option.map_some,
          Option.toList_some, struck_nil, List.append_nil]
      · obtain ⟨plan, hplan⟩ := ih _ hrest
        exact ⟨none :: plan, hplan⟩

end Program

end Effect
