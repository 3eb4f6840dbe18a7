import MeridianS3.Effect.Path
import MeridianS3.Effect.Reading

namespace Effect

section Confined

variable {S : Signature} {ε α β σ : Type}

namespace Program

-- Every call is of the given kind, as long as the outcomes so far were possible ones, and
-- the result satisfies the last condition.
def Confined (kind : S.Call → Prop)
    (possible : (request : S.Call) → Except ε (S.Reply request) → Prop) :
    Program S ε α → (Except ε α → Prop) → Prop
  | .done result, post => post result
  | .call request next, post =>
      kind request ∧
        ∀ outcome, possible request outcome → (next outcome).Confined kind possible post

variable {kind : S.Call → Prop}
  {possible : (request : S.Call) → Except ε (S.Reply request) → Prop}

theorem Confined.mono {program : Program S ε α} {post weaker : Except ε α → Prop}
    (h : program.Confined kind possible post) (himp : ∀ result, post result → weaker result) :
    program.Confined kind possible weaker := by
  induction program with
  | done result => exact himp result h
  | call request next ih =>
      exact ⟨h.1, fun outcome houtcome => ih outcome (h.2 outcome houtcome)⟩

theorem Confined.andThen {program : Program S ε α} {next : Except ε α → Program S ε β}
    {middle : Except ε α → Prop} {post : Except ε β → Prop}
    (h : program.Confined kind possible middle)
    (hnext : ∀ result, middle result → (next result).Confined kind possible post) :
    (program.andThen next).Confined kind possible post := by
  induction program with
  | done result => exact hnext result h
  | call request rest ih =>
      exact ⟨h.1, fun outcome houtcome => ih outcome (h.2 outcome houtcome)⟩

theorem Confined.bind {program : Program S ε α} {next : α → Program S ε β}
    {middle : Except ε α → Prop} {post : Except ε β → Prop}
    (h : program.Confined kind possible middle)
    (hok : ∀ value, middle (.ok value) → (next value).Confined kind possible post)
    (herror : ∀ error, middle (.error error) → post (.error error)) :
    (program >>= next).Confined kind possible post := by
  apply h.andThen
  intro result hresult
  cases result with
  | ok value => exact hok value hresult
  | error error => exact herror error hresult

theorem Confined.recover {program : Program S ε α} {handle : ε → Program S ε α}
    {middle post : Except ε α → Prop} (h : program.Confined kind possible middle)
    (hok : ∀ value, middle (.ok value) → post (.ok value))
    (herror : ∀ error, middle (.error error) → (handle error).Confined kind possible post) :
    (tryCatch program handle).Confined kind possible post := by
  apply h.andThen
  intro result hresult
  cases result with
  | ok value => exact hok value hresult
  | error error => exact herror error hresult

theorem Confined.map {program : Program S ε α} {f : α → β} {middle : Except ε α → Prop}
    {post : Except ε β → Prop} (h : program.Confined kind possible middle)
    (hok : ∀ value, middle (.ok value) → post (.ok (f value)))
    (herror : ∀ error, middle (.error error) → post (.error error)) :
    (f <$> program).Confined kind possible post := by
  apply h.andThen
  intro result hresult
  cases result with
  | ok value => exact hok value hresult
  | error error => exact herror error hresult

theorem Confined.lift {result : Except ε α} {post : Except ε α → Prop} (h : post result) :
    (Program.lift result : Program S ε α).Confined kind possible post := h

theorem Confined.lift_bind {result : Except ε α} {next : α → Program S ε β}
    {post : Except ε β → Prop}
    (hok : ∀ value, result = .ok value → (next value).Confined kind possible post)
    (herror : ∀ error, result = .error error → post (.error error)) :
    (Program.lift result >>= next).Confined kind possible post := by
  cases result with
  | ok value => exact hok value rfl
  | error error => exact herror error rfl

theorem Confined.perform {request : S.Call} (h : kind request) :
    (perform request : Program S ε _).Confined kind possible (possible request) :=
  ⟨h, fun _ houtcome => houtcome⟩

theorem Confined.any (program : Program S ε α) :
    program.Confined (fun _ => True) (fun _ _ => True) fun _ => True := by
  induction program with
  | done result => trivial
  | call request next ih => exact ⟨trivial, fun outcome _ => ih outcome⟩

-- What a path of a confined program can be.
theorem Confined.path {program : Program S ε α} {post : Except ε α → Prop}
    (h : program.Confined kind possible post) {events : List (Event S ε)} {result : Except ε α}
    (path : program.Path events result) (hpossible : ∀ event ∈ events, possible event.1 event.2) :
    (∀ event ∈ events, kind event.1) ∧ post result := by
  induction path with
  | done result => exact ⟨fun _ hmem => absurd hmem List.not_mem_nil, h⟩
  | @call request next outcome events result rest ih =>
      obtain ⟨hrest, hpost⟩ := ih (h.2 outcome (hpossible _ List.mem_cons_self))
        fun event hmem => hpossible event (List.mem_cons_of_mem _ hmem)
      refine ⟨?_, hpost⟩
      intro event hmem
      rcases List.mem_cons.mp hmem with rfl | hmem
      · exact h.1
      · exact hrest event hmem

theorem Within.confined {program : Program S ε α} (h : program.Within kind) :
    program.Confined kind possible fun _ => True := by
  induction program with
  | done result => trivial
  | call request next ih => exact ⟨h.1, fun outcome _ => ih outcome (h.2 outcome)⟩

theorem Within.path {program : Program S ε α} (h : program.Within kind)
    {events : List (Event S ε)} {result : Except ε α} (path : program.Path events result) :
    ∀ event ∈ events, kind event.1 := by
  induction path with
  | done result => exact fun _ hmem => absurd hmem List.not_mem_nil
  | @call request next outcome events result rest ih =>
      intro event hmem
      rcases List.mem_cons.mp hmem with rfl | hmem
      · exact h.1
      · exact ih (h.2 outcome) event hmem

end Program

variable {handler : Handler S ε σ} {kind : S.Call → Prop}
  {possible : (request : S.Call) → Except ε (S.Reply request) → Prop}

-- What a handler answers to the calls of a kind is possible.
def Handler.Answers (handler : Handler S ε σ) (kind : S.Call → Prop)
    (possible : (request : S.Call) → Except ε (S.Reply request) → Prop) : Prop :=
  ∀ request, kind request → ∀ state, possible request (handler request state).1

-- Two states between which the calls of a kind see no difference, nor make one.
structure Handler.Simulates (handler : Handler S ε σ) (kind : S.Call → Prop)
    (alike : σ → σ → Prop) : Prop where
  outcome : ∀ request, kind request → ∀ first second, alike first second →
    (handler request second).1 = (handler request first).1
  state : ∀ request, kind request → ∀ first second, alike first second →
    alike (handler request first).2 (handler request second).2

theorem strike_possible (hanswers : handler.Answers kind possible) {request : S.Call}
    (hkind : kind request) {fault : Option (Fault ε)}
    (hfault : ∀ struck ∈ fault, possible request (.error struck.error)) (state : σ) :
    possible request (strike handler fault request state).1 := by
  cases fault with
  | none => exact hanswers request hkind state
  | some struck => exact hfault struck rfl

theorem strike_alike {alike : σ → σ → Prop} (hsimulates : handler.Simulates kind alike)
    {request : S.Call} (hkind : kind request) (fault : Option (Fault ε)) {first second : σ}
    (halike : alike first second) :
    (strike handler fault request second).1 = (strike handler fault request first).1 ∧
      alike (strike handler fault request first).2 (strike handler fault request second).2 := by
  cases fault with
  | none =>
      exact ⟨hsimulates.outcome request hkind _ _ halike,
        hsimulates.state request hkind _ _ halike⟩
  | some struck =>
      refine ⟨rfl, ?_⟩
      cases heffect : struck.effect with
      | true => simpa [strike, heffect] using hsimulates.state request hkind _ _ halike
      | false => simpa [strike, heffect] using halike

-- The errors of a plan are possible outcomes of any call.
def Plan.Possible (plan : Plan ε)
    (possible : (request : S.Call) → Except ε (S.Reply request) → Prop) : Prop :=
  ∀ fault, some fault ∈ plan → ∀ request, possible request (.error fault.error)

theorem Plan.Possible.head {plan : Plan ε} (h : plan.Possible possible) (request : S.Call) :
    ∀ struck ∈ plan.head?.join, possible request (.error struck.error) := by
  intro struck hstruck
  cases plan with
  | nil => cases hstruck
  | cons fault rest =>
      have hfault : fault = some struck := hstruck
      exact h struck (by simp [hfault]) request

theorem Plan.Possible.tail {plan : Plan ε} (h : plan.Possible possible) :
    Plan.Possible plan.tail possible :=
  fun fault hmem => h fault (List.mem_of_mem_tail hmem)

-- A confined run sees no difference between two alike states.
theorem Program.Confined.runFaulty_alike {alike : σ → σ → Prop} {program : Program S ε α}
    {post : Except ε α → Prop} (h : program.Confined kind possible post)
    (hanswers : handler.Answers kind possible) (hsimulates : handler.Simulates kind alike)
    {plan : Plan ε} (hplan : plan.Possible possible) {first second : σ}
    (halike : alike first second) :
    (program.runFaulty handler plan second).1 = (program.runFaulty handler plan first).1 ∧
      alike (program.runFaulty handler plan first).2
        (program.runFaulty handler plan second).2 := by
  induction program generalizing plan first second with
  | done result => exact ⟨rfl, halike⟩
  | call request next ih =>
      obtain ⟨houtcome, hstate⟩ := strike_alike hsimulates h.1 plan.head?.join halike
      simp only [runFaulty_call, houtcome]
      exact ih _ (h.2 _ (strike_possible hanswers h.1 (hplan.head request) first)) hplan.tail
        hstate

-- What the calls of a kind keep, a confined run keeps.
theorem Program.Confined.runFaulty_kept {kept : σ → σ → Prop} {program : Program S ε α}
    {post : Except ε α → Prop} (h : program.Confined kind possible post)
    (hanswers : handler.Answers kind possible) (hrefl : ∀ state, kept state state)
    (htrans : ∀ first second third, kept first second → kept second third → kept first third)
    (hkept : ∀ request, kind request → ∀ state, kept state (handler request state).2)
    {plan : Plan ε} (hplan : plan.Possible possible) (state : σ) :
    kept state (program.runFaulty handler plan state).2 ∧
      post (program.runFaulty handler plan state).1 := by
  induction program generalizing plan state with
  | done result => exact ⟨hrefl state, h⟩
  | call request next ih =>
      rw [runFaulty_call]
      have hstruck : kept state (strike handler plan.head?.join request state).2 := by
        cases plan.head?.join with
        | none => exact hkept request h.1 state
        | some struck =>
            cases heffect : struck.effect with
            | true => simpa [strike, heffect] using hkept request h.1 state
            | false => simpa [strike, heffect] using hrefl state
      obtain ⟨hrest, hpost⟩ := ih _
        (h.2 _ (strike_possible hanswers h.1 (hplan.head request) state)) hplan.tail
        (strike handler plan.head?.join request state).2
      exact ⟨htrans _ _ _ hstruck hrest, hpost⟩

end Confined

end Effect
