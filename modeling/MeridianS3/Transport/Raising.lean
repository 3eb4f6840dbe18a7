import MeridianS3.Effect.Confined
import MeridianS3.Transport

namespace MeridianS3

open Effect Json

-- An outcome of a call as the SDK has it: its errors are the SDK's own.
def Answered {α : Type} (outcome : Except Failure α) : Prop :=
  ∀ failure, outcome = .error failure → ∃ error, failure.cause = .sdk error

-- Whatever the SDK answers, a program raises only such failures.
def Raising (raised : Failure → Prop) {α : Type} (program : S3M α) : Prop :=
  program.Confined (fun _ => True) (fun _ outcome => Answered outcome)
    fun result => ∀ failure, result = .error failure → raised failure

section Raising

variable {raised inner : Failure → Prop} {α β : Type}

theorem Raising.mono {program : S3M α} (h : Raising inner program)
    (himp : ∀ failure, inner failure → raised failure) : Raising raised program := by
  apply Program.Confined.mono h
  intro result hresult failure hfailure
  exact himp failure (hresult failure hfailure)

theorem Raising.ofPure (value : α) : Raising raised (pure value) := by
  intro failure h
  cases h

theorem Raising.ofThrow {failure : Failure} (h : raised failure) :
    Raising raised (throw failure : S3M α) := by
  intro thrown hthrown
  cases hthrown
  exact h

theorem Raising.ofLift {result : Except Failure α}
    (h : ∀ failure, result = .error failure → raised failure) :
    Raising raised (Program.lift result) := h

theorem Raising.bind {program : S3M α} {next : α → S3M β} (h : Raising raised program)
    (hnext : ∀ value, Raising raised (next value)) : Raising raised (program >>= next) := by
  apply Program.Confined.bind h
  · intro value _
    exact hnext value
  · intro error herror failure hfailure
    cases hfailure
    exact herror error rfl

theorem Raising.lift_bind {result : Except Failure α} {next : α → S3M β}
    (h : ∀ failure, result = .error failure → raised failure)
    (hnext : ∀ value, result = .ok value → Raising raised (next value)) :
    Raising raised (Program.lift result >>= next) := by
  apply Program.Confined.lift_bind hnext
  intro error herror failure hfailure
  cases hfailure
  exact h error herror

theorem Raising.recover {program : S3M α} {handle : Failure → S3M α}
    (h : Raising inner program) (hnext : ∀ failure, inner failure → Raising raised (handle failure)) :
    Raising raised (tryCatch program handle) := by
  apply Program.Confined.recover h
  · intro value _ failure hfailure
    cases hfailure
  · intro error herror
    exact hnext error (herror error rfl)

theorem Raising.perform (hsdk : ∀ failure error, failure.cause = .sdk error → raised failure)
    (request : S3Call) : Raising raised (Program.perform (S := S3) request) := by
  apply (Program.Confined.perform trivial).mono
  intro result hanswered failure hfailure
  obtain ⟨error, hcause⟩ := hanswered failure hfailure
  exact hsdk failure error hcause

theorem Raising.normalized {program : S3M α} {operation : String} {sensitive : Bool}
    (h : Raising inner program)
    (himp : ∀ failure, inner failure →
      raised (raiseNormalizedS3Error failure operation sensitive)) :
    Raising raised (normalized operation sensitive program) := by
  apply Raising.recover h
  intro failure hfailure
  exact .ofThrow (himp failure hfailure)

end Raising

end MeridianS3
