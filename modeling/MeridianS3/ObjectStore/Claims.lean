import Mathlib.Data.Set.Lattice
import Mathlib.Order.CompletePartialOrder
import MeridianS3.Effect.Interleaving
import MeridianS3.ObjectStore.Theorems

namespace ObjectStore

open Effect

variable {S : Signature} {ε κ μ β α : Type} [LinearOrder κ]

-- What is stored stays as it is.
def Grows (before after : Store κ μ β) : Prop :=
  ∀ key object, before.current key = some object → after.current key = some object

theorem Grows.refl (store : Store κ μ β) : Grows store store := fun _ _ h => h

theorem Grows.trans {first second third : Store κ μ β} (h : Grows first second)
    (hnext : Grows second third) : Grows first third := fun key object hcurrent =>
  hnext key object (h key object hcurrent)

theorem Grows.isSome {before after : Store κ μ β} (h : Grows before after) {key : κ}
    (hcurrent : (before.current key).isSome = true) : (after.current key).isSome = true := by
  obtain ⟨object, hobject⟩ := Option.isSome_iff_exists.mp hcurrent
  rw [h key object hobject]
  rfl

-- A write to a free key.
theorem Grows.put {store : Store κ μ β} {key : κ} (h : store.current key = none)
    (object : Object μ β) : Grows store (store.put key object) := by
  intro other stored hstored
  have hne : other ≠ key := by
    rintro rfl
    rw [h] at hstored
    cases hstored
  rw [Store.current_congr (Store.put_entries_of_ne _ hne _)]
  exact hstored

-- Clients that write to free keys only. A client owns the keys that it has written.
def claiming (S : Signature) (ε κ μ β : Type) [LinearOrder κ] :
    Protocol S ε (Store κ μ β) (Set κ) where
  faults _ _ := True
  invariant _ := True
  rely _ := Grows
  guarantee claimed held before after := Grows before after ∧ ∀ key ∈ held,
    key ∈ claimed ∨ before.current key = none ∧ (after.current key).isSome = true

def ownsKeys (claimed : Set κ) (store : Store κ μ β) : Prop :=
  ∀ key ∈ claimed, (store.current key).isSome = true

theorem claiming_refl (claimed : Set κ) (store : Store κ μ β) :
    (claiming S ε κ μ β).guarantee claimed claimed store store :=
  ⟨.refl store, fun _ hkey => Or.inl hkey⟩

theorem claiming_composes : (claiming S ε κ μ β).Composes Disjoint ownsKeys where
  rely_refl _ store := .refl store
  rely_trans _ _ _ _ h hnext := h.trans hnext
  guarantee_owns := by
    rintro claimed held before after howns ⟨hgrows, hheld⟩ key hkey
    rcases hheld key hkey with hold | ⟨-, hnew⟩
    · exact hgrows.isSome (howns key hold)
    · exact hnew
  guarantee_rely := by
    rintro claimed held other before after ⟨hgrows, hheld⟩ howns hapart
    refine ⟨hgrows, fun key hkey => hgrows.isSome (howns key hkey), ?_⟩
    apply Set.disjoint_left.mpr
    intro key hkey hother
    rcases hheld key hkey with hold | ⟨hfree, -⟩
    · exact Set.disjoint_left.mp hapart hold hother
    · simpa [hfree] using howns key hother
  apart_symm _ _ h := h.symm

section Rules

variable {handler : Handler S ε (Store κ μ β)} {claimed : Set κ} {state : Store κ μ β}
variable {request : S.Call} {post : Except ε (S.Reply request) → Set κ → Store κ μ β → Prop}

theorem claiming_read (hread : ∀ before, (handler request before).2 = before)
    (h : ∀ before, Grows state before → post (handler request before).1 claimed before ∧
      ∀ fault : Fault ε, post (.error fault.error) claimed before) :
    Verified handler (claiming S ε κ μ β) (Program.perform request) claimed state post :=
  Verified.perform_read hread (claiming_refl claimed) fun before hgrows _ =>
    ⟨(h before hgrows).1, fun fault _ => (h before hgrows).2 fault⟩

-- A conditional write is refused, or it claims its key.
theorem claiming_create {key : κ}
    (h : ∀ before, Grows state before →
      (handler request before).2 = before ∧ post (handler request before).1 claimed before ∧
        (∀ fault : Fault ε, post (.error fault.error) claimed before) ∨
      before.current key = none ∧ (∃ object, (handler request before).2 = before.put key object) ∧
        post (handler request before).1 (insert key claimed) (handler request before).2 ∧
        ∀ fault : Fault ε, if fault.effect
          then post (.error fault.error) (insert key claimed) (handler request before).2
          else post (.error fault.error) claimed before) :
    Verified handler (claiming S ε κ μ β) (Program.perform request) claimed state post := by
  apply Verified.perform (claiming_refl claimed)
  intro before hgrows _
  refine ⟨trivial, ?_⟩
  rcases h before hgrows with ⟨hsame, hok, hfault⟩ | ⟨hfree, ⟨object, hput⟩, hok, hfault⟩
  · refine ⟨claimed, ?_, by rwa [hsame], fun fault _ => ?_⟩
    · rw [hsame]
      exact claiming_refl claimed before
    · rw [hsame, ite_self]
      exact hfault fault
  · refine ⟨insert key claimed, ⟨?_, ?_⟩, hok, fun fault _ => hfault fault⟩
    · rw [hput]
      exact .put hfree object
    · rintro other (rfl | hother)
      · exact Or.inr ⟨hfree, by rw [hput, Store.put_current_self]; rfl⟩
      · exact Or.inl hother

end Rules

end ObjectStore
