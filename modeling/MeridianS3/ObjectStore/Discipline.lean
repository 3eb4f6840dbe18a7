import Mathlib.Data.Set.Lattice
import Mathlib.Order.CompletePartialOrder
import MeridianS3.Effect.Interleaving
import MeridianS3.Effect.Reading
import MeridianS3.ObjectStore.Theorems
import Mathlib.Data.Set.Insert

namespace ObjectStore

open Effect

variable {κ μ β : Type} [LinearOrder κ]

-- Stores that differ at most in their open uploads.
structure SameObjects (before after : Store κ μ β) : Prop where
  versioned : after.versioned = before.versioned
  entries : after.entries = before.entries
  keys : after.keys = before.keys
  issued : after.issued = before.issued

namespace SameObjects

variable {first second third : Store κ μ β}

theorem refl (store : Store κ μ β) : SameObjects store store := ⟨rfl, rfl, rfl, rfl⟩

theorem symm (h : SameObjects first second) : SameObjects second first :=
  ⟨h.versioned.symm, h.entries.symm, h.keys.symm, h.issued.symm⟩

theorem trans (h : SameObjects first second) (hnext : SameObjects second third) :
    SameObjects first third :=
  ⟨hnext.versioned.trans h.versioned, hnext.entries.trans h.entries, hnext.keys.trans h.keys,
    hnext.issued.trans h.issued⟩

theorem head (h : SameObjects first second) (key : κ) : second.head key = first.head key := by
  simp [Store.head, h.entries]

theorem current (h : SameObjects first second) (key : κ) :
    second.current key = first.current key := by
  simp [Store.current, h.head]

theorem listed (h : SameObjects first second) (selects : κ → Bool) (startAfter : Option κ) :
    second.listed selects startAfter = first.listed selects startAfter := by
  simp only [Store.listed, h.keys, h.current]

theorem put (h : SameObjects first second) (key : κ) (object : Object μ β) :
    SameObjects (first.put key object) (second.put key object) := by
  constructor
  · exact h.versioned
  · simp only [Store.put, Store.push, h.issued, h.versioned, h.entries]
  · simp only [Store.put, Store.push, h.keys]
  · simp only [Store.put, Store.push, h.issued]

theorem delete (h : SameObjects first second) (key : κ) (id : Option Nat) :
    SameObjects (first.delete key id) (second.delete key id) := by
  have hdiscard (keep : Entry μ β → Bool) :
      SameObjects (first.discard key keep) (second.discard key keep) :=
    ⟨h.versioned, by simp only [Store.discard, h.entries], h.keys, h.issued⟩
  cases id with
  | some id => exact hdiscard _
  | none =>
      simp only [Store.delete, h.versioned]
      split
      · constructor
        · exact h.versioned
        · simp only [Store.push, h.issued, h.versioned, h.entries]
        · simp only [Store.push, h.keys]
        · simp only [Store.push, h.issued]
      · exact hdiscard _

-- Without versions a second deletion finds nothing to remove.
theorem delete_again {store : Store κ μ β} (h : store.versioned = false) (key : κ) :
    SameObjects (store.delete key none) ((store.delete key none).delete key none) := by
  have hdelete (current : Store κ μ β) (hcurrent : current.versioned = false) :
      current.delete key none = current.discard key fun _ => false := by
    simp [Store.delete, hcurrent]
  rw [hdelete store h, hdelete (store.discard key fun _ => false) h]
  exact ⟨rfl, by simp [Store.discard], rfl, rfl⟩

theorem openSession (store : Store κ μ β) (key : κ) (header : μ) :
    SameObjects store (store.openSession key header) := ⟨rfl, rfl, rfl, rfl⟩

theorem addPart (store : Store κ μ β) (upload number : Nat) (body : List β) :
    SameObjects store (store.addPart upload number body) := by
  unfold Store.addPart
  split <;> exact ⟨rfl, rfl, rfl, rfl⟩

theorem closeSession (store : Store κ μ β) (upload : Nat) :
    SameObjects store (store.closeSession upload) := by
  unfold Store.closeSession
  split <;> exact ⟨rfl, rfl, rfl, rfl⟩

end SameObjects

-- The others leave the uploads of a client alone.
structure UploadsKept (owned : Set Nat) (before after : Store κ μ β) : Prop where
  opened_le : before.opened ≤ after.opened
  kept : ∀ upload ∈ owned, after.sessions upload = before.sessions upload

-- A client moves its own uploads only, and comes to own those that it opens.
structure UploadsMoved (owned held : Set Nat) (before after : Store κ μ β) : Prop where
  opened_le : before.opened ≤ after.opened
  others : ∀ upload < before.opened, upload ∉ owned →
    after.sessions upload = before.sessions upload
  fresh : ∀ upload ∈ held, upload ∈ owned ∨ before.opened ≤ upload ∧ upload < after.opened

def ownsUploads (owned : Set Nat) (store : Store κ μ β) : Prop :=
  ∀ upload ∈ owned, upload < store.opened

theorem UploadsKept.refl (owned : Set Nat) (store : Store κ μ β) :
    UploadsKept owned store store := ⟨le_rfl, fun _ _ => rfl⟩

theorem UploadsKept.trans {owned : Set Nat} {first second third : Store κ μ β}
    (h : UploadsKept owned first second) (hnext : UploadsKept owned second third) :
    UploadsKept owned first third :=
  ⟨h.opened_le.trans hnext.opened_le, fun upload hm =>
    (hnext.kept upload hm).trans (h.kept upload hm)⟩

theorem UploadsMoved.same (owned : Set Nat) {before after : Store κ μ β}
    (hopened : after.opened = before.opened) (hsessions : after.sessions = before.sessions) :
    UploadsMoved owned owned before after :=
  ⟨hopened.ge, fun upload _ _ => by rw [hsessions], fun _ h => Or.inl h⟩

theorem UploadsMoved.refl (owned : Set Nat) (store : Store κ μ β) :
    UploadsMoved owned owned store store := .same owned rfl rfl

-- What a client may rely on when others use the store too, and what it does to the
-- objects itself. Both are indifferent to open uploads.
structure Discipline (S : Signature) (ε κ μ β : Type) [LinearOrder κ] where
  faults : S.Call → Fault ε → Prop
  invariant : Store κ μ β → Prop
  others : Store κ μ β → Store κ μ β → Prop
  own : Store κ μ β → Store κ μ β → Prop
  invariant_same : ∀ before after, SameObjects before after → invariant before → invariant after
  others_same : ∀ before after, SameObjects before after → others before after
  others_trans : ∀ first second third, others first second → others second third →
    others first third
  own_same : ∀ before after, SameObjects before after → own before after

namespace Discipline

variable {S : Signature} {ε α : Type} (discipline : Discipline S ε κ μ β)

def protocol : Protocol S ε (Store κ μ β) (Set Nat) where
  faults := discipline.faults
  invariant := discipline.invariant
  rely owned before after := discipline.others before after ∧ UploadsKept owned before after
  guarantee owned held before after :=
    discipline.own before after ∧ UploadsMoved owned held before after

variable {discipline}

theorem rely_refl (owned : Set Nat) (store : Store κ μ β) :
    discipline.protocol.rely owned store store :=
  ⟨discipline.others_same _ _ (.refl store), .refl owned store⟩

theorem rely_trans (owned : Set Nat) (first second third : Store κ μ β)
    (h : discipline.protocol.rely owned first second)
    (hnext : discipline.protocol.rely owned second third) :
    discipline.protocol.rely owned first third :=
  ⟨discipline.others_trans _ _ _ h.1 hnext.1, h.2.trans hnext.2⟩

theorem guarantee_refl (owned : Set Nat) (store : Store κ μ β) :
    discipline.protocol.guarantee owned owned store store :=
  ⟨discipline.own_same _ _ (.refl store), .refl owned store⟩

-- Clients whose own changes are among those that the others allow for.
theorem composes (hown : ∀ before after, discipline.own before after →
    discipline.others before after) :
    discipline.protocol.Composes Disjoint ownsUploads where
  rely_refl := rely_refl
  rely_trans := rely_trans
  guarantee_owns := by
    intro owned held before after howns hguar upload hm
    rcases hguar.2.fresh upload hm with hold | hnew
    · exact lt_of_lt_of_le (howns upload hold) hguar.2.opened_le
    · exact hnew.2
  guarantee_rely := by
    intro owned held other before after hguar howns hapart
    refine ⟨⟨hown _ _ hguar.1, hguar.2.opened_le, fun upload hm => ?_⟩, fun upload hm => ?_, ?_⟩
    · exact hguar.2.others upload (howns upload hm) fun hmine =>
        Set.disjoint_left.mp hapart hmine hm
    · exact lt_of_lt_of_le (howns upload hm) hguar.2.opened_le
    · apply Set.disjoint_left.mpr
      intro upload hheld hother
      rcases hguar.2.fresh upload hheld with hold | hnew
      · exact Set.disjoint_left.mp hapart hold hother
      · have hlt := howns upload hother
        omega
  apart_symm _ _ h := h.symm

variable {handler : Handler S ε (Store κ μ β)} {owned : Set Nat} {state : Store κ μ β}

-- A call that reads.
theorem read {request : S.Call} {post : Except ε (S.Reply request) → Set Nat → Store κ μ β → Prop}
    (hread : ∀ before, (handler request before).2 = before)
    (h : ∀ before, discipline.others state before → discipline.invariant before →
      post (handler request before).1 owned before ∧
      ∀ fault, discipline.faults request fault → post (.error fault.error) owned before) :
    Verified handler discipline.protocol (Program.perform request) owned state post :=
  Verified.perform_read hread (guarantee_refl owned) fun before hrely hinv => h before hrely.1 hinv

-- A call that moves objects and no uploads.
theorem write {request : S.Call} {post : Except ε (S.Reply request) → Set Nat → Store κ μ β → Prop}
    (hopened : ∀ before, (handler request before).2.opened = before.opened)
    (hsessions : ∀ before, (handler request before).2.sessions = before.sessions)
    (h : ∀ before, discipline.others state before → discipline.invariant before →
      discipline.invariant (handler request before).2 ∧
      discipline.own before (handler request before).2 ∧
      post (handler request before).1 owned (handler request before).2 ∧
      ∀ fault, discipline.faults request fault →
        if fault.effect then post (.error fault.error) owned (handler request before).2
        else post (.error fault.error) owned before) :
    Verified handler discipline.protocol (Program.perform request) owned state post := by
  apply Verified.perform (guarantee_refl owned)
  intro before hrely hinv
  obtain ⟨hafter, hown, hok, hfault⟩ := h before hrely.1 hinv
  exact ⟨hafter, owned, ⟨hown, .same owned (hopened before) (hsessions before)⟩, hok, hfault⟩

-- A program that only reads, among others that may change what it reads.
theorem observe {program : Program S ε α} {kind : S.Call → Prop} (h : program.Within kind)
    (hreads : handler.Reads kind) {post : Except ε α → Set Nat → Store κ μ β → Prop}
    (hpost : ∀ result after, discipline.others state after → post result owned after) :
    Verified handler discipline.protocol program owned state post :=
  Verified.observing h hreads (guarantee_refl owned) (rely_refl owned) (rely_trans owned)
    fun result after hrely => hpost result after hrely.1

end Discipline

-- One client at a time: between its calls nothing changes but open uploads.
def solo {S : Signature} {ε : Type} (faults : S.Call → Fault ε → Prop) :
    Discipline S ε κ μ β where
  faults := faults
  invariant _ := True
  others := SameObjects
  own _ _ := True
  invariant_same _ _ _ h := h
  others_same _ _ h := h
  others_trans _ _ _ h hnext := h.trans hnext
  own_same _ _ _ := trivial

end ObjectStore
