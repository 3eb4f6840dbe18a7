import Mathlib.Data.List.Sort
import Mathlib.Order.Basic
import Mathlib.Logic.Function.Basic

namespace ObjectStore

variable {κ μ β : Type}

structure Object (μ β : Type) where
  header : μ
  body : List β
deriving DecidableEq

-- One version of a key. A version without an object is a delete marker.
structure Entry (μ β : Type) where
  id : Nat
  object : Option (Object μ β)
deriving DecidableEq

-- A multipart upload that has been opened. A part sent again replaces the old one.
structure Session (κ μ β : Type) where
  key : κ
  header : μ
  parts : Nat → Option (List β)

-- The versions of each key, newest first. Version and upload numbers are given
-- out in order and never twice. Only a versioned store keeps older versions.
structure Store (κ μ β : Type) [LinearOrder κ] where
  versioned : Bool
  entries : κ → List (Entry μ β)
  keys : List κ
  issued : Nat
  sessions : Nat → Option (Session κ μ β)
  opened : Nat
  keys_sorted : keys.Pairwise (· < ·)
  mem_keys : ∀ key, entries key ≠ [] → key ∈ keys
  id_lt : ∀ key, ∀ entry ∈ entries key, entry.id < issued
  ids_decrease : ∀ key, (entries key).Pairwise fun newer older => older.id < newer.id
  single : versioned = false → ∀ key, (entries key).length ≤ 1
  session_lt : ∀ upload, sessions upload ≠ none → upload < opened

namespace Store

variable [LinearOrder κ]

def empty (versioned : Bool) : Store κ μ β where
  versioned := versioned
  entries _ := []
  keys := []
  issued := 0
  sessions _ := none
  opened := 0
  keys_sorted := List.Pairwise.nil
  mem_keys _ h := absurd rfl h
  id_lt _ _ h := absurd h (List.not_mem_nil)
  ids_decrease _ := List.Pairwise.nil
  single _ _ := Nat.zero_le 1
  session_lt _ h := absurd rfl h

def head (store : Store κ μ β) (key : κ) : Option (Entry μ β) := (store.entries key).head?

-- The object a request without a version id finds.
def current (store : Store κ μ β) (key : κ) : Option (Object μ β) :=
  (store.head key).bind Entry.object

def version (store : Store κ μ β) (key : κ) (id : Nat) : Option (Object μ β) :=
  ((store.entries key).find? fun entry => entry.id = id).bind Entry.object

def keysWith (keys : List κ) (key : κ) : List κ :=
  if key ∈ keys then keys else keys.orderedInsert (· ≤ ·) key

theorem mem_keysWith (keys : List κ) (key other : κ) :
    other ∈ keysWith keys key ↔ other = key ∨ other ∈ keys := by
  unfold keysWith
  split
  · rename_i h
    constructor
    · exact Or.inr
    · rintro (rfl | hother)
      · exact h
      · exact hother
  · exact List.mem_orderedInsert _

theorem keysWith_sorted (keys : List κ) (key : κ) (h : keys.Pairwise (· < ·)) :
    (keysWith keys key).Pairwise (· < ·) := by
  unfold keysWith
  split
  · exact h
  · rename_i hn
    have hle : (keys.orderedInsert (· ≤ ·) key).Pairwise (· ≤ ·) :=
      (h.imp fun hlt => le_of_lt hlt).orderedInsert key keys
    have hnodup : (keys.orderedInsert (· ≤ ·) key).Nodup := by
      rw [(List.perm_orderedInsert _ key keys).nodup_iff]
      exact List.nodup_cons.mpr ⟨hn, h.imp fun hlt => ne_of_lt hlt⟩
    exact (hle.and hnodup).imp fun ⟨hle, hne⟩ => lt_of_le_of_ne hle hne

-- A new version goes in front of the older ones, or takes the place of the only one.
def push (store : Store κ μ β) (key : κ) (object : Option (Object μ β)) : Store κ μ β where
  versioned := store.versioned
  entries := Function.update store.entries key
    (⟨store.issued, object⟩ :: if store.versioned then store.entries key else [])
  keys := keysWith store.keys key
  issued := store.issued + 1
  sessions := store.sessions
  opened := store.opened
  keys_sorted := keysWith_sorted store.keys key store.keys_sorted
  mem_keys other h := by
    rw [mem_keysWith]
    by_cases he : other = key
    · exact Or.inl he
    · rw [Function.update_of_ne he] at h
      exact Or.inr (store.mem_keys other h)
  id_lt other entry h := by
    by_cases he : other = key
    · subst other
      rw [Function.update_self, List.mem_cons] at h
      rcases h with rfl | h
      · exact Nat.lt_succ_self _
      · cases hv : store.versioned <;> simp [hv] at h
        exact Nat.lt_succ_of_lt (store.id_lt key entry h)
    · rw [Function.update_of_ne he] at h
      exact Nat.lt_succ_of_lt (store.id_lt other entry h)
  ids_decrease other := by
    by_cases he : other = key
    · subst other
      rw [Function.update_self]
      cases hv : store.versioned
      · exact List.pairwise_singleton _ _
      · exact List.Pairwise.cons (fun entry hm => store.id_lt key entry hm)
          (store.ids_decrease key)
    · rw [Function.update_of_ne he]
      exact store.ids_decrease other
  single hv other := by
    by_cases he : other = key
    · subst other
      simp [Function.update_self, hv]
    · rw [Function.update_of_ne he]
      exact store.single hv other
  session_lt := store.session_lt

def put (store : Store κ μ β) (key : κ) (object : Object μ β) : Store κ μ β :=
  store.push key (some object)

-- The entries of a key without some of them.
def discard (store : Store κ μ β) (key : κ) (keep : Entry μ β → Bool) : Store κ μ β where
  versioned := store.versioned
  entries := Function.update store.entries key ((store.entries key).filter keep)
  keys := store.keys
  issued := store.issued
  sessions := store.sessions
  opened := store.opened
  keys_sorted := store.keys_sorted
  mem_keys other h := by
    by_cases he : other = key
    · subst other
      rw [Function.update_self] at h
      apply store.mem_keys
      intro hnil
      exact h (by rw [hnil]; rfl)
    · rw [Function.update_of_ne he] at h
      exact store.mem_keys other h
  id_lt other entry h := by
    by_cases he : other = key
    · subst other
      rw [Function.update_self] at h
      exact store.id_lt key entry (List.mem_of_mem_filter h)
    · rw [Function.update_of_ne he] at h
      exact store.id_lt other entry h
  ids_decrease other := by
    by_cases he : other = key
    · subst other
      rw [Function.update_self]
      exact (store.ids_decrease key).filter _
    · rw [Function.update_of_ne he]
      exact store.ids_decrease other
  single hv other := by
    by_cases he : other = key
    · subst other
      rw [Function.update_self]
      exact (List.length_filter_le _ _).trans (store.single hv key)
    · rw [Function.update_of_ne he]
      exact store.single hv other
  session_lt := store.session_lt

-- Deleting a named version removes that version. Deleting without a version id
-- puts a delete marker in front, or removes the object of a store without versions.
def delete (store : Store κ μ β) (key : κ) (id : Option Nat) : Store κ μ β :=
  match id with
  | some id => store.discard key fun entry => entry.id ≠ id
  | none => if store.versioned then store.push key none else store.discard key fun _ => false

structure Page (κ : Type) where
  keys : List κ
  truncated : Bool

-- The keys with a current object that a listing selects, in ascending order.
def listed (store : Store κ μ β) (selects : κ → Bool) (startAfter : Option κ) : List κ :=
  store.keys.filter fun key =>
    (store.current key).isSome && selects key && startAfter.all fun start => decide (start < key)

def list (store : Store κ μ β) (selects : κ → Bool) (maxKeys : Nat) (startAfter : Option κ) :
    Page κ where
  keys := (store.listed selects startAfter).take maxKeys
  truncated := decide (maxKeys < (store.listed selects startAfter).length)

def openSession (store : Store κ μ β) (key : κ) (header : μ) : Store κ μ β :=
  { store with
    sessions := Function.update store.sessions store.opened (some ⟨key, header, fun _ => none⟩)
    opened := store.opened + 1
    session_lt := by
      intro upload h
      by_cases he : upload = store.opened
      · exact he ▸ Nat.lt_succ_self _
      · rw [Function.update_of_ne he] at h
        exact Nat.lt_succ_of_lt (store.session_lt upload h) }

def setSession (store : Store κ μ β) (upload : Nat) (session : Option (Session κ μ β))
    (h : upload < store.opened) : Store κ μ β :=
  { store with
    sessions := Function.update store.sessions upload session
    session_lt := by
      intro other hother
      by_cases he : other = upload
      · exact he ▸ h
      · rw [Function.update_of_ne he] at hother
        exact store.session_lt other hother }

def closeSession (store : Store κ μ β) (upload : Nat) : Store κ μ β :=
  if h : upload < store.opened then store.setSession upload none h else store

def addPart (store : Store κ μ β) (upload : Nat) (number : Nat) (body : List β) : Store κ μ β :=
  match hs : store.sessions upload with
  | none => store
  | some session =>
      store.setSession upload (some { session with parts := Function.update session.parts number body })
        (store.session_lt upload (by simp [hs]))

end Store

end ObjectStore
