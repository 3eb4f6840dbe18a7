import Mathlib.Data.List.Perm.Subperm
import MeridianS3.ObjectStore.Store

namespace ObjectStore

namespace Store

variable {κ μ β : Type} [LinearOrder κ] (store : Store κ μ β) (key other : κ)

@[simp] theorem empty_entries (versioned : Bool) :
    (empty versioned : Store κ μ β).entries key = [] := rfl

@[simp] theorem empty_versioned (versioned : Bool) :
    (empty versioned : Store κ μ β).versioned = versioned := rfl

@[simp] theorem push_versioned (object : Option (Object μ β)) :
    (store.push key object).versioned = store.versioned := rfl

@[simp] theorem put_versioned (object : Object μ β) :
    (store.put key object).versioned = store.versioned := rfl

@[simp] theorem put_issued (object : Object μ β) :
    (store.put key object).issued = store.issued + 1 := rfl

@[simp] theorem put_sessions (object : Object μ β) :
    (store.put key object).sessions = store.sessions := rfl

@[simp] theorem put_opened (object : Object μ β) :
    (store.put key object).opened = store.opened := rfl

@[simp] theorem put_entries_self (object : Object μ β) :
    (store.put key object).entries key =
      ⟨store.issued, some object⟩ :: if store.versioned then store.entries key else [] :=
  Function.update_self ..

@[simp] theorem put_entries_of_ne {other key : κ} (h : other ≠ key) (object : Object μ β) :
    (store.put key object).entries other = store.entries other :=
  Function.update_of_ne h ..

@[simp] theorem put_head_self (object : Object μ β) :
    (store.put key object).head key = some ⟨store.issued, some object⟩ := by
  simp [head]

@[simp] theorem put_current_self (object : Object μ β) :
    (store.put key object).current key = some object := by
  simp [current]

theorem current_congr {first second : Store κ μ β} {key : κ}
    (h : first.entries key = second.entries key) : first.current key = second.current key := by
  simp [current, head, h]

theorem current_eq_none (h : store.entries key = []) : store.current key = none := by
  simp [current, head, h]

theorem mem_of_current {object : Object μ β} (h : store.current key = some object) :
    ∃ entry ∈ store.entries key, entry.object = some object := by
  simp only [current, head] at h
  cases he : store.entries key with
  | nil => simp [he] at h
  | cons entry rest =>
      refine ⟨entry, by simp, ?_⟩
      simpa [he] using h

-- A listing depends on the keys and on what is current under those that it selects.
theorem listed_congr {first second : Store κ μ β} (hkeys : second.keys = first.keys)
    {selects : κ → Bool}
    (hcurrent : ∀ key, selects key = true → second.current key = first.current key)
    (startAfter : Option κ) :
    second.listed selects startAfter = first.listed selects startAfter := by
  simp only [listed, hkeys]
  apply List.filter_congr
  intro key _
  cases hselects : selects key with
  | false => simp
  | true => rw [hcurrent key hselects]

theorem mem_listed {selects : κ → Bool} {startAfter : Option κ} :
    key ∈ store.listed selects startAfter ↔ (store.current key).isSome = true ∧
      selects key = true ∧ ∀ start ∈ startAfter, start < key := by
  simp only [listed, List.mem_filter, Bool.and_eq_true, Option.all_eq_true, decide_eq_true_eq]
  constructor
  · rintro ⟨-, ⟨hcurrent, hselects⟩, hstart⟩
    exact ⟨hcurrent, hselects, hstart⟩
  · rintro ⟨hcurrent, hselects, hstart⟩
    refine ⟨store.mem_keys key fun hnil => ?_, ⟨hcurrent, hselects⟩, hstart⟩
    rw [store.current_eq_none key hnil] at hcurrent
    cases hcurrent

theorem listed_sorted (selects : κ → Bool) (startAfter : Option κ) :
    (store.listed selects startAfter).Pairwise (· < ·) := store.keys_sorted.filter _

-- A strictly ascending list goes on with the elements above the last one of a first part.
theorem filter_lt_of_take {keys : List κ} (hsorted : keys.Pairwise (· < ·)) {count : Nat} {last : κ}
    (hlast : (keys.take count).getLast? = some last) :
    keys.filter (fun key => decide (last < key)) = keys.drop count := by
  have hsplit : keys.take count ++ keys.drop count = keys := List.take_append_drop count keys
  have hmem : last ∈ keys.take count := List.mem_of_getLast? hlast
  have hbelow : ∀ key ∈ keys.take count, ¬last < key := by
    intro key hkey
    obtain ⟨front, hfront⟩ := List.getLast?_eq_some_iff.mp hlast
    have hpage : (front ++ [last]).Pairwise (· < ·) :=
      hfront ▸ hsorted.sublist (List.take_sublist _ _)
    rw [hfront, List.mem_append, List.mem_singleton] at hkey
    rcases hkey with hkey | rfl
    · exact not_lt_of_gt ((List.pairwise_append.mp hpage).2.2 key hkey last (by simp))
    · exact lt_irrefl _
  have habove : ∀ key ∈ keys.drop count, last < key := by
    intro key hkey
    rw [← hsplit] at hsorted
    exact (List.pairwise_append.mp hsorted).2.2 last hmem key hkey
  conv_lhs => rw [← hsplit]
  rw [List.filter_append, List.filter_eq_nil_iff.mpr (by simpa using hbelow),
    List.filter_eq_self.mpr (by simpa using habove), List.nil_append]

-- The first elements of a strictly ascending list have fewer elements below them than there
-- are of these first elements.
theorem length_lt_of_mem_take {keys below : List κ} {key : κ} {count : Nat}
    (hsorted : keys.Pairwise (· < ·)) (hmem : key ∈ keys.take count) (hnodup : below.Nodup)
    (hbelow : ∀ other ∈ below, other ∈ keys ∧ other < key) : below.length < count := by
  have hfirst : ∀ other ∈ key :: below, other ∈ keys.take count := by
    intro other hother
    rcases List.mem_cons.mp hother with rfl | hother
    · exact hmem
    · obtain ⟨hkeys, hless⟩ := hbelow other hother
      rw [← List.take_append_drop count keys, List.pairwise_append] at hsorted
      rw [← List.take_append_drop count keys, List.mem_append] at hkeys
      rcases hkeys with htaken | hdropped
      · exact htaken
      · exact absurd hless (lt_asymm (hsorted.2.2 key hmem other hdropped))
  have hcons : (key :: below).Nodup :=
    List.nodup_cons.mpr ⟨fun h => lt_irrefl key (hbelow key h).2, hnodup⟩
  have hlength := (List.subperm_of_subset hcons hfirst).length_le
  rw [List.length_cons] at hlength
  exact hlength.trans (List.length_take_le count keys)

-- A page that starts after the last key of the page before goes on where that one ended.
theorem listed_after {selects : κ → Bool} {startAfter : Option κ} {count : Nat} {last : κ}
    (hlast : ((store.listed selects startAfter).take count).getLast? = some last) :
    store.listed selects (some last) = (store.listed selects startAfter).drop count := by
  rw [← filter_lt_of_take (store.listed_sorted selects startAfter) hlast]
  have hmem : last ∈ store.listed selects startAfter :=
    List.mem_of_mem_take (List.mem_of_getLast? hlast)
  have hstart := ((store.mem_listed last).mp hmem).2.2
  simp only [listed, List.filter_filter]
  apply List.filter_congr
  intro key _
  by_cases hkey : last < key
  · have hall : (startAfter.all fun start => decide (start < key)) = true := by
      simp only [Option.all_eq_true, decide_eq_true_eq]
      exact fun start hmem => lt_trans (hstart start hmem) hkey
    simp [hkey, hall]
  · simp [hkey]

theorem mem_of_version {id : Nat} {object : Object μ β} (h : store.version key id = some object) :
    ∃ entry ∈ store.entries key, entry.object = some object := by
  simp only [version, Option.bind_eq_some_iff] at h
  obtain ⟨entry, hfind, hobject⟩ := h
  exact ⟨entry, List.mem_of_find?_eq_some hfind, hobject⟩

@[simp] theorem delete_versioned (id : Option Nat) :
    (store.delete key id).versioned = store.versioned := by
  cases id with
  | some id => rfl
  | none => cases hv : store.versioned <;> simp [delete, hv, push, discard]

@[simp] theorem delete_sessions (id : Option Nat) :
    (store.delete key id).sessions = store.sessions := by
  cases id with
  | some id => rfl
  | none => cases hv : store.versioned <;> simp [delete, hv, push, discard]

@[simp] theorem delete_opened (id : Option Nat) :
    (store.delete key id).opened = store.opened := by
  cases id with
  | some id => rfl
  | none => cases hv : store.versioned <;> simp [delete, hv, push, discard]

theorem delete_entries_of_ne {other key : κ} (h : other ≠ key) (id : Option Nat) :
    (store.delete key id).entries other = store.entries other := by
  cases id with
  | some id => exact Function.update_of_ne h ..
  | none => cases hv : store.versioned <;> simp [delete, hv, push, discard, Function.update_of_ne h]

@[simp] theorem delete_some_entries_self (id : Nat) :
    (store.delete key (some id)).entries key =
      (store.entries key).filter fun entry => entry.id ≠ id :=
  Function.update_self ..

theorem delete_none_entries_self (h : store.versioned = false) :
    (store.delete key none).entries key = [] := by
  simp [delete, h, discard]

-- What a deletion leaves of a key was there before, unless it is a delete marker.
theorem mem_delete_entries {id : Option Nat} {entry : Entry μ β}
    (h : entry ∈ (store.delete key id).entries other) (hobject : entry.object ≠ none) :
    entry ∈ store.entries other := by
  by_cases he : other = key
  · subst he
    cases id with
    | some id =>
        rw [delete_some_entries_self] at h
        exact List.mem_of_mem_filter h
    | none =>
        cases hv : store.versioned with
        | false => simp [delete_none_entries_self store other hv] at h
        | true =>
            simp only [delete, hv, if_true, push, Function.update_self, List.mem_cons] at h
            rcases h with rfl | h
            · exact absurd rfl hobject
            · exact h
  · rwa [delete_entries_of_ne store he] at h

-- A new version of a key hides none of the older ones, and without versions it
-- takes their place.
theorem version_put {id : Nat} {object new : Object μ β} (h : store.version key id = some object) :
    (store.put key new).version key id =
      if store.versioned then some object else none := by
  have hne : store.issued ≠ id := by
    simp only [version, Option.bind_eq_some_iff] at h
    obtain ⟨entry, hfind, -⟩ := h
    have hlt := store.id_lt key entry (List.mem_of_find?_eq_some hfind)
    have hid : entry.id = id := by simpa using List.find?_some hfind
    omega
  simp only [version, put_entries_self, List.find?_cons, hne, decide_false]
  split
  · simpa [version] using h
  · simp

section Sessions

@[simp] theorem openSession_opened (header : μ) :
    (store.openSession key header).opened = store.opened + 1 := rfl

@[simp] theorem openSession_session (header : μ) :
    (store.openSession key header).sessions store.opened = some ⟨key, header, fun _ => none⟩ :=
  Function.update_self ..

theorem openSession_session_of_ne {upload : Nat} (h : upload ≠ store.opened) (header : μ) :
    (store.openSession key header).sessions upload = store.sessions upload :=
  Function.update_of_ne h ..

theorem addPart_session {upload : Nat} {session : Session κ μ β}
    (h : store.sessions upload = some session) (number : Nat) (body : List β) :
    (store.addPart upload number body).sessions upload =
      some { session with parts := Function.update session.parts number body } := by
  unfold addPart
  split
  · rename_i hnone
    simp [hnone] at h
  · rename_i found hfound
    rw [h] at hfound
    cases hfound
    exact Function.update_self ..

theorem addPart_session_of_ne {upload third : Nat} (h : third ≠ upload) (number : Nat)
    (body : List β) : (store.addPart upload number body).sessions third = store.sessions third := by
  unfold addPart
  split
  · rfl
  · exact Function.update_of_ne h ..

@[simp] theorem addPart_opened (upload number : Nat) (body : List β) :
    (store.addPart upload number body).opened = store.opened := by
  unfold addPart
  split <;> rfl

theorem closeSession_session_of_ne {upload third : Nat} (h : third ≠ upload) :
    (store.closeSession upload).sessions third = store.sessions third := by
  unfold closeSession
  split
  · exact Function.update_of_ne h ..
  · rfl

@[simp] theorem closeSession_opened (upload : Nat) :
    (store.closeSession upload).opened = store.opened := by
  unfold closeSession
  split <;> rfl

end Sessions

end Store

end ObjectStore
