import MeridianS3.ObjectStore.Theorems

namespace ObjectStore

variable {κ : Type} [LinearOrder κ] {kept : Set κ} {start : Option κ} {whole : Bool}

-- The keys that an ascending scan has taken. It passes over none that is kept, whatever
-- else comes and goes meanwhile. A whole scan has nothing left to take.
structure Scan (kept : Set κ) (start : Option κ) (taken : List κ) (whole : Bool) : Prop where
  ascending : taken.Pairwise (· < ·)
  above : ∀ key ∈ taken, ∀ bound ∈ start, bound < key
  covers : ∀ key ∈ kept, (∀ bound ∈ start, bound < key) →
    key ∈ taken ∨ whole = false ∧ ∀ passed ∈ taken, passed < key

namespace Scan

theorem none_taken : Scan kept start [] false where
  ascending := .nil
  above := fun _ hmem => absurd hmem List.not_mem_nil
  covers := fun _ _ _ => Or.inr ⟨rfl, fun _ hmem => absurd hmem List.not_mem_nil⟩

-- Where the next part of a scan goes on.
def resume (start : Option κ) (taken : List κ) : Option κ := taken.getLast?.or start

omit [LinearOrder κ] in
theorem resume_append (start : Option κ) (first second : List κ) :
    resume start (first ++ second) = resume (resume start first) second := by
  simp only [resume, List.getLast?_append, Option.or_assoc]

-- What lies above the last key taken lies above all of them.
theorem above_resume {taken : List κ} {key : κ} (hstart : ∀ bound ∈ start, bound < key)
    (hpassed : ∀ passed ∈ taken, passed < key) :
    ∀ bound ∈ resume start taken, bound < key := by
  intro bound hbound
  obtain hlast | ⟨-, hbound⟩ := Option.or_eq_some_iff.mp hbound
  · exact hpassed bound (List.mem_of_getLast? hlast)
  · exact hstart bound hbound

theorem below_resume {taken : List κ} (h : Scan kept start taken whole) {key : κ}
    (habove : ∀ bound ∈ resume start taken, bound < key) :
    (∀ bound ∈ start, bound < key) ∧ ∀ passed ∈ taken, passed < key := by
  cases hlast : taken.getLast? with
  | none =>
      obtain rfl := List.getLast?_eq_none_iff.mp hlast
      exact ⟨fun bound hbound => habove bound hbound, fun _ hmem => absurd hmem List.not_mem_nil⟩
  | some last =>
      have hlt : last < key := habove last (by rw [resume, hlast]; rfl)
      obtain ⟨front, rfl⟩ := List.getLast?_eq_some_iff.mp hlast
      have hbelow := (List.pairwise_append.mp h.ascending).2.2
      refine ⟨fun bound hbound => (h.above last (by simp) bound hbound).trans hlt, ?_⟩
      intro passed hmem
      obtain hmem | hmem := List.mem_append.mp hmem
      · exact (hbelow passed hmem last (List.mem_singleton_self last)).trans hlt
      · rwa [List.mem_singleton.mp hmem]

-- A scan that goes on where another stopped is one scan.
theorem append {first second : List κ} (h : Scan kept start first false)
    (hnext : Scan kept (resume start first) second whole) :
    Scan kept start (first ++ second) whole where
  ascending := List.pairwise_append.mpr ⟨h.ascending, hnext.ascending,
    fun passed hpassed key hkey => (h.below_resume (hnext.above key hkey)).2 passed hpassed⟩
  above key hmem := by
    obtain hmem | hmem := List.mem_append.mp hmem
    · exact h.above key hmem
    · exact (h.below_resume (hnext.above key hmem)).1
  covers key hkept hstart := by
    obtain hmem | ⟨-, hpassed⟩ := h.covers key hkept hstart
    · exact Or.inl (List.mem_append_left _ hmem)
    · obtain hmem | ⟨hwhole, hlater⟩ := hnext.covers key hkept (above_resume hstart hpassed)
      · exact Or.inl (List.mem_append_right _ hmem)
      · refine Or.inr ⟨hwhole, fun passed hmem => ?_⟩
        exact (List.mem_append.mp hmem).elim (hpassed passed) (hlater passed)

-- A scan that stops early has passed over nothing.
theorem stop {front rest : List κ} (h : Scan kept start (front ++ rest) whole) :
    Scan kept start front (rest.isEmpty && whole) where
  ascending := (List.pairwise_append.mp h.ascending).1
  above key hmem := h.above key (List.mem_append_left _ hmem)
  covers key hkept hstart := by
    have hbelow := (List.pairwise_append.mp h.ascending).2.2
    obtain hmem | ⟨hwhole, hpassed⟩ := h.covers key hkept hstart
    · obtain hmem | hmem := List.mem_append.mp hmem
      · exact Or.inl hmem
      · refine Or.inr ⟨?_, fun passed hfront => hbelow passed hfront key hmem⟩
        rw [List.isEmpty_eq_false_iff.mpr (List.ne_nil_of_mem hmem), Bool.false_and]
    · refine Or.inr ⟨by rw [hwhole, Bool.and_false], fun passed hfront => ?_⟩
      exact hpassed passed (List.mem_append_left _ hfront)

theorem cut {taken : List κ} (h : Scan kept start taken whole) : Scan kept start taken false where
  ascending := h.ascending
  above := h.above
  covers key hkept hstart := (h.covers key hkept hstart).imp_right fun hpassed => ⟨rfl, hpassed.2⟩

variable {μ β : Type} {store : Store κ μ β} {selects : κ → Bool}

-- A listing scans what is stored all the while.
theorem listed (hkept : ∀ key ∈ kept, (store.current key).isSome = true ∧ selects key = true) :
    Scan kept start (store.listed selects start) true where
  ascending := store.listed_sorted selects start
  above key hmem := ((store.mem_listed key).mp hmem).2.2
  covers key hmem hstart :=
    Or.inl ((store.mem_listed key).mpr ⟨(hkept key hmem).1, (hkept key hmem).2, hstart⟩)

theorem page {maxKeys : Nat}
    (hkept : ∀ key ∈ kept, (store.current key).isSome = true ∧ selects key = true) :
    Scan kept start (store.list selects maxKeys start).keys
      (!(store.list selects maxKeys start).truncated) := by
  have hlisted : Scan kept start (store.listed selects start) true := listed hkept
  rw [← List.take_append_drop maxKeys (store.listed selects start)] at hlisted
  have hrest : ((store.listed selects start).drop maxKeys).isEmpty =
      !decide (maxKeys < (store.listed selects start).length) := by
    rw [← decide_not, Bool.eq_iff_iff, List.isEmpty_iff, decide_eq_true_eq, List.drop_eq_nil_iff,
      Nat.not_lt]
  have hstop := hlisted.stop
  rwa [hrest, Bool.and_true] at hstop

end Scan

end ObjectStore
