import Mathlib.Algebra.Ring.Nat
import Mathlib.Data.List.Basic
import Mathlib.Tactic.Common

namespace MeridianS3.Codec

variable {α : Type}

-- A list in pieces of one size. The last piece may be shorter.
def pieces (size : Nat) (items : List α) : List (List α) :=
  if size = 0 ∨ items = [] then [] else items.take size :: pieces size (items.drop size)
termination_by items.length
decreasing_by
  rename_i h
  rw [not_or] at h
  have hpos := List.length_pos_iff.mpr h.2
  rw [List.length_drop]
  omega

variable {size : Nat}

@[simp] theorem pieces_nil : pieces size ([] : List α) = [] := by
  rw [pieces, if_pos (Or.inr rfl)]

theorem pieces_cons (hsize : 0 < size) {items : List α} (hne : items ≠ []) :
    pieces size items = items.take size :: pieces size (items.drop size) := by
  rw [pieces, if_neg (not_or.mpr ⟨Nat.ne_of_gt hsize, hne⟩)]

theorem pieces_short {items : List α} (hne : items ≠ []) (hle : items.length ≤ size) :
    pieces size items = [items] := by
  have hpos := List.length_pos_iff.mpr hne
  rw [pieces_cons (by omega) hne, List.take_of_length_le hle, List.drop_of_length_le hle,
    pieces_nil]

-- Whole pieces come first, and what follows them is cut on its own.
theorem pieces_append (hsize : 0 < size) {full : List (List α)}
    (hfull : ∀ piece ∈ full, piece.length = size) (rest : List α) :
    pieces size (full.flatten ++ rest) = full ++ pieces size rest := by
  induction full with
  | nil => rfl
  | cons piece full ih =>
      have hlength := hfull piece List.mem_cons_self
      have hne : piece ++ (full.flatten ++ rest) ≠ [] := by
        intro h
        rw [(List.append_eq_nil_iff.mp h).1, List.length_nil] at hlength
        omega
      rw [List.flatten_cons, List.append_assoc, pieces_cons hsize hne,
        List.take_left' hlength, List.drop_left' hlength,
        ih fun other hmem => hfull other (List.mem_cons_of_mem _ hmem), List.cons_append]

theorem length_pieces (hsize : 0 < size) (items : List α) :
    (pieces size items).length = (items.length + size - 1) / size := by
  induction hlength : items.length using Nat.strong_induction_on generalizing items with
  | _ length ih =>
      subst hlength
      by_cases hne : items = []
      · subst hne
        have hzero : (([] : List α).length + size - 1) / size = 0 :=
          Nat.div_eq_of_lt (by rw [List.length_nil]; omega)
        rw [pieces_nil, hzero, List.length_nil]
      · have hpos := List.length_pos_iff.mpr hne
        have hdrop : (items.drop size).length = items.length - size := List.length_drop
        rw [pieces_cons hsize hne, List.length_cons, ih _ (by omega) _ rfl, hdrop]
        by_cases hle : size ≤ items.length
        · rw [show items.length + size - 1 = (items.length - size + size - 1) + size by omega,
            Nat.add_div_right _ hsize]
        · rw [show items.length - size + size - 1 = size - 1 by omega,
            Nat.div_eq_of_lt (by omega), show items.length + size - 1 = (items.length - 1) + size by
              omega, Nat.add_div_right _ hsize, Nat.div_eq_of_lt (by omega)]

theorem getElem?_pieces (hsize : 0 < size) (items : List α) (index : Nat) :
    (pieces size items)[index]? = if index * size < items.length then
      some ((items.drop (index * size)).take size) else none := by
  induction index generalizing items with
  | zero =>
      by_cases hne : items = []
      · simp [hne]
      · have hpos := List.length_pos_iff.mpr hne
        rw [pieces_cons hsize hne, List.getElem?_cons_zero, Nat.zero_mul, if_pos hpos,
          List.drop_zero]
  | succ index ih =>
      by_cases hne : items = []
      · simp [hne]
      · have hdrop : (items.drop size).drop (index * size) = items.drop ((index + 1) * size) := by
          rw [List.drop_drop, Nat.add_mul, Nat.one_mul, Nat.add_comm]
        rw [pieces_cons hsize hne, List.getElem?_cons_succ, ih, hdrop, List.length_drop]
        have hiff : index * size < items.length - size ↔ (index + 1) * size < items.length := by
          rw [Nat.add_mul, Nat.one_mul]
          omega
        simp only [hiff]

end MeridianS3.Codec
