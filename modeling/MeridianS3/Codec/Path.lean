import Mathlib.Algebra.Ring.Nat
import Mathlib.Data.List.Infix

namespace Codec

variable {α : Type} {separator : α}

-- A path below a root, by its segments from the last one back to the first.
def path (separator : α) (root : List α) : List (List α) → List α
  | [] => root
  | segment :: before => path separator root before ++ separator :: segment

theorem append_separator_inj {first second segment other : List α} (hsegment : separator ∉ segment)
    (hother : separator ∉ other)
    (h : first ++ separator :: segment = second ++ separator :: other) :
    first = second ∧ segment = other := by
  obtain ⟨between, hsecond, hrest⟩ | ⟨between, hfirst, hrest⟩ := List.append_eq_append_iff.mp h
  · cases between with
    | nil =>
      rw [List.nil_append, List.cons.injEq] at hrest
      exact ⟨by simpa using hsecond.symm, hrest.2⟩
    | cons head between =>
      -- The second separator would lie inside the first path's last segment.
      rw [List.cons_append, List.cons.injEq] at hrest
      exact absurd (by simp [hrest.2]) hsegment
  · cases between with
    | nil =>
      rw [List.nil_append, List.cons.injEq] at hrest
      exact ⟨by simpa using hfirst, hrest.2.symm⟩
    | cons head between =>
      rw [List.cons_append, List.cons.injEq] at hrest
      exact absurd (by simp [hrest.2]) hother

theorem separator_append_inj {first second rest other : List α} (hfirst : separator ∉ first)
    (hsecond : separator ∉ second)
    (h : first ++ separator :: rest = second ++ separator :: other) :
    first = second ∧ rest = other := by
  have hreverse := congrArg List.reverse h
  simp only [List.reverse_append, List.reverse_cons, List.append_assoc,
    List.singleton_append] at hreverse
  obtain ⟨hrest, hsame⟩ :=
    append_separator_inj (by simpa using hfirst) (by simpa using hsecond) hreverse
  exact ⟨List.reverse_injective hsame, List.reverse_injective hrest⟩

-- Whatever their roots are, two equal paths have the same last segments.
theorem path_segments {root other : List α} {segments others : List (List α)}
    (hsegments : ∀ segment ∈ segments, separator ∉ segment)
    (hothers : ∀ segment ∈ others, separator ∉ segment)
    (h : path separator root segments = path separator other others) :
    segments <+: others ∨ others <+: segments := by
  induction segments generalizing others with
  | nil => exact Or.inl List.nil_prefix
  | cons segment before ih =>
    cases others with
    | nil => exact Or.inr List.nil_prefix
    | cons last rest =>
      obtain ⟨hbefore, rfl⟩ := append_separator_inj (hsegments segment (by simp))
        (hothers last (by simp)) h
      have hrest := ih (fun segment hmem => hsegments segment (by simp [hmem]))
        (fun segment hmem => hothers segment (by simp [hmem])) hbefore
      simpa only [List.cons_prefix_cons, true_and] using hrest

theorem path_root {root other : List α} (segments : List (List α))
    (h : path separator root segments = path separator other segments) : root = other := by
  induction segments with
  | nil => exact h
  | cons segment before ih => exact ih (List.append_cancel_right h)

theorem path_append (root under : List α) (segments : List (List α)) :
    path separator (root ++ under) segments = root ++ path separator under segments := by
  induction segments with
  | nil => rfl
  | cons segment before ih => rw [path, path, ih, List.append_assoc]

theorem length_path (root : List α) (segments : List (List α)) :
    (path separator root segments).length =
      root.length + (segments.map fun segment => segment.length + 1).sum := by
  induction segments with
  | nil => rfl
  | cons segment before ih =>
    simp only [path, List.length_append, List.length_cons, ih, List.map_cons, List.sum_cons]
    omega

theorem mem_path {root : List α} {segments : List (List α)} {item : α}
    (h : item ∈ path separator root segments) :
    item ∈ root ∨ item = separator ∨ ∃ segment ∈ segments, item ∈ segment := by
  induction segments with
  | nil => exact Or.inl h
  | cons segment before ih =>
    rw [path, List.mem_append, List.mem_cons] at h
    obtain h | rfl | h := h
    · obtain h | h | ⟨earlier, hmem, h⟩ := ih h
      · exact Or.inl h
      · exact Or.inr (Or.inl h)
      · exact Or.inr (Or.inr ⟨earlier, List.mem_cons_of_mem _ hmem, h⟩)
    · exact Or.inr (Or.inl rfl)
    · exact Or.inr (Or.inr ⟨segment, List.mem_cons_self, h⟩)

end Codec
