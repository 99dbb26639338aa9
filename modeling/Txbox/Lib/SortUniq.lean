import Mathlib.Data.List.Sort
import Mathlib.Data.List.Destutter

/-!
# Sorting and removing repeats

A list sorted and then rid of adjacent repeats is strictly increasing and has the elements of the list it was made from.
-/

namespace Lib

variable {α : Type} [LinearOrder α]

/-- Sort, then keep one of every run of equal neighbours. -/
def sortUniq (l : List α) : List α := (l.insertionSort (· ≤ ·)).destutter (· ≠ ·)

/-- Dropping equal neighbours drops no element. -/
theorem mem_destutter'_ne (a x : α) (l : List α) : x ∈ l.destutter' (· ≠ ·) a ↔ x = a ∨ x ∈ l := by
  induction l generalizing a with
  | nil => simp
  | cons b l ih =>
    by_cases hab : a ≠ b
    · rw [List.destutter'_cons_pos _ hab, List.mem_cons, ih, List.mem_cons]
    · rw [List.destutter'_cons_neg _ hab, ih, List.mem_cons]
      rw [not_not.1 hab]
      tauto

/-- The elements are those of the list. -/
theorem mem_sortUniq (x : α) (l : List α) : x ∈ sortUniq l ↔ x ∈ l := by
  rw [← (List.perm_insertionSort (· ≤ ·) l).mem_iff, sortUniq]
  cases l.insertionSort (· ≤ ·) with
  | nil => simp
  | cons a l => rw [List.destutter_cons', mem_destutter'_ne, List.mem_cons]

/-- The list is strictly increasing. -/
theorem pairwise_sortUniq (l : List α) : (sortUniq l).Pairwise (· < ·) := by
  have hle : (sortUniq l).Pairwise (· ≤ ·) :=
    (List.pairwise_insertionSort (· ≤ ·) l).sublist (List.destutter_sublist _ _)
  have hne : (sortUniq l).IsChain (· ≠ ·) := List.isChain_destutter _ _
  rw [← List.isChain_iff_pairwise] at hle ⊢
  rw [List.isChain_iff_getElem] at hle hne ⊢
  exact fun i hi => lt_of_le_of_ne (hle i hi) (hne i hi)

theorem nodup_sortUniq (l : List α) : (sortUniq l).Nodup :=
  (pairwise_sortUniq l).imp ne_of_lt

end Lib
