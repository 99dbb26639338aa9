import Mathlib.Data.Finset.Max
import Mathlib.Data.Set.Finite.Basic
import Mathlib.Order.WithBot

/-!
# The first rows below a cutoff

`WHERE at < cutoff ORDER BY at LIMIT n` over rows with a sort column. A cutoff may be missing (`⊥`, the `NULL` of SQL), and then nothing
is below it. Which of the rows tied in the sort column are taken is up to whoever answers: a `Picker` is any way to choose.
-/

namespace Lib

variable {κ ι : Type} [LinearOrder ι]

/-- The row of a key is there and below the cutoff. -/
def Below (rows : κ → Option ι) (cutoff : WithBot ι) (k : κ) : Prop := ∃ t : ι, rows k = some t ∧ (t : WithBot ι) < cutoff

/-- A choice of at most `n` rows below a cutoff: all of them if there are not more, else the first ones. -/
structure Picker (κ ι : Type) [LinearOrder ι] where
  pick : (κ → Option ι) → WithBot ι → Nat → Finset κ
  below : ∀ {rows cutoff n k}, k ∈ pick rows cutoff n → Below rows cutoff k
  card_le : ∀ rows cutoff n, (pick rows cutoff n).card ≤ n
  all_of_card_lt : ∀ {rows cutoff n k}, (pick rows cutoff n).card < n → Below rows cutoff k → k ∈ pick rows cutoff n
  first : ∀ {rows cutoff n k k' t t'}, {k | Below rows cutoff k}.Finite → k ∈ pick rows cutoff n → k' ∉ pick rows cutoff n →
    Below rows cutoff k' → rows k = some t → rows k' = some t' → t ≤ t'

/-- Rows that are below a cutoff are below a later one. -/
theorem Below.mono {rows : κ → Option ι} {cutoff cutoff' : WithBot ι} {k : κ} (h : Below rows cutoff k) (hle : cutoff ≤ cutoff') :
    Below rows cutoff' k := by
  obtain ⟨t, hrow, hlt⟩ := h
  exact ⟨t, hrow, lt_of_lt_of_le hlt hle⟩

namespace Picker

/-- Among finitely many elements there are `n` first ones, or all. -/
theorem exists_first (s : Finset κ) (f : κ → ι) (n : Nat) :
    ∃ p ⊆ s, p.card ≤ n ∧ (p.card < n → p = s) ∧ ∀ k ∈ p, ∀ k' ∈ s, k' ∉ p → f k ≤ f k' := by
  classical
  induction n with
  | zero => exact ⟨∅, by simp, by simp, by simp, by simp⟩
  | succ n ih =>
    obtain ⟨p, hsub, hcard, hall, hfirst⟩ := ih
    by_cases hp : p = s
    · exact ⟨p, hsub, by omega, fun _ => hp, hfirst⟩
    · have hn : p.card = n := by
        by_contra hne
        exact hp (hall (by omega))
      have hrest : (s \ p).Nonempty := by
        rw [Finset.sdiff_nonempty]
        intro hle
        exact hp (Finset.Subset.antisymm hsub hle)
      obtain ⟨m, hm, hmin⟩ := Finset.exists_min_image (s \ p) f hrest
      rw [Finset.mem_sdiff] at hm
      refine ⟨insert m p, Finset.insert_subset hm.1 hsub, ?_, ?_, ?_⟩
      · rw [Finset.card_insert_of_notMem hm.2]
        omega
      · intro hlt
        rw [Finset.card_insert_of_notMem hm.2] at hlt
        omega
      · intro k hk k' hk' hout
        rw [Finset.mem_insert, not_or] at hout
        rcases Finset.mem_insert.1 hk with rfl | hk
        · exact hmin k' (Finset.mem_sdiff.2 ⟨hk', hout.2⟩)
        · exact hfirst k hk k' hk' hout.2

/-- Among the rows below a cutoff there are `n` to take. -/
theorem exists_pick (rows : κ → Option ι) (cutoff : WithBot ι) (n : Nat) : ∃ p : Finset κ,
    (∀ k ∈ p, Below rows cutoff k) ∧ p.card ≤ n ∧ (p.card < n → ∀ k, Below rows cutoff k → k ∈ p) ∧
      ({k | Below rows cutoff k}.Finite → ∀ k ∈ p, ∀ k', k' ∉ p → Below rows cutoff k' →
        ∀ t t', rows k = some t → rows k' = some t' → t ≤ t') := by
  classical
  by_cases hfin : {k | Below rows cutoff k}.Finite
  · by_cases hempty : ∃ k, Below rows cutoff k
    · obtain ⟨k₀, t₀, hrow₀, _⟩ := hempty
      obtain ⟨p, hsub, hcard, hall, hfirst⟩ := exists_first hfin.toFinset (fun k => (rows k).getD t₀) n
      refine ⟨p, ?_, hcard, ?_, ?_⟩
      · intro k hk
        exact hfin.mem_toFinset.1 (hsub hk)
      · intro hlt k hk
        rw [hall hlt]
        exact hfin.mem_toFinset.2 hk
      · intro _ k hk k' hout hk' t t' hrow hrow'
        have hle := hfirst k hk k' (hfin.mem_toFinset.2 hk') hout
        rwa [hrow, hrow'] at hle
    · rw [not_exists] at hempty
      exact ⟨∅, by simp, by simp, fun _ k hk => absurd hk (hempty k), by simp⟩
  · obtain ⟨p, hsub, hcard⟩ := Set.Infinite.exists_subset_card_eq hfin n
    exact ⟨p, fun k hk => hsub hk, by omega, fun hlt => absurd hlt (by omega), fun h => absurd h hfin⟩

/-- There is a way to choose. -/
noncomputable def choose : Picker κ ι where
  pick rows cutoff n := (exists_pick rows cutoff n).choose
  below := by
    intro rows cutoff n k hk
    exact (exists_pick rows cutoff n).choose_spec.1 k hk
  card_le := by
    intro rows cutoff n
    exact (exists_pick rows cutoff n).choose_spec.2.1
  all_of_card_lt := by
    intro rows cutoff n k hlt hk
    exact (exists_pick rows cutoff n).choose_spec.2.2.1 hlt k hk
  first := by
    intro rows cutoff n k k' t t' hfin hk hout hk' hrow hrow'
    exact (exists_pick rows cutoff n).choose_spec.2.2.2 hfin k hk k' hout hk' t t' hrow hrow'

end Picker

end Lib
