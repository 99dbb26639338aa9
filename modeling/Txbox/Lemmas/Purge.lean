import Txbox.Purge
import Txbox.Lemmas.Table
import Mathlib.Data.Set.Card

/-!
# What the purge loop leaves

One statement removes rows below its cutoff, and a short batch leaves none of them. By induction on the number of rows the loop ends,
whatever rows each statement chooses.
-/

namespace Txbox

open Lib

section Purged

variable {C ι : Type} [LinearOrder ι]

/-- The rows by their column. -/
def Table.column (t : Table C) (processedAt : C → ι) : String × String → Option ι := fun key => (t key).map processedAt

/-- The table after statements with these cutoffs that removed `total` rows. -/
structure Purged (processedAt : C → ι) (cutoffs : Nat → WithBot ι) (t t' : Table C) (total : Nat) : Prop where
  /-- A row is as it was, or gone. -/
  kept : ∀ key, t' key = t key ∨ t' key = none
  /-- The rows below the first cutoff are gone. -/
  all : ∀ key, Below (t.column processedAt) (cutoffs 0) key → t' key = none
  /-- A row that is gone was below one of the cutoffs. -/
  only : ∀ key, key ∈ t.keys → t' key = none → ∃ n, Below (t.column processedAt) (cutoffs n) key
  /-- The number is that of the rows that are gone. -/
  count : total = (t.keys \ t'.keys).ncard

end Purged

namespace PurgeAux

variable {C ι : Type} [LinearOrder ι] {processedAt : C → ι} {t t' : Table C}

/-- A policy that was built deletes at least one row at a time. -/
theorem one_le_batchSize {policy : RetentionPolicy} (h : policy.Built) : 1 ≤ policy.batchSize := by
  cases h with
  | new maxAge => simp [RetentionPolicy.new]
  | withBatchSize batchSize h => simp [RetentionPolicy.withBatchSize]

/-- A row that is below a cutoff is there. -/
theorem mem_keys_of_below {cutoff : WithBot ι} {key : String × String} (h : Below (t.column processedAt) cutoff key) :
    key ∈ t.keys := by
  obtain ⟨at', hrow, _⟩ := h
  rw [Table.mem_keys_iff]
  intro hnone
  simp [Table.column, hnone] at hrow

/-- Removing rows leaves the others. -/
theorem mem_keys_remove {keys : Finset (String × String)} {key : String × String} :
    key ∈ (t.remove keys).keys ↔ key ∈ t.keys ∧ key ∉ keys := by
  rw [Table.mem_keys_iff, Table.mem_keys_iff, Table.remove]
  by_cases hmem : key ∈ keys
  · simp [hmem]
  · simp [hmem]

/-- What is below a cutoff after some rows were removed was below it before. -/
theorem below_of_remove {keys : Finset (String × String)} {cutoff : WithBot ι} {key : String × String}
    (h : Below ((t.remove keys).column processedAt) cutoff key) : Below (t.column processedAt) cutoff key := by
  have hout := (mem_keys_remove.1 (mem_keys_of_below h)).2
  obtain ⟨at', hrow, hlt⟩ := h
  refine ⟨at', ?_, hlt⟩
  rw [← hrow]
  simp [Table.column, Table.remove, hout]

/-- A row that was not removed is below a cutoff as before. -/
theorem below_remove {keys : Finset (String × String)} {cutoff : WithBot ι} {key : String × String}
    (h : Below (t.column processedAt) cutoff key) (hout : key ∉ keys) : Below ((t.remove keys).column processedAt) cutoff key := by
  obtain ⟨at', hrow, hlt⟩ := h
  refine ⟨at', ?_, hlt⟩
  rw [← hrow]
  simp [Table.column, Table.remove, hout]

/-- The rows that a removal takes away. -/
theorem keys_sdiff_remove {keys : Finset (String × String)} (hsub : ∀ key ∈ keys, key ∈ t.keys) :
    t.keys \ (t.remove keys).keys = {key | key ∈ keys} := by
  apply Set.ext
  intro key
  rw [Set.mem_sdiff, mem_keys_remove]
  constructor
  · rintro ⟨hkey, hnot⟩
    by_contra hout
    exact hnot ⟨hkey, hout⟩
  · intro hkey
    exact ⟨hsub key hkey, fun h => h.2 hkey⟩

/-- A short batch is the last one. -/
theorem purged_of_short {cutoffs : Nat → WithBot ι} {pick : Picker (String × String) ι} {limit : Nat}
    (h : (pick.pick (t.column processedAt) (cutoffs 0) limit).card < limit) :
    Purged processedAt cutoffs t (t.remove (pick.pick (t.column processedAt) (cutoffs 0) limit))
      (pick.pick (t.column processedAt) (cutoffs 0) limit).card := by
  have hsub : ∀ key ∈ pick.pick (t.column processedAt) (cutoffs 0) limit, key ∈ t.keys :=
    fun key hkey => mem_keys_of_below (pick.below hkey)
  refine ⟨?_, ?_, ?_, ?_⟩
  · intro key
    unfold Table.remove
    split
    · exact Or.inr rfl
    · exact Or.inl rfl
  · intro key hkey
    exact if_pos (pick.all_of_card_lt h hkey)
  · intro key hkey hgone
    have hpicked : key ∈ pick.pick (t.column processedAt) (cutoffs 0) limit := by
      by_contra hout
      exact Table.mem_keys_iff.1 (mem_keys_remove.2 ⟨hkey, hout⟩) hgone
    exact ⟨0, pick.below hpicked⟩
  · rw [keys_sdiff_remove hsub]
    exact (Set.ncard_coe_finset _).symm

/-- A full batch, and then the others. -/
theorem Purged.cons {cutoffs : Nat → WithBot ι} (hmono : cutoffs 0 ≤ cutoffs 1) {keys : Finset (String × String)} {total : Nat}
    (hfin : t.keys.Finite) (hbelow : ∀ key ∈ keys, Below (t.column processedAt) (cutoffs 0) key)
    (h : Purged processedAt (fun n => cutoffs (n + 1)) (t.remove keys) t' total) :
    Purged processedAt cutoffs t t' (keys.card + total) := by
  have hsub : ∀ key ∈ keys, key ∈ t.keys := fun key hkey => mem_keys_of_below (hbelow key hkey)
  have hgone : ∀ key ∈ keys, t' key = none := by
    intro key hkey
    have hnone : t.remove keys key = none := if_pos hkey
    rcases h.kept key with heq | heq
    · rw [heq, hnone]
    · exact heq
  have hsame : ∀ key, key ∉ keys → t.remove keys key = t key := fun key hkey => if_neg hkey
  refine ⟨?_, ?_, ?_, ?_⟩
  · intro key
    by_cases hkey : key ∈ keys
    · exact Or.inr (hgone key hkey)
    · rw [← hsame key hkey]
      exact h.kept key
  · intro key hkey
    by_cases hmem : key ∈ keys
    · exact hgone key hmem
    · exact h.all key ((below_remove hkey hmem).mono hmono)
  · intro key hkey hnone
    by_cases hmem : key ∈ keys
    · exact ⟨0, hbelow key hmem⟩
    · obtain ⟨n, hn⟩ := h.only key (mem_keys_remove.2 ⟨hkey, hmem⟩) hnone
      exact ⟨n + 1, below_of_remove hn⟩
  · have hunion : t.keys \ t'.keys = {key | key ∈ keys} ∪ ((t.remove keys).keys \ t'.keys) := by
      apply Set.ext
      intro key
      rw [Set.mem_union, Set.mem_sdiff, Set.mem_sdiff, mem_keys_remove]
      constructor
      · rintro ⟨hkey, hout⟩
        by_cases hmem : key ∈ keys
        · exact Or.inl hmem
        · exact Or.inr ⟨⟨hkey, hmem⟩, hout⟩
      · rintro (hmem | ⟨⟨hkey, _⟩, hout⟩)
        · exact ⟨hsub key hmem, fun hin => Table.mem_keys_iff.1 hin (hgone key hmem)⟩
        · exact ⟨hkey, hout⟩
    have hdisjoint : Disjoint {key | key ∈ keys} ((t.remove keys).keys \ t'.keys) := by
      rw [Set.disjoint_left]
      intro key hmem hrest
      exact (mem_keys_remove.1 hrest.1).2 hmem
    have hrest : ((t.remove keys).keys \ t'.keys).Finite :=
      hfin.subset (fun key hkey => (mem_keys_remove.1 hkey.1).1)
    have hcard : {key | key ∈ keys}.ncard = keys.card := Set.ncard_coe_finset keys
    rw [hunion, Set.ncard_union_eq hdisjoint keys.finite_toSet hrest, hcard, ← h.count]

/-! ## The loop -/

section Loop

variable {ε Code Now B : Type} [ToString Code] (server : PurgeServer Now C ι B)

/-- The rows that the next statement deletes. -/
def picked (bound : B) (limit : Nat) (s : PurgeConn Now C ι) : Finset (String × String) :=
  (s.picks 0).pick (s.table.column server.processedAt) (server.cutoff bound (s.clock 0)) limit

/-- The pool after the next statement. -/
def afterDelete (bound : B) (limit : Nat) (s : PurgeConn Now C ι) : PurgeConn Now C ι :=
  ⟨fun n => s.clock (n + 1), fun n => s.picks (n + 1), s.table.remove (picked server bound limit s)⟩

/-- The cutoffs of the next statements. -/
def cutoffs (bound : B) (s : PurgeConn Now C ι) : Nat → WithBot ι := fun n => server.cutoff bound (s.clock n)

/-- One turn of the loop. -/
theorem run_purgeLoop_succ (bound : B) (batch fuel total : Nat) (s : PurgeConn Now C ι) :
    Prog.run (server.exec (ε := ε)) none (purgeLoop bound batch (fuel + 1) total : PurgeProg ε Code Now B _) s =
      if (picked server bound batch s).card < batch
      then (.returned (some (.ok (total + (picked server bound batch s).card))), afterDelete server bound batch s)
      else Prog.run server.exec none
        (purgeLoop bound batch fuel (total + (picked server bound batch s).card) : PurgeProg ε Code Now B _)
        (afterDelete server bound batch s) := by
  have hexec : server.exec (ε := ε) (.delete bound batch) s =
      ((.ok (picked server bound batch s).card : Except (SqlxError ε Code) Nat), afterDelete server bound batch s) := rfl
  rw [purgeLoop]
  refine (Prog.run_perform_bind _ hexec).trans ?_
  by_cases hshort : (picked server bound batch s).card < batch
  · simp only [hshort, if_true]
    rfl
  · simp only [hshort, if_false]

/-- The loop ends, and leaves what is left after the statements it made, whatever fuel above the number of rows it has. -/
theorem run_purgeLoop (bound : B) {batch : Nat} (hbatch : 1 ≤ batch) (s : PurgeConn Now C ι) (hfin : s.table.keys.Finite)
    (hmono : Monotone (cutoffs server bound s)) :
    ∃ m s', Purged server.processedAt (cutoffs server bound s) s.table s'.table m ∧
      ∀ fuel total, s.table.keys.ncard < fuel →
        Prog.run (server.exec (ε := ε)) none (purgeLoop bound batch fuel total : PurgeProg ε Code Now B _) s =
          (.returned (some (.ok (total + m))), s') := by
  induction hn : s.table.keys.ncard using Nat.strong_induction_on generalizing s with
  | _ n ih =>
    by_cases hshort : (picked server bound batch s).card < batch
    · refine ⟨_, afterDelete server bound batch s, purged_of_short hshort, ?_⟩
      intro fuel total hfuel
      obtain ⟨fuel, rfl⟩ : ∃ k, fuel = k + 1 := ⟨fuel - 1, by omega⟩
      rw [run_purgeLoop_succ, if_pos hshort]
      rfl
    · have hbelow : ∀ key ∈ picked server bound batch s, Below (s.table.column server.processedAt) (cutoffs server bound s 0) key :=
        fun key hkey => (s.picks 0).below hkey
      have hsub : ∀ key ∈ picked server bound batch s, key ∈ s.table.keys := fun key hkey => mem_keys_of_below (hbelow key hkey)
      -- A full batch removes at least one row, so the number of rows goes down.
      have hfewer : (afterDelete server bound batch s).table.keys.ncard < n := by
        have hpos : 0 < (picked server bound batch s).card := by omega
        obtain ⟨key, hkey⟩ := Finset.card_pos.1 hpos
        rw [← hn]
        refine Set.ncard_lt_ncard ?_ hfin
        rw [Set.ssubset_iff_subset_ne]
        refine ⟨fun key hkey => (mem_keys_remove.1 hkey).1, ?_⟩
        intro heq
        have hin := hsub key hkey
        rw [← heq] at hin
        exact (mem_keys_remove.1 hin).2 hkey
      have hfin' : (afterDelete server bound batch s).table.keys.Finite :=
        hfin.subset (fun key hkey => (mem_keys_remove.1 hkey).1)
      have hmono' : Monotone (cutoffs server bound (afterDelete server bound batch s)) :=
        fun i j hij => hmono (Nat.succ_le_succ hij)
      obtain ⟨m, s', hpurged, hrun⟩ := ih _ hfewer (afterDelete server bound batch s) hfin' hmono' rfl
      refine ⟨_, s', Purged.cons (hmono (Nat.zero_le 1)) hfin hbelow hpurged, ?_⟩
      intro fuel total hfuel
      obtain ⟨fuel, rfl⟩ : ∃ k, fuel = k + 1 := ⟨fuel - 1, by omega⟩
      rw [run_purgeLoop_succ, if_neg hshort, hrun fuel _ (by omega), Nat.add_assoc]

end Loop

end PurgeAux

end Txbox
