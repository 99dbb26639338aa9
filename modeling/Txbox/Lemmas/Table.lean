import Txbox.Sql

/-!
# Claims on a table

What claiming the ids of one consumer does to a table, said once for every backend: the keys join, no row that was there changes and
no row of another consumer does, and an id is fresh when its row was not there. A statement that inserts one row and a statement that
inserts many both do that, and so does the default `claim_many` over a `claim` that does.
-/

namespace Txbox

open Lib

namespace Table

variable {C : Type}

/-- The ids of a consumer were claimed. -/
structure Claimed (consumer : String) (ids : List String) (t t' : Table C) : Prop where
  /-- The rows are the old ones and those of the ids. -/
  mem_keys : ∀ key, key ∈ t'.keys ↔ key ∈ t.keys ∨ key.1 = consumer ∧ key.2 ∈ ids
  /-- The old rows and those of other consumers are as they were. -/
  kept : ∀ key, key.1 ≠ consumer ∨ key ∈ t.keys → t' key = t key

/-- The answer for one id: whether its row was there. -/
def answer (t : Table C) (consumer id : String) : Claim := if (t (consumer, id)).isSome then .duplicate else .fresh

variable {consumer id : String} {ids : List String} {t t' t'' : Table C} {columns : C}

/-- A key is taken when its row is there. -/
theorem mem_keys_iff {key : String × String} : key ∈ t.keys ↔ t key ≠ none := Option.isSome_iff_ne_none

/-- The answer is `Fresh` for a row that was not there. -/
theorem answer_eq_fresh_iff : t.answer consumer id = .fresh ↔ t (consumer, id) = none := by
  unfold answer
  cases t (consumer, id) with
  | none => simp only [Option.isSome_none, Bool.false_eq_true, if_false]
  | some columns => simp only [Option.isSome_some, if_true, reduceCtorEq]

namespace Claimed

/-- No id changes nothing. -/
theorem nil : Claimed consumer [] t t := by
  refine ⟨?_, fun _ _ => rfl⟩
  intro key
  simp only [List.not_mem_nil, and_false, or_false]

/-- One id and then the others. -/
theorem cons (h : Claimed consumer [id] t t') (h' : Claimed consumer ids t' t'') : Claimed consumer (id :: ids) t t'' := by
  constructor
  · intro key
    rw [h'.mem_keys, h.mem_keys, List.mem_singleton, List.mem_cons]
    tauto
  · intro key hkey
    rw [← h.kept key hkey]
    refine h'.kept key ?_
    rcases hkey with hkey | hkey
    · exact Or.inl hkey
    · exact Or.inr ((h.mem_keys key).2 (Or.inl hkey))

/-- Two tables after the same claims have the same keys. -/
theorem keys_eq (h : Claimed consumer ids t t') (h' : Claimed consumer ids t t'') : t'.keys = t''.keys := by
  apply Set.ext
  intro key
  rw [h.mem_keys, h'.mem_keys]

/-- Another id's answer is as it was. -/
theorem answer_eq (h : Claimed consumer [id] t t') {other : String} (hne : other ≠ id) :
    t'.answer consumer other = t.answer consumer other := by
  have hiff : (consumer, other) ∈ t'.keys ↔ (consumer, other) ∈ t.keys := by
    rw [h.mem_keys, List.mem_singleton]
    simp only [hne, and_false, or_false]
  exact if_congr hiff rfl rfl

end Claimed

/-! ## Inserting one row -/

/-- The table after an insert: the row has the new columns if it was not there. -/
theorem insertNew_snd_apply (k key : String × String) :
    (t.insertNew k columns).2 key = if t key = none ∧ key = k then some columns else t key := by
  unfold insertNew
  by_cases hkey : key = k
  · subst hkey
    cases hrow : t key with
    | none => simp only [Option.isSome_none, Bool.false_eq_true, if_false, Function.update_self, and_self, if_true]
    | some row => simp only [Option.isSome_some, if_true, hrow, reduceCtorEq, false_and, if_false]
  · simp only [hkey, and_false, if_false]
    split
    · rfl
    · exact Function.update_of_ne hkey _ _

/-- The rows affected say whether the row was there. -/
theorem claimOfAffected_insertNew :
    claimOfAffected (t.insertNew (consumer, id) columns).1.toNat = t.answer consumer id := by
  unfold insertNew answer claimOfAffected
  split
  · rfl
  · rfl

/-! ## Inserting many -/

/-- The first row and then the others. -/
theorem insertEach_cons_snd : (t.insertEach consumer columns (id :: ids)).2 =
    ((t.insertNew (consumer, id) columns).2.insertEach consumer columns ids).2 := by
  rw [insertEach]
  split
  · rename_i hnew
    rw [hnew]
  · rename_i hnew
    rw [hnew]

/-- The table after the inserts: the rows that were not there have the new columns. -/
theorem insertEach_snd_apply (key : String × String) : (t.insertEach consumer columns ids).2 key =
    if t key = none ∧ key.1 = consumer ∧ key.2 ∈ ids then some columns else t key := by
  induction ids generalizing t with
  | nil => simp only [insertEach, List.not_mem_nil, and_false, if_false]
  | cons id ids ih =>
    rw [insertEach_cons_snd, ih, insertNew_snd_apply]
    by_cases hrow : t key = none
    · by_cases hkey : key = (consumer, id)
      · subst hkey
        simp only [hrow, and_self, if_true, List.mem_cons, true_or, reduceCtorEq, false_and, if_false]
      · have hne : key.1 = consumer → key.2 ≠ id := fun h h' => hkey (Prod.ext h h')
        simp only [hrow, hkey, and_false, if_false, true_and, List.mem_cons]
        refine if_congr ?_ rfl rfl
        tauto
    · simp only [hrow, false_and, if_false]

/-- The ids that were inserted are those whose row was not there. -/
theorem mem_insertEach_fst {other : String} :
    other ∈ (t.insertEach consumer columns ids).1 ↔ other ∈ ids ∧ t (consumer, other) = none := by
  induction ids generalizing t with
  | nil => simp only [insertEach, List.not_mem_nil, false_and]
  | cons id ids ih =>
    have hrest := @ih (t.insertNew (consumer, id) columns).2
    rw [insertNew_snd_apply] at hrest
    cases hrow : t (consumer, id) with
    | none =>
      have hfst : (t.insertEach consumer columns (id :: ids)).1 =
          id :: ((t.insertNew (consumer, id) columns).2.insertEach consumer columns ids).1 := by
        simp only [insertEach, insertNew, hrow, Option.isSome_none, Bool.false_eq_true, if_false]
      rw [hfst, List.mem_cons, hrest, List.mem_cons]
      by_cases heq : other = id
      · subst heq
        simp only [hrow, true_or, and_self]
      · simp only [heq, false_or, Prod.mk.injEq, and_false, if_false]
    | some row =>
      have hfst : (t.insertEach consumer columns (id :: ids)).1 =
          ((t.insertNew (consumer, id) columns).2.insertEach consumer columns ids).1 := by
        simp only [insertEach, insertNew, hrow, Option.isSome_some, if_true]
      rw [hfst, hrest, List.mem_cons]
      by_cases heq : other = id
      · subst heq
        simp only [hrow, reduceCtorEq, false_and, if_false, and_false]
      · simp only [heq, false_or, Prod.mk.injEq, and_false, if_false]

/-- Inserting rows, in any order, claims their ids. -/
theorem claimed_insertEach {order : List String} (hperm : order.Perm ids) :
    Claimed consumer ids t (t.insertEach consumer columns order).2 := by
  constructor
  · intro key
    rw [mem_keys_iff, mem_keys_iff, insertEach_snd_apply]
    simp only [hperm.mem_iff]
    split
    · rename_i hnew
      simp only [ne_eq, reduceCtorEq, not_false_eq_true, hnew, and_self, or_true]
    · rename_i hold
      tauto
  · intro key hkey
    rw [insertEach_snd_apply, if_neg]
    rintro ⟨hnone, hconsumer, _⟩
    rcases hkey with hkey | hkey
    · exact hkey hconsumer
    · exact mem_keys_iff.1 hkey hnone

/-- Inserting one row unless its key is taken claims its id. -/
theorem claimed_insertNew : Claimed consumer [id] t (t.insertNew (consumer, id) columns).2 := by
  have h : Claimed consumer [id] t (t.insertEach consumer columns [id]).2 := claimed_insertEach (List.Perm.refl _)
  rwa [insertEach_cons_snd] at h

/-- `claims_from_fresh` on a list that holds the ids whose row was not there. -/
theorem claimsFromFresh_eq {fresh : List String} (h : ∀ id ∈ ids, id ∈ fresh ↔ t (consumer, id) = none) :
    claimsFromFresh ids fresh = ids.map (t.answer consumer) := by
  refine List.map_congr_left ?_
  intro id hid
  by_cases hnone : t (consumer, id) = none
  · rw [if_pos (List.contains_iff_mem.2 ((h id hid).2 hnone)), answer_eq_fresh_iff.2 hnone]
  · have hsome : (t (consumer, id)).isSome = true := Option.isSome_iff_ne_none.2 hnone
    have hout : ¬ fresh.contains id = true := fun hin => hnone ((h id hid).1 (List.contains_iff_mem.1 hin))
    rw [if_neg hout, answer, if_pos hsome]

/-- `claims_from_fresh` on the ids that were inserted. -/
theorem claimsFromFresh_insertEach {order : List String} (hperm : order.Perm ids) :
    claimsFromFresh ids (t.insertEach consumer columns order).1 = ids.map (t.answer consumer) := by
  refine claimsFromFresh_eq ?_
  intro id hid
  rw [mem_insertEach_fst, hperm.mem_iff]
  exact and_iff_right hid

end Table

/-- Sorting changes the order only. -/
theorem perm_sortBytes (ids : List String) : (sortBytes ids).Perm ids := List.perm_insertionSort _ _

end Txbox
