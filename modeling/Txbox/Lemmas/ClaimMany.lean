import Txbox.Reference

/-!
# What `claim_many` answers

The backend answers the sorted, distinct ids; the caller's ids, in their own order and with their repeats, are answered from a
map that is consumed as it is read. `firstAnswers` is that reading without the map: the first occurrence of an id has the backend's
answer and every repeat is a duplicate. On the reference rows it is one claim per id in input order (`firstAnswers_eq_claimEach`).
-/

namespace Txbox

open Lib

/-- One answer per id: the backend's at the first occurrence, `Duplicate` at every other. `seen` are the ids before. -/
def firstAnswers (f : MessageId → Claim) : (seen ids : List MessageId) → List Claim
  | _, [] => []
  | seen, id :: ids => (if id ∈ seen then .duplicate else f id) :: firstAnswers f (id :: seen) ids

theorem firstAnswers_length (f : MessageId → Claim) (seen ids : List MessageId) :
    (firstAnswers f seen ids).length = ids.length := by
  induction ids generalizing seen with
  | nil => rfl
  | cons id ids ih => rw [firstAnswers, List.length_cons, List.length_cons, ih]

/-- On distinct ids that were not seen, every answer is the backend's. -/
theorem firstAnswers_of_nodup {f : MessageId → Claim} {seen ids : List MessageId} (hn : ids.Nodup)
    (hs : ∀ id ∈ ids, id ∉ seen) : firstAnswers f seen ids = ids.map f := by
  induction ids generalizing seen with
  | nil => rfl
  | cons id ids ih =>
    have hid : id ∉ seen := hs id List.mem_cons_self
    have hrest : ∀ x ∈ ids, x ∉ id :: seen := by
      intro x hx hmem
      rcases List.mem_cons.1 hmem with rfl | hmem
      · exact (List.nodup_cons.1 hn).1 hx
      · exact hs x (List.mem_cons_of_mem _ hx) hmem
    rw [firstAnswers, if_neg hid, ih (List.nodup_cons.1 hn).2 hrest, List.map_cons]

/-! ## The map of answers -/

/-- Collecting into a map: an id that is not among the pairs keeps what the map had. -/
theorem foldl_update_of_notMem (f : MessageId → Claim) (ids : List MessageId) (answers : MessageId → Option Claim)
    (id : MessageId) (h : id ∉ ids) :
    (ids.map fun x => (x, f x)).foldl Consumer.insertAnswer answers id = answers id := by
  induction ids generalizing answers with
  | nil => rfl
  | cons x ids ih =>
    rw [List.mem_cons, not_or] at h
    rw [List.map_cons, List.foldl_cons, ih _ h.2, Consumer.insertAnswer, Function.update_of_ne h.1]

/-- The map of the ids and their answers has the answer of every id. -/
theorem collect_map (f : MessageId → Claim) (ids : List MessageId) (id : MessageId) (h : id ∈ ids) :
    Consumer.collect (ids.map fun x => (x, f x)) id = some (f id) := by
  unfold Consumer.collect
  generalize (fun _ : MessageId => (none : Option Claim)) = answers
  induction ids generalizing answers with
  | nil => exact absurd h List.not_mem_nil
  | cons x ids ih =>
    rw [List.map_cons, List.foldl_cons]
    by_cases hid : id ∈ ids
    · exact ih hid _
    · rw [foldl_update_of_notMem f ids _ id hid]
      rcases List.mem_cons.1 h with rfl | h
      · exact Function.update_self ..
      · exact absurd h hid

/-- Reading the map: it never misses an id, and leaves a duplicate behind for every repeat. -/
theorem takeAnswers_eq {f : MessageId → Claim} {seen ids : List MessageId} {answers : MessageId → Option Claim}
    (h : ∀ id ∈ ids, answers id = some (if id ∈ seen then .duplicate else f id)) :
    Consumer.takeAnswers answers ids = some (firstAnswers f seen ids) := by
  induction ids generalizing seen answers with
  | nil => rfl
  | cons id ids ih =>
    have hid := h id List.mem_cons_self
    have hrest : ∀ x ∈ ids, Consumer.insertAnswer answers (id, .duplicate) x =
        some (if x ∈ id :: seen then .duplicate else f x) := by
      intro x hx
      by_cases hxi : x = id
      · subst hxi
        rw [Consumer.insertAnswer, Function.update_self, if_pos List.mem_cons_self]
      · rw [Consumer.insertAnswer, Function.update_of_ne hxi, h x (List.mem_cons_of_mem _ hx)]
        simp only [List.mem_cons, hxi, false_or]
    rw [Consumer.takeAnswers, hid, ih hrest]
    rfl

/-- A list of answers as long as a list of distinct ids is the list of the answers of a function on them. -/
theorem exists_map_of_length {ids : List MessageId} {claims : List Claim} (hn : ids.Nodup)
    (hl : claims.length = ids.length) : ∃ f : MessageId → Claim, claims = ids.map f := by
  induction ids generalizing claims with
  | nil => exact ⟨fun _ => .fresh, List.eq_nil_of_length_eq_zero hl⟩
  | cons id ids ih =>
    cases claims with
    | nil => nomatch hl
    | cons claim claims =>
      obtain ⟨hid, hn⟩ := List.nodup_cons.1 hn
      obtain ⟨f, rfl⟩ := ih hn (Nat.succ.inj hl)
      refine ⟨Function.update f id claim, ?_⟩
      rw [List.map_cons, Function.update_self]
      refine congrArg _ (List.map_congr_left fun x hx => ?_)
      have hne : x ≠ id := fun h => hid (h ▸ hx)
      rw [Function.update_of_ne hne]

variable {ε T : Type}

/-- A reply of the right length: every id was sent, so the `expect` is not reached. -/
theorem spreadClaims_map (f : MessageId → Claim) {unique ids : List MessageId} (hsub : ∀ id ∈ ids, id ∈ unique) :
    (Consumer.spreadClaims unique ids (unique.map f) : ConnProg ε T _) = .ret (.ok (firstAnswers f [] ids)) := by
  have hz : unique.zip (unique.map f) = unique.map fun x => (x, f x) := by
    simpa using List.zip_map' (f := id) (g := f) (l := unique)
  have ht : Consumer.takeAnswers (Consumer.collect (unique.zip (unique.map f))) ids = some (firstAnswers f [] ids) := by
    apply takeAnswers_eq
    intro id hid
    rw [hz, collect_map f unique id (hsub id hid), if_neg List.not_mem_nil]
  unfold Consumer.spreadClaims
  rw [if_neg (by rw [List.length_map]; exact fun h => h rfl), ht]
  rfl

/-- A reply of the wrong length is a backend error. -/
theorem spreadClaims_of_length_ne {unique ids : List MessageId} {claims : List Claim}
    (h : claims.length ≠ unique.length) :
    (Consumer.spreadClaims unique ids claims : ConnProg ε T _) =
      .ret (.error (Consumer.lengthError claims.length unique.length)) := by
  unfold Consumer.spreadClaims
  rw [if_pos h]
  rfl

namespace Consumer

theorem mem_batch (self : Consumer) (ids : List MessageId) (id : MessageId) : id ∈ (self.batch ids).ids ↔ id ∈ ids :=
  mem_sortUniq id ids

theorem nodup_batch (self : Consumer) (ids : List MessageId) : (self.batch ids).ids.Nodup := nodup_sortUniq ids

/-- `claim_many` makes one call, and answers from its reply. -/
theorem claimMany_eq (self : Consumer) {ids : List MessageId} (h : ids ≠ []) :
    (self.claimMany ids : ConnProg ε T _) = .call (.claimMany (self.batch ids)) (fun r =>
      match r with
      | .error e => .ret (.error e)
      | .ok claims => spreadClaims (self.batch ids).ids ids claims) := by
  unfold claimMany
  rw [if_neg (by simpa using h)]
  refine congrArg (Prog.call _) (funext fun r => ?_)
  cases r <;> rfl

end Consumer

/-! ## On the reference rows -/

/-- The keys of some messages of a consumer. -/
def keysOf (consumer : ConsumerId) (ids : List MessageId) : Finset Key := (ids.map fun id => (consumer, id)).toFinset

theorem mem_keysOf (consumer : ConsumerId) (ids : List MessageId) (key : Key) :
    key ∈ keysOf consumer ids ↔ key.1 = consumer ∧ key.2 ∈ ids := by
  obtain ⟨c, id⟩ := key
  simp only [keysOf, List.mem_toFinset, List.mem_map, Prod.mk.injEq]
  constructor
  · rintro ⟨x, hx, rfl, rfl⟩
    exact ⟨rfl, hx⟩
  · rintro ⟨rfl, hx⟩
    exact ⟨id, hx, rfl, rfl⟩

/-- The answer of a claim on rows. -/
def claimOf (consumer : ConsumerId) (rows : Finset Key) (id : MessageId) : Claim :=
  if (consumer, id) ∈ rows then .duplicate else .fresh

/-- One claim per id is the rows' own answer at the first occurrence and a duplicate at a repeat, and leaves every key claimed. -/
theorem claimEach_eq (consumer : ConsumerId) (rows : Finset Key) (seen ids : List MessageId) :
    claimEach consumer (rows ∪ keysOf consumer seen) ids =
      (firstAnswers (claimOf consumer rows) seen ids, rows ∪ keysOf consumer seen ∪ keysOf consumer ids) := by
  induction ids generalizing seen with
  | nil => simp [claimEach, firstAnswers, keysOf]
  | cons id ids ih =>
    have hins : insert (consumer, id) (rows ∪ keysOf consumer seen) = rows ∪ keysOf consumer (id :: seen) := by
      ext key
      simp only [keysOf, List.map_cons, List.toFinset_cons, Finset.mem_insert, Finset.mem_union]
      tauto
    have hall : rows ∪ keysOf consumer (id :: seen) ∪ keysOf consumer ids =
        rows ∪ keysOf consumer seen ∪ keysOf consumer (id :: ids) := by
      ext key
      simp only [keysOf, List.map_cons, List.toFinset_cons, Finset.mem_insert, Finset.mem_union]
      tauto
    have hstep : claimRow (rows ∪ keysOf consumer seen) (consumer, id) =
        (if id ∈ seen then .duplicate else claimOf consumer rows id, rows ∪ keysOf consumer (id :: seen)) := by
      unfold claimRow claimOf
      by_cases hs : id ∈ seen
      · have hmem : (consumer, id) ∈ rows ∪ keysOf consumer seen := by
          rw [Finset.mem_union, mem_keysOf]
          exact Or.inr ⟨rfl, hs⟩
        rw [if_pos hmem, if_pos hs, ← hins, Finset.insert_eq_of_mem hmem]
      · by_cases hr : (consumer, id) ∈ rows
        · have hmem : (consumer, id) ∈ rows ∪ keysOf consumer seen := Finset.mem_union_left _ hr
          rw [if_pos hmem, if_neg hs, if_pos hr, ← hins, Finset.insert_eq_of_mem hmem]
        · have hmem : (consumer, id) ∉ rows ∪ keysOf consumer seen := by
            rw [Finset.mem_union, mem_keysOf]
            rintro (h | ⟨_, h⟩)
            · exact hr h
            · exact hs h
          rw [if_neg hmem, if_neg hs, if_neg hr, hins]
    rw [claimEach, hstep]
    simp only [ih, firstAnswers, hall]

/-- One claim per id from the rows as they are. -/
theorem claimEach_rows (consumer : ConsumerId) (rows : Finset Key) (ids : List MessageId) :
    claimEach consumer rows ids =
      (firstAnswers (claimOf consumer rows) [] ids, rows ∪ keysOf consumer ids) := by
  have h := claimEach_eq consumer rows [] ids
  have hnil : rows ∪ keysOf consumer [] = rows := by simp [keysOf]
  rw [hnil] at h
  exact h

end Txbox
