import Txbox.Lemmas.BatchLoop

/-!
# A batch is a loop over `process`

The simulation between a batch and one transaction per message: while the loop has committed the messages so far, the batch holds
the same rows and, uncommitted, the claims of the fresh messages still to come. The relation breaks at a repeat of a failed
message, which the loop would try again and the batch reports as failed; without such repeats the two agree on everything.
-/

namespace Txbox

open Lib Reference BatchAux

variable {ε T H D : Type}

/-- Call `process` for each id in order, each in its own transaction. -/
def Backend.processEach {World Db Tx : Type} (b : Backend ε T World Db Tx) (self : Consumer) :
    List MessageId → World → Db → List (Prog.Ended (Except (InboxError ε) (Outcome T))) × World × Db
  | [], w, db => ([], w, db)
  | id :: ids, w, db =>
    let (r, w', db') := b.run none (self.process id) w db
    let (rs, w'', db'') := b.processEach self ids w' db'
    (r :: rs, w'', db'')

/-- No id whose handler failed occurs again later in the batch. -/
def NoRepeatedFailure (ids : List MessageId) (results : List (ProcessResult ε T)) : Prop :=
  ∀ (i j : Nat) (id : MessageId) (e : HandlerError ε), i < j → ids[i]? = some id → ids[j]? = some id →
    results[i]? ≠ some (.error e)

/-- What `process` returns where the batch reports `r`: the handler's error, wrapped. -/
def asProcess (r : ProcessResult ε T) : Prog.Ended (Except (InboxError ε) (Outcome T)) :=
  .returned (r.mapError .handler)

namespace LoopAux

theorem noRepeatedFailure_tail {ids : List MessageId} {results : List (ProcessResult ε T)} {id : MessageId}
    {r : ProcessResult ε T} (h : NoRepeatedFailure (id :: ids) (r :: results)) : NoRepeatedFailure ids results := by
  intro i j x e hij hi hj
  exact h (i + 1) (j + 1) x e (by omega) hi hj

/-- A failure at the head does not occur again. -/
theorem notMem_of_noRepeatedFailure {ids : List MessageId} {results : List (ProcessResult ε T)} {id : MessageId}
    {e : HandlerError ε} (h : NoRepeatedFailure (id :: ids) (.error e :: results)) : id ∉ ids := by
  intro hmem
  obtain ⟨j, hj⟩ := List.mem_iff_getElem?.1 hmem
  exact h 0 (j + 1) id e (by omega) rfl hj rfl

/-- The batch's table, part of the way through: the loop's rows, and the claims of the fresh messages of the rest. -/
structure Ahead (consumer : ConsumerId) (rows : Finset Key) (ids failed : List MessageId) (batch loop : Database D) :
    Prop where
  claimed : ∀ key, key ∈ rows ↔ key ∈ loop.rows ∨ key ∈ keysOf consumer failed
  rows : ∀ key, key ∈ batch.rows ↔ key ∈ loop.rows ∨ key ∈ keysOf consumer (freshIds consumer rows ids)
  data : batch.data = loop.data
  failed : ∀ x ∈ failed, x ∉ ids

variable {consumer : ConsumerId} {rows : Finset Key} {id : MessageId} {ids failed : List MessageId}
  {batch loop : Database D}

/-- With no message left the tables are the same. -/
theorem Ahead.done (h : Ahead consumer rows [] failed batch loop) : batch = loop := by
  have hrows : batch.rows = loop.rows := by
    apply Finset.ext
    intro key
    rw [h.rows]
    simp [freshIds, keysOf]
  have hdata := h.data
  cases batch
  cases loop
  simp only at hrows hdata
  rw [hrows, hdata]

/-- A recorded message: both skip it. -/
theorem Ahead.known (h : Ahead consumer rows (id :: ids) failed batch loop) (hk : (consumer, id) ∈ rows) :
    (consumer, id) ∈ loop.rows ∧ id ∉ failed ∧ Ahead consumer rows ids failed batch loop := by
  have hf : id ∉ failed := fun hf => h.failed id hf List.mem_cons_self
  have hl : (consumer, id) ∈ loop.rows := by
    rcases (h.claimed _).1 hk with hl | hl
    · exact hl
    · exact absurd ((mem_keysOf _ _ _).1 hl).2 hf
  refine ⟨hl, hf, h.claimed, fun key => ?_, h.data, fun x hx hmem => h.failed x hx (List.mem_cons_of_mem _ hmem)⟩
  rw [h.rows, freshIds, if_pos hk]

/-- A new message is new to both. -/
theorem Ahead.new (h : Ahead consumer rows (id :: ids) failed batch loop) (hk : (consumer, id) ∉ rows) :
    (consumer, id) ∉ loop.rows := fun hl => hk ((h.claimed _).2 (Or.inl hl))

/-- A message whose handler succeeded: the batch keeps its claim, the loop commits its row. -/
theorem Ahead.ok (h : Ahead consumer rows (id :: ids) failed batch loop) (hk : (consumer, id) ∉ rows) (data : D) :
    Ahead consumer (insert (consumer, id) rows) ids failed { batch with data } ⟨insert (consumer, id) loop.rows, data⟩ := by
  refine ⟨fun key => ?_, fun key => ?_, rfl, fun x hx hmem => h.failed x hx (List.mem_cons_of_mem _ hmem)⟩
  · rw [Finset.mem_insert, Finset.mem_insert, h.claimed, or_assoc]
  · have hr := h.rows key
    rw [freshIds, if_neg hk] at hr
    simp only [hr, keysOf, List.map_cons, List.toFinset_cons, Finset.mem_insert]
    tauto

/-- A message whose handler failed, and does not come again: the batch deletes its claim, the loop commits nothing. -/
theorem Ahead.error (h : Ahead consumer rows (id :: ids) failed batch loop) (hk : (consumer, id) ∉ rows)
    (hid : id ∉ ids) :
    Ahead consumer (insert (consumer, id) rows) ids (id :: failed)
      { batch with rows := batch.rows.erase (consumer, id) } loop := by
  refine ⟨fun key => ?_, fun key => ?_, h.data, fun x hx hmem => ?_⟩
  · rw [Finset.mem_insert, h.claimed]
    simp only [keysOf, List.map_cons, List.toFinset_cons, Finset.mem_insert]
    tauto
  · have hr := h.rows key
    rw [freshIds, if_neg hk] at hr
    have hnew := h.new hk
    have hrest : (consumer, id) ∉ keysOf consumer (freshIds consumer (insert (consumer, id) rows) ids) := by
      rw [mem_keysOf, mem_freshIds]
      exact fun hmem => hid hmem.2.1
    simp only [Finset.mem_erase, hr]
    simp only [keysOf, List.map_cons, List.toFinset_cons, Finset.mem_insert] at hrest ⊢
    constructor
    · rintro ⟨hne, hl | hl | hl⟩
      · exact Or.inl hl
      · exact absurd hl hne
      · exact Or.inr hl
    · rintro (hl | hl)
      · exact ⟨fun he => hnew (he ▸ hl), Or.inl hl⟩
      · exact ⟨fun he => hrest (he ▸ hl), Or.inr (Or.inr hl)⟩
  · rcases List.mem_cons.1 hx with rfl | hx
    · exact hid hmem
    · exact h.failed x hx (List.mem_cons_of_mem _ hmem)

/-- The simulation: from related tables, the loop over `process` ends with the batch's results, calls and table. -/
theorem processEach_eq_loopOn (handler : Handler ε T H D) (self : Consumer) (w : HandlerState ε T H D)
    (h : Ahead self.id rows ids failed batch loop)
    (hp : NoRepeatedFailure ids (loopOn handler self.id rows ids failed w batch).1) :
    (backend handler).processEach self ids w loop =
      ((loopOn handler self.id rows ids failed w batch).1.map asProcess,
        (loopOn handler self.id rows ids failed w batch).2) := by
  induction ids generalizing rows failed w batch loop with
  | nil => rw [h.done]; rfl
  | cons id ids ih =>
    rw [Backend.processEach, run_process]
    by_cases hk : (self.id, id) ∈ rows
    · obtain ⟨hl, hf, hrest⟩ := h.known hk
      rw [loopOn_known handler self.id ids failed w batch hk] at hp ⊢
      rw [processOne, if_pos hl, if_neg (fun hc => hf (List.contains_iff_mem.1 hc))]
      simp only [ih w hrest (noRepeatedFailure_tail hp)]
      rfl
    · have hdata := h.data
      rw [processOne, if_neg (h.new hk), runHandler, ← hdata]
      cases hr : (handler w.closure batch.data id).1 with
      | ok value =>
        rw [loopOn_ok handler self.id ids failed w batch hk hr] at hp ⊢
        have hrest := ih (afterCall handler w batch id) (h.ok hk (handler w.closure batch.data id).2.2)
          (noRepeatedFailure_tail hp)
        simp only [hr]
        simp only [afterCall, hr] at hrest ⊢
        rw [hrest]
        rfl
      | error e =>
        rw [loopOn_error handler self.id ids failed w batch hk hr] at hp ⊢
        have hrest := ih (afterCall handler w batch id) (h.error hk (notMem_of_noRepeatedFailure hp))
          (noRepeatedFailure_tail hp)
        simp only [hr]
        simp only [afterCall, hr] at hrest ⊢
        rw [hrest]
        rfl

end LoopAux

open LoopAux

/-- `process_many` has the semantics of a loop over `process`: it returns, and for a batch in which no failed id occurs again the
loop gives the same results, the same handler calls on the same data, and commits the same rows and data. -/
theorem processMany_eq_processEach (handler : Handler ε T H D) (self : Consumer) (ids : List MessageId)
    (w : HandlerState ε T H D) (db : Database D) :
    ∃ (results : List (ProcessResult ε T)) (w' : HandlerState ε T H D) (db' : Database D),
      (backend handler).run none (self.processMany ids) w db = (.returned (.ok results), w', db') ∧
        (NoRepeatedFailure ids results →
          (backend handler).processEach self ids w db = (results.map asProcess, w', db')) := by
  obtain ⟨db₁, hdb₁⟩ : ∃ db₁ : Database D, db₁ = { db with rows := (claimEach self.id db.rows ids).2 } := ⟨_, rfl⟩
  have hrun : batchRun handler self.id ids w db = loopOn handler self.id db.rows ids [] w db₁ := by rw [hdb₁]; rfl
  refine ⟨_, _, _, run_processMany handler self ids w db, fun hp => ?_⟩
  rw [hrun] at hp ⊢
  refine processEach_eq_loopOn handler self w ⟨fun key => ?_, fun key => ?_, by rw [hdb₁], by simp⟩ hp
  · simp [keysOf]
  · rw [hdb₁, claimEach_rows, Finset.mem_union, mem_keysOf, mem_keysOf, mem_freshIds]
    constructor
    · rintro (hk | ⟨hc, hk⟩)
      · exact Or.inl hk
      · by_cases hr : key ∈ db.rows
        · exact Or.inl hr
        · exact Or.inr ⟨hc, hk, hc ▸ hr⟩
    · rintro (hk | ⟨hc, hk, _⟩)
      · exact Or.inl hk
      · exact Or.inr ⟨hc, hk⟩

/-- A handler that counts its messages in the business data and fails on the first. -/
def failsFirst : Handler Unit Nat Unit Nat := fun _ data id => (if id.asStr = "a" then .error (.boxed ()) else .ok data, (), data + 1)

/-- Two messages, the first of which fails. -/
theorem processMany_eq_processEach_failsFirst :
    let self : Consumer := ⟨⟨"c", by decide⟩, none⟩
    let ids : List MessageId := [⟨"a", by decide⟩, ⟨"b", by decide⟩]
    ∃ results w' db', (backend failsFirst).run none (self.processMany ids) ⟨(), []⟩ ⟨∅, 0⟩ = (.returned (.ok results), w', db') ∧
      NoRepeatedFailure ids results ∧
      (backend failsFirst).processEach self ids ⟨(), []⟩ ⟨∅, 0⟩ = (results.map asProcess, w', db') := by
  intro self ids
  obtain ⟨results, w', db', hrun, heq⟩ := processMany_eq_processEach failsFirst self ids ⟨(), []⟩ ⟨∅, 0⟩
  have hnodup : ids.Nodup := by decide
  have hrepeat : NoRepeatedFailure ids results := by
    intro i j id e hij hi hj
    have hlt : i < ids.length := (List.getElem?_eq_some_iff.1 hi).1
    have hsame : i = j := (List.getElem?_inj hlt hnodup).1 (hi.trans hj.symm)
    omega
  exact ⟨results, w', db', hrun, hrepeat, heq hrepeat⟩

end Txbox
