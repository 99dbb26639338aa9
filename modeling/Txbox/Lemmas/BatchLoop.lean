import Txbox.Lemmas.Batch

/-!
# The loop of a batch, id by id

The ids a batch handles (`freshIds`), the calls of the handler they lead to (`runHandlers`), and the equations of the batch's loop
on the caller's ids (`loopOn`): a recorded or repeated id, a new id whose handler succeeds, a new id whose handler fails.
-/

namespace Txbox

open Lib Reference

variable {ε T H D : Type}

/-- Run the handler for some messages in order; the data of a failed call is thrown away, its closure state is not. The calls, the
closure state and the data after them. -/
def runHandlers (handler : Handler ε T H D) : H → D → List MessageId → List (HandlerCall ε T H D) × H × D
  | closure, data, [] => ([], closure, data)
  | closure, data, id :: ids =>
    let (result, closure', data') := handler closure data id
    let (calls, closure'', data'') := runHandlers handler closure' (if result.isOk then data' else data) ids
    (⟨id, closure, data, result⟩ :: calls, closure'', data'')

/-- The ids a batch runs its handler for: those not recorded in `rows`, each at its first occurrence. -/
def freshIds (consumer : ConsumerId) : Finset Key → List MessageId → List MessageId
  | _, [] => []
  | rows, id :: ids =>
    if (consumer, id) ∈ rows then freshIds consumer rows ids
    else id :: freshIds consumer (insert (consumer, id) rows) ids

namespace BatchAux

/-! ## The ids that are handled -/

theorem mem_freshIds (consumer : ConsumerId) (rows : Finset Key) (ids : List MessageId) (id : MessageId) :
    id ∈ freshIds consumer rows ids ↔ id ∈ ids ∧ (consumer, id) ∉ rows := by
  induction ids generalizing rows with
  | nil => simp [freshIds]
  | cons x ids ih =>
    unfold freshIds
    by_cases hx : (consumer, x) ∈ rows
    · rw [if_pos hx, ih, List.mem_cons]
      constructor
      · rintro ⟨h1, h2⟩
        exact ⟨Or.inr h1, h2⟩
      · rintro ⟨rfl | h1, h2⟩
        · exact absurd hx h2
        · exact ⟨h1, h2⟩
    · rw [if_neg hx, List.mem_cons, ih, List.mem_cons, Finset.mem_insert, Prod.mk.injEq]
      by_cases hid : id = x
      · subst hid
        simp [hx]
      · simp [hid]

theorem nodup_freshIds (consumer : ConsumerId) (rows : Finset Key) (ids : List MessageId) :
    (freshIds consumer rows ids).Nodup := by
  induction ids generalizing rows with
  | nil => exact List.nodup_nil
  | cons x ids ih =>
    unfold freshIds
    by_cases hx : (consumer, x) ∈ rows
    · rw [if_pos hx]
      exact ih rows
    · rw [if_neg hx, List.nodup_cons, mem_freshIds]
      exact ⟨fun h => h.2 (Finset.mem_insert_self _ _), ih _⟩

/-- An id that is recorded is handled nowhere in the batch. -/
theorem freshIds_insert (consumer : ConsumerId) (rows : Finset Key) (x : MessageId) (ids : List MessageId) :
    freshIds consumer (insert (consumer, x) rows) ids = freshIds consumer rows (ids.filter (fun y => !y == x)) := by
  induction ids generalizing rows with
  | nil => rfl
  | cons y ids ih =>
    by_cases hyx : y = x
    · subst hyx
      rw [freshIds, if_pos (Finset.mem_insert_self _ _), ih, List.filter_cons_of_neg (by simp)]
    · have hmem : (consumer, y) ∈ insert (consumer, x) rows ↔ (consumer, y) ∈ rows := by
        simp [hyx]
      rw [List.filter_cons_of_pos (by simpa using hyx), freshIds, freshIds]
      by_cases hy : (consumer, y) ∈ rows
      · rw [if_pos (hmem.2 hy), if_pos hy, ih]
      · rw [if_neg (fun h => hy (hmem.1 h)), if_neg hy, Finset.insert_comm, ih]

/-- The ids that are handled, in the order of their first occurrence. -/
theorem freshIds_eq (consumer : ConsumerId) (rows : Finset Key) (ids : List MessageId) :
    freshIds consumer rows ids = ids.eraseDups.filter (fun id => (consumer, id) ∉ rows) := by
  induction h : ids.length using Nat.strong_induction_on generalizing ids with
  | h n ih =>
    cases ids with
    | nil => rfl
    | cons x ids =>
      have hlen : (ids.filter (fun y => !y == x)).length < n := by
        rw [← h, List.length_cons]
        exact Nat.lt_succ_of_le (List.length_filter_le _ _)
      rw [List.eraseDups_cons, freshIds]
      by_cases hx : (consumer, x) ∈ rows
      · have hins := freshIds_insert consumer rows x ids
        rw [Finset.insert_eq_of_mem hx] at hins
        rw [if_pos hx, List.filter_cons_of_neg (by simpa using hx), hins]
        exact ih _ hlen _ rfl
      · rw [if_neg hx, List.filter_cons_of_pos (by simpa using hx), freshIds_insert]
        exact congrArg _ (ih _ hlen _ rfl)

/-! ## The calls of the handler -/

/-- The handler is called once for every id, in order. -/
theorem runHandlers_ids (handler : Handler ε T H D) (closure : H) (data : D) (ids : List MessageId) :
    (runHandlers handler closure data ids).1.map (·.id) = ids := by
  induction ids generalizing closure data with
  | nil => rfl
  | cons id ids ih =>
    rw [runHandlers, List.map_cons]
    exact congrArg _ (ih _ _)

/-- The data after the calls is what the successful ones wrote, in order, each on the data the ones before it left. -/
theorem runHandlers_data (handler : Handler ε T H D) (closure : H) (data : D) (ids : List MessageId) :
    (runHandlers handler closure data ids).2.2 =
      ((runHandlers handler closure data ids).1.filter (·.succeeded)).foldl (HandlerCall.write handler) data := by
  induction ids generalizing closure data with
  | nil => rfl
  | cons id ids ih =>
    rw [runHandlers]
    simp only
    cases hr : (handler closure data id).1.isOk with
    | false =>
      rw [List.filter_cons_of_neg (by simp [HandlerCall.succeeded, hr]), if_neg (by simp)]
      exact ih _ _
    | true =>
      rw [List.filter_cons_of_pos (by simp [HandlerCall.succeeded, hr]), if_pos rfl, List.foldl_cons]
      exact ih _ _

/-- Every call is answered as the handler answers it. -/
theorem runHandlers_result (handler : Handler ε T H D) (closure : H) (data : D) (ids : List MessageId) :
    ∀ call ∈ (runHandlers handler closure data ids).1, call.result = (handler call.closure call.data call.id).1 := by
  induction ids generalizing closure data with
  | nil => exact fun call hcall => absurd hcall List.not_mem_nil
  | cons id ids ih =>
    intro call hcall
    rw [runHandlers] at hcall
    rcases List.mem_cons.1 hcall with rfl | hcall
    · rfl
    · exact ih _ _ call hcall

/-- The closure after the calls is that of the last one. -/
theorem runHandlers_closure (handler : Handler ε T H D) (closure : H) (data : D) (ids : List MessageId) :
    (runHandlers handler closure data ids).2.1 = closureAfter handler closure (runHandlers handler closure data ids).1 := by
  induction ids generalizing closure data with
  | nil => rfl
  | cons id ids ih => exact ih _ _

/-- Every call gets the closure that the one before it left. -/
theorem runHandlers_threaded (handler : Handler ε T H D) (closure : H) (data : D) (ids : List MessageId)
    (pre post : List (HandlerCall ε T H D)) (call : HandlerCall ε T H D)
    (h : (runHandlers handler closure data ids).1 = pre ++ call :: post) : call.closure = closureAfter handler closure pre := by
  induction ids generalizing closure data pre with
  | nil => simp [runHandlers] at h
  | cons id ids ih =>
    rw [runHandlers] at h
    cases pre with
    | nil =>
      obtain ⟨h1, _⟩ := List.cons.inj h
      rw [← h1]
      rfl
    | cons c pre =>
      obtain ⟨h1, h2⟩ := List.cons.inj h
      rw [ih _ _ pre h2, ← h1]
      rfl

/-- Every call sees the data that the successful calls before it wrote. -/
theorem runHandlers_visible (handler : Handler ε T H D) (closure : H) (data : D) (ids : List MessageId)
    (pre post : List (HandlerCall ε T H D)) (call : HandlerCall ε T H D)
    (h : (runHandlers handler closure data ids).1 = pre ++ call :: post) :
    call.data = (pre.filter (·.succeeded)).foldl (HandlerCall.write handler) data := by
  induction ids generalizing closure data pre with
  | nil => simp [runHandlers] at h
  | cons id ids ih =>
    rw [runHandlers] at h
    cases pre with
    | nil =>
      obtain ⟨h1, _⟩ := List.cons.inj h
      rw [← h1]
      rfl
    | cons c pre =>
      obtain ⟨h1, h2⟩ := List.cons.inj h
      have hd := ih _ _ pre h2
      rw [hd, ← h1]
      cases hr : (handler closure data id).1.isOk with
      | false => rw [List.filter_cons_of_neg (by simp [HandlerCall.succeeded, hr]), if_neg (by simp)]
      | true =>
        rw [List.filter_cons_of_pos (by simp [HandlerCall.succeeded, hr]), if_pos rfl, List.foldl_cons]
        rfl

/-! ## The loop of the batch, id by id -/

/-- The loop of a batch whose claims are taken on `rows`. -/
def loopOn (handler : Handler ε T H D) (consumer : ConsumerId) (rows : Finset Key) (ids failed : List MessageId)
    (w : HandlerState ε T H D) (db : Database D) : List (ProcessResult ε T) × HandlerState ε T H D × Database D :=
  batchLoop handler consumer (ids.zip (claimEach consumer rows ids).1) failed w db

variable (handler : Handler ε T H D) (consumer : ConsumerId) {rows : Finset Key} {id : MessageId}
  (ids failed : List MessageId) (w : HandlerState ε T H D) (db : Database D)

/-- A recorded or repeated id. -/
theorem loopOn_known (h : (consumer, id) ∈ rows) :
    loopOn handler consumer rows (id :: ids) failed w db =
      ((if failed.contains id then .error (Consumer.repeatError id) else .ok .duplicate) ::
        (loopOn handler consumer rows ids failed w db).1, (loopOn handler consumer rows ids failed w db).2) := by
  unfold loopOn
  rw [claimEach, claimRow, if_pos h]
  rfl

/-- The handler's side after one call. -/
def afterCall (id : MessageId) : HandlerState ε T H D :=
  ⟨(handler w.closure db.data id).2.1, w.calls ++ [⟨id, w.closure, db.data, (handler w.closure db.data id).1⟩]⟩

/-- A new id whose handler succeeds. -/
theorem loopOn_ok (h : (consumer, id) ∉ rows) {value : T} (hr : (handler w.closure db.data id).1 = .ok value) :
    loopOn handler consumer rows (id :: ids) failed w db =
      (.ok (.processed value) :: (loopOn handler consumer (insert (consumer, id) rows) ids failed
          (afterCall handler w db id) { db with data := (handler w.closure db.data id).2.2 }).1,
        (loopOn handler consumer (insert (consumer, id) rows) ids failed
          (afterCall handler w db id) { db with data := (handler w.closure db.data id).2.2 }).2) := by
  unfold loopOn afterCall
  rw [claimEach, claimRow, if_neg h, hr]
  simp only [List.zip_cons_cons, batchLoop, runHandler, hr]

/-- A new id whose handler fails. -/
theorem loopOn_error (h : (consumer, id) ∉ rows) {e : HandlerError ε}
    (hr : (handler w.closure db.data id).1 = .error e) :
    loopOn handler consumer rows (id :: ids) failed w db =
      (.error e :: (loopOn handler consumer (insert (consumer, id) rows) ids (id :: failed)
          (afterCall handler w db id) { db with rows := db.rows.erase (consumer, id) }).1,
        (loopOn handler consumer (insert (consumer, id) rows) ids (id :: failed)
          (afterCall handler w db id) { db with rows := db.rows.erase (consumer, id) }).2) := by
  unfold loopOn afterCall
  rw [claimEach, claimRow, if_neg h, hr]
  simp only [List.zip_cons_cons, batchLoop, runHandler, hr]

/-! ## What the loop leaves -/

/-- The calls a batch makes, from the state it starts in. -/
def callsOn (rows : Finset Key) : List (HandlerCall ε T H D) :=
  (runHandlers handler w.closure db.data (freshIds consumer rows ids)).1

theorem callsOn_known (h : (consumer, id) ∈ rows) :
    callsOn handler consumer (id :: ids) w db rows = callsOn handler consumer ids w db rows := by
  rw [callsOn, freshIds, if_pos h, callsOn]

theorem callsOn_ok (h : (consumer, id) ∉ rows) {value : T} (hr : (handler w.closure db.data id).1 = .ok value) :
    callsOn handler consumer (id :: ids) w db rows =
      ⟨id, w.closure, db.data, .ok value⟩ :: callsOn handler consumer ids (afterCall handler w db id)
        { db with data := (handler w.closure db.data id).2.2 } (insert (consumer, id) rows) := by
  rw [callsOn, freshIds, if_neg h, runHandlers, callsOn, afterCall]
  simp only [hr, Except.isOk, Except.toBool, if_true]

theorem callsOn_error (h : (consumer, id) ∉ rows) {e : HandlerError ε}
    (hr : (handler w.closure db.data id).1 = .error e) :
    callsOn handler consumer (id :: ids) w db rows =
      ⟨id, w.closure, db.data, .error e⟩ :: callsOn handler consumer ids (afterCall handler w db id)
        { db with rows := db.rows.erase (consumer, id) } (insert (consumer, id) rows) := by
  rw [callsOn, freshIds, if_neg h, runHandlers, callsOn, afterCall]
  simp only [hr, Except.isOk, Except.toBool, Bool.false_eq_true, if_false]

/-- Every call is for an id of the batch that was not recorded. -/
theorem mem_callsOn {call : HandlerCall ε T H D} (h : call ∈ callsOn handler consumer ids w db rows) :
    call.id ∈ ids ∧ (consumer, call.id) ∉ rows := by
  rw [← mem_freshIds, ← runHandlers_ids handler w.closure db.data (freshIds consumer rows ids)]
  exact List.mem_map_of_mem h

/-- The handler's side and the business data after the loop. -/
theorem loopOn_state (rows : Finset Key) :
    (loopOn handler consumer rows ids failed w db).2.1.calls = w.calls ++ callsOn handler consumer ids w db rows ∧
      ((loopOn handler consumer rows ids failed w db).2.1.closure, (loopOn handler consumer rows ids failed w db).2.2.data) =
        (runHandlers handler w.closure db.data (freshIds consumer rows ids)).2 := by
  induction ids generalizing rows failed w db with
  | nil => exact ⟨(List.append_nil _).symm, rfl⟩
  | cons id ids ih =>
    by_cases h : (consumer, id) ∈ rows
    · rw [loopOn_known handler consumer ids failed w db h, callsOn_known handler consumer ids w db h, freshIds, if_pos h]
      exact ih failed w db rows
    · cases hr : (handler w.closure db.data id).1 with
      | ok value =>
        rw [loopOn_ok handler consumer ids failed w db h hr, callsOn_ok handler consumer ids w db h hr, freshIds,
          if_neg h, runHandlers]
        simp only [hr, Except.isOk, Except.toBool, if_true]
        obtain ⟨h1, h2⟩ := ih failed (afterCall handler w db id) { db with data := (handler w.closure db.data id).2.2 }
          (insert (consumer, id) rows)
        refine ⟨?_, h2⟩
        rw [h1]
        simp only [afterCall, hr, List.append_assoc, List.singleton_append]
      | error e =>
        rw [loopOn_error handler consumer ids failed w db h hr, callsOn_error handler consumer ids w db h hr, freshIds,
          if_neg h, runHandlers]
        simp only [hr, Except.isOk, Except.toBool, Bool.false_eq_true, if_false]
        obtain ⟨h1, h2⟩ := ih (id :: failed) (afterCall handler w db id) { db with rows := db.rows.erase (consumer, id) }
          (insert (consumer, id) rows)
        refine ⟨?_, h2⟩
        rw [h1]
        simp only [afterCall, hr, List.append_assoc, List.singleton_append]

/-- The loop deletes exactly the claims of the ids whose handler failed. -/
theorem loopOn_rows (rows : Finset Key) (key : Key) :
    key ∈ (loopOn handler consumer rows ids failed w db).2.2.rows ↔
      key ∈ db.rows ∧ ∀ call ∈ callsOn handler consumer ids w db rows, (consumer, call.id) = key → call.succeeded = true := by
  induction ids generalizing rows failed w db with
  | nil => simp [loopOn, batchLoop, callsOn, freshIds, runHandlers]
  | cons id ids ih =>
    by_cases h : (consumer, id) ∈ rows
    · rw [loopOn_known handler consumer ids failed w db h, callsOn_known handler consumer ids w db h]
      exact ih failed w db rows
    · cases hr : (handler w.closure db.data id).1 with
      | ok value =>
        rw [loopOn_ok handler consumer ids failed w db h hr, callsOn_ok handler consumer ids w db h hr, ih]
        simp [HandlerCall.succeeded, Except.isOk, Except.toBool]
      | error e =>
        rw [loopOn_error handler consumer ids failed w db h hr, callsOn_error handler consumer ids w db h hr, ih]
        simp only [Finset.mem_erase, List.forall_mem_cons, HandlerCall.succeeded, Except.isOk, Except.toBool,
          Bool.false_eq_true, imp_false]
        tauto

theorem loopOn_length (rows : Finset Key) : (loopOn handler consumer rows ids failed w db).1.length = ids.length := by
  induction ids generalizing rows failed w db with
  | nil => rfl
  | cons id ids ih =>
    by_cases h : (consumer, id) ∈ rows
    · rw [loopOn_known handler consumer ids failed w db h, List.length_cons, List.length_cons, ih]
    · cases hr : (handler w.closure db.data id).1 with
      | ok value => rw [loopOn_ok handler consumer ids failed w db h hr, List.length_cons, List.length_cons, ih]
      | error e => rw [loopOn_error handler consumer ids failed w db h hr, List.length_cons, List.length_cons, ih]

/-- The handler of the id has failed, before the loop or in it. -/
def Poisoned (failed : List MessageId) (calls : List (HandlerCall ε T H D)) (id : MessageId) : Prop :=
  id ∈ failed ∨ ∃ call ∈ calls, call.id = id ∧ call.succeeded = false

/-- What the loop reports for an id: at a recorded or repeated one the failure of its handler, if it failed, and a duplicate
otherwise; at the first occurrence of a new one what its handler returned. -/
structure Reported (rows : Finset Key) (failed before : List MessageId) (calls : List (HandlerCall ε T H D))
    (id : MessageId) (r : ProcessResult ε T) : Prop where
  poisoned : (consumer, id) ∈ rows ∨ id ∈ before → Poisoned failed calls id → r = .error (Consumer.repeatError id)
  duplicate : (consumer, id) ∈ rows ∨ id ∈ before → ¬Poisoned failed calls id → r = .ok .duplicate
  first : ¬((consumer, id) ∈ rows ∨ id ∈ before) → ∃ call ∈ calls, call.id = id ∧ r = call.result.map .processed

/-- A report about the rest of the batch, after one more id was recorded, is one about the whole. -/
theorem Reported.cons {rows : Finset Key} {failed failed' before : List MessageId} {calls calls' : List (HandlerCall ε T H D)}
    {x id : MessageId} {r : ProcessResult ε T}
    (h : Reported consumer (insert (consumer, x) rows) failed' before calls' id r)
    (hp : Poisoned failed calls id ↔ Poisoned failed' calls' id) (hsub : ∀ call ∈ calls', call ∈ calls) :
    Reported consumer rows failed (x :: before) calls id r := by
  have hiff : (consumer, id) ∈ insert (consumer, x) rows ∨ id ∈ before ↔ (consumer, id) ∈ rows ∨ id ∈ x :: before := by
    simp only [Finset.mem_insert, Prod.mk.injEq, true_and, List.mem_cons]
    tauto
  refine ⟨fun hk hpo => h.poisoned (hiff.2 hk) (hp.1 hpo), fun hk hpo => h.duplicate (hiff.2 hk) (fun h' => hpo (hp.2 h')),
    fun hk => ?_⟩
  obtain ⟨call, hc, hid, hr⟩ := h.first (fun h' => hk (hiff.1 h'))
  exact ⟨call, hsub call hc, hid, hr⟩

/-- The report about a new id is its handler call's result. -/
theorem reported_first {rows : Finset Key} {failed : List MessageId} {calls : List (HandlerCall ε T H D)}
    {call : HandlerCall ε T H D} (h : (consumer, call.id) ∉ rows) (ids : List MessageId) :
    Reported consumer rows failed (ids.take 0) (call :: calls) call.id (call.result.map .processed) := by
  have hnew : ¬((consumer, call.id) ∈ rows ∨ call.id ∈ ids.take 0) := by simpa using h
  exact ⟨fun hk => absurd hk hnew, fun hk => absurd hk hnew, fun _ => ⟨call, List.mem_cons_self, rfl, rfl⟩⟩

theorem poisoned_ok_cons {failed : List MessageId} {calls : List (HandlerCall ε T H D)} {call : HandlerCall ε T H D}
    (h : call.succeeded = true) (id : MessageId) : Poisoned failed (call :: calls) id ↔ Poisoned failed calls id := by
  simp [Poisoned, h]

theorem poisoned_error_cons {failed : List MessageId} {calls : List (HandlerCall ε T H D)} {call : HandlerCall ε T H D}
    (h : call.succeeded = false) (id : MessageId) :
    Poisoned failed (call :: calls) id ↔ Poisoned (call.id :: failed) calls id := by
  constructor
  · rintro (hf | ⟨c, hc, rfl, hs⟩)
    · exact Or.inl (List.mem_cons_of_mem _ hf)
    · rcases List.mem_cons.1 hc with rfl | hc
      · exact Or.inl List.mem_cons_self
      · exact Or.inr ⟨c, hc, rfl, hs⟩
  · rintro (hf | ⟨c, hc, hid, hs⟩)
    · rcases List.mem_cons.1 hf with rfl | hf
      · exact Or.inr ⟨call, List.mem_cons_self, rfl, h⟩
      · exact Or.inl hf
    · exact Or.inr ⟨c, List.mem_cons_of_mem _ hc, hid, hs⟩

/-- The report about a recorded id: its handler is not called again, so it has failed only if it had failed before. -/
theorem reported_known {rows : Finset Key} (h : (consumer, id) ∈ rows) (before : List MessageId) :
    Reported consumer rows failed before (callsOn handler consumer ids w db rows) id
      (if failed.contains id then .error (Consumer.repeatError id) else .ok .duplicate) := by
  have hpo : Poisoned failed (callsOn handler consumer ids w db rows) id ↔ id ∈ failed := by
    refine ⟨fun hp => ?_, Or.inl⟩
    rcases hp with hp | ⟨call, hc, rfl, _⟩
    · exact hp
    · exact absurd h (mem_callsOn handler consumer ids w db hc).2
  refine ⟨fun _ hp => ?_, fun _ hp => ?_, fun hk => absurd (Or.inl h) hk⟩
  · rw [if_pos (List.contains_iff_mem.2 (hpo.1 hp))]
  · rw [if_neg (fun hc => hp (hpo.2 (List.contains_iff_mem.1 hc)))]

/-- Every id of the batch has its report. -/
theorem loopOn_reported (hf : ∀ x ∈ failed, (consumer, x) ∈ rows) {i : Nat} (hi : ids[i]? = some id) :
    ∃ r, (loopOn handler consumer rows ids failed w db).1[i]? = some r ∧
      Reported consumer rows failed (ids.take i) (callsOn handler consumer ids w db rows) id r := by
  induction ids generalizing rows failed w db i with
  | nil => simp at hi
  | cons x ids ih =>
    by_cases h : (consumer, x) ∈ rows
    · rw [loopOn_known handler consumer ids failed w db h, callsOn_known handler consumer ids w db h]
      cases i with
      | zero =>
        have hx : x = id := by simpa using hi
        subst hx
        exact ⟨_, rfl, reported_known handler consumer ids failed w db h _⟩
      | succ i =>
        obtain ⟨r, hr, hrep⟩ := ih failed w db hf hi
        refine ⟨r, hr, ?_⟩
        rw [List.take_succ_cons]
        rw [← Finset.insert_eq_of_mem h] at hrep
        have hsame : callsOn handler consumer ids w db (insert (consumer, x) rows) = callsOn handler consumer ids w db rows := by
          rw [Finset.insert_eq_of_mem h]
        rw [hsame] at hrep
        exact hrep.cons consumer Iff.rfl (fun _ hc => hc)
    · cases hres : (handler w.closure db.data x).1 with
      | ok value =>
        rw [loopOn_ok handler consumer ids failed w db h hres, callsOn_ok handler consumer ids w db h hres]
        cases i with
        | zero =>
          have hx : x = id := by simpa using hi
          subst hx
          exact ⟨_, rfl, reported_first consumer h _⟩
        | succ i =>
          obtain ⟨r, hr, hrep⟩ := @ih (insert (consumer, x) rows) failed (afterCall handler w db x)
            { db with data := (handler w.closure db.data x).2.2 } (fun y hy => Finset.mem_insert_of_mem (hf y hy)) i hi
          refine ⟨r, hr, ?_⟩
          rw [List.take_succ_cons]
          have hs : (⟨x, w.closure, db.data, .ok value⟩ : HandlerCall ε T H D).succeeded = true := rfl
          exact hrep.cons consumer (poisoned_ok_cons hs id) (fun _ hc => List.mem_cons_of_mem _ hc)
      | error e =>
        rw [loopOn_error handler consumer ids failed w db h hres, callsOn_error handler consumer ids w db h hres]
        cases i with
        | zero =>
          have hx : x = id := by simpa using hi
          subst hx
          exact ⟨_, rfl, reported_first consumer h _⟩
        | succ i =>
          have hf' : ∀ y ∈ x :: failed, (consumer, y) ∈ insert (consumer, x) rows := by
            intro y hy
            rcases List.mem_cons.1 hy with rfl | hy
            · exact Finset.mem_insert_self _ _
            · exact Finset.mem_insert_of_mem (hf y hy)
          obtain ⟨r, hr, hrep⟩ := @ih (insert (consumer, x) rows) (x :: failed) (afterCall handler w db x)
            { db with rows := db.rows.erase (consumer, x) } hf' i hi
          refine ⟨r, hr, ?_⟩
          rw [List.take_succ_cons]
          have hs : (⟨x, w.closure, db.data, .error e⟩ : HandlerCall ε T H D).succeeded = false := rfl
          exact hrep.cons consumer (poisoned_error_cons hs id) (fun _ hc => List.mem_cons_of_mem _ hc)

end BatchAux

end Txbox
