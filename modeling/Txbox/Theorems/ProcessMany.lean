import Txbox.Lemmas.BatchLoop

/-!
# What `process_many` does

On a store with nested savepoints and no failing call: which handlers run and in which order, what is reported for every id of
the batch, and what is committed.
-/

namespace Txbox

open Lib Reference

variable {ε T H D : Type}

/-- What a batch reports and commits, in terms of the calls its handler made. `results` is aligned with `ids`, and `before` of a
position is what stands before it in the batch. The closure is `closure` before the batch and `closure'` after it. -/
structure BatchReport (handler : Handler ε T H D) (consumer : ConsumerId) (ids : List MessageId) (closure closure' : H)
    (db db' : Database D) (calls : List (HandlerCall ε T H D)) (results : List (ProcessResult ε T)) : Prop where
  /-- One result per id. -/
  length : results.length = ids.length
  /-- The handler is called once for every distinct id that is not recorded, in the order of first occurrence, and for no
  other. -/
  calls_ids : calls.map (·.id) = ids.eraseDups.filter (fun id => (consumer, id) ∉ db.rows)
  /-- Every call is answered as the handler answers it. -/
  result : ∀ call ∈ calls, call.result = (handler call.closure call.data call.id).1
  /-- Every call gets the closure that the one before it left, also where that one failed. -/
  closures : ∀ (pre post : List (HandlerCall ε T H D)) (call : HandlerCall ε T H D), calls = pre ++ call :: post →
    call.closure = closureAfter handler closure pre
  /-- The last one leaves the closure of the batch. -/
  closure : closure' = closureAfter handler closure calls
  /-- `Ok(Processed)` stands at the first occurrence of a new id whose handler returned that value, and nowhere else. -/
  processed_iff : ∀ (i : Nat) (id : MessageId) (value : T), ids[i]? = some id →
    (results[i]? = some (.ok (.processed value)) ↔
      id ∉ ids.take i ∧ (consumer, id) ∉ db.rows ∧ ∃ call ∈ calls, call.id = id ∧ call.result = .ok value)
  /-- An error stands at every occurrence of an id whose handler failed, and nowhere else. -/
  error_iff : ∀ (i : Nat) (id : MessageId), ids[i]? = some id →
    ((∃ e, results[i]? = some (.error e)) ↔ ∃ call ∈ calls, call.id = id ∧ ∃ e, call.result = .error e)
  /-- The first occurrence carries the handler's own error. -/
  own_error : ∀ (i : Nat) (id : MessageId) (e : HandlerError ε), ids[i]? = some id → id ∉ ids.take i →
    (∃ call ∈ calls, call.id = id ∧ call.result = .error e) → results[i]? = some (.error e)
  /-- `Ok(Duplicate)` stands in all other cases. -/
  duplicate_iff : ∀ (i : Nat) (id : MessageId), ids[i]? = some id →
    (results[i]? = some (.ok .duplicate) ↔
      (id ∈ ids.take i ∨ (consumer, id) ∈ db.rows) ∧ ¬∃ call ∈ calls, call.id = id ∧ ∃ e, call.result = .error e)
  /-- The rows are the old ones and those of the ids whose handler succeeded. -/
  rows : db'.rows = db.rows ∪ keysOf consumer ((calls.filter (·.succeeded)).map (·.id))
  /-- Every call sees the business data that the successful calls before it wrote. -/
  visible : ∀ (pre post : List (HandlerCall ε T H D)) (call : HandlerCall ε T H D), calls = pre ++ call :: post →
    call.data = (pre.filter (·.succeeded)).foldl (HandlerCall.write handler) db.data
  /-- The business data is what the successful handlers wrote, in order. -/
  data : db'.data = (calls.filter (·.succeeded)).foldl (HandlerCall.write handler) db.data

namespace ProcessManyAux

open BatchAux

theorem succeeded_eq_false {call : HandlerCall ε T H D} : call.succeeded = false ↔ ∃ e, call.result = .error e := by
  unfold HandlerCall.succeeded
  cases call.result with
  | ok v => simp [Except.isOk, Except.toBool]
  | error e => simp [Except.isOk, Except.toBool]

/-- Calls for distinct ids: two calls for one id are the same call. -/
theorem call_unique {calls : List (HandlerCall ε T H D)} (hn : (calls.map (·.id)).Nodup) {c c' : HandlerCall ε T H D}
    (hc : c ∈ calls) (hc' : c' ∈ calls) (h : c.id = c'.id) : c = c' :=
  List.inj_on_of_nodup_map hn hc hc' h

/-- The claims of a batch less those of the ids whose handler failed are those of the ids whose handler succeeded. -/
theorem rows_iff {consumer : ConsumerId} {rows : Finset Key} {ids : List MessageId} {calls : List (HandlerCall ε T H D)}
    (hids : calls.map (·.id) = freshIds consumer rows ids) (hn : (calls.map (·.id)).Nodup)
    (hcall : ∀ call ∈ calls, call.id ∈ ids ∧ (consumer, call.id) ∉ rows) (key : Key) :
    (key ∈ rows ∨ key.1 = consumer ∧ key.2 ∈ ids) ∧
        (∀ call ∈ calls, (consumer, call.id) = key → call.succeeded = true) ↔
      key ∈ rows ∨ key.1 = consumer ∧ key.2 ∈ (calls.filter (·.succeeded)).map (·.id) := by
  constructor
  · rintro ⟨hk | ⟨rfl, hk⟩, hok⟩
    · exact Or.inl hk
    · by_cases hr : key ∈ rows
      · exact Or.inl hr
      · right
        have hmem : key.2 ∈ calls.map (·.id) := by
          rw [hids, mem_freshIds]
          exact ⟨hk, hr⟩
        obtain ⟨call, hc, hid⟩ := List.mem_map.1 hmem
        have hs : call.succeeded = true := hok call hc (Prod.ext rfl hid)
        exact ⟨rfl, List.mem_map.2 ⟨call, List.mem_filter.2 ⟨hc, hs⟩, hid⟩⟩
  · rintro (hk | ⟨rfl, hk⟩)
    · refine ⟨Or.inl hk, ?_⟩
      rintro call hc rfl
      exact absurd hk (hcall call hc).2
    · obtain ⟨call, hc, hid⟩ := List.mem_map.1 hk
      obtain ⟨hc, hs⟩ := List.mem_filter.1 hc
      refine ⟨Or.inr ⟨rfl, hid ▸ (hcall call hc).1⟩, ?_⟩
      intro call' hc' hkey
      have hid' : call'.id = call.id := (congrArg Prod.snd hkey).trans hid.symm
      rw [call_unique hn hc' hc hid']
      exact hs

section Report

variable {consumer : ConsumerId} {rows : Finset Key} {before : List MessageId} {calls : List (HandlerCall ε T H D)}
  {id : MessageId} {r : ProcessResult ε T}

/-- With nothing failed before the batch, an id is poisoned when one of the batch's calls for it failed. -/
theorem poisoned_iff : Poisoned [] calls id ↔ ∃ call ∈ calls, call.id = id ∧ ∃ e, call.result = .error e := by
  simp only [Poisoned, List.not_mem_nil, false_or, succeeded_eq_false]

theorem reported_processed_iff (h : Reported consumer rows [] before calls id r) (hn : (calls.map (·.id)).Nodup)
    (value : T) : r = .ok (.processed value) ↔
      id ∉ before ∧ (consumer, id) ∉ rows ∧ ∃ call ∈ calls, call.id = id ∧ call.result = .ok value := by
  by_cases hk : (consumer, id) ∈ rows ∨ id ∈ before
  · have hr : r ≠ .ok (.processed value) := by
      by_cases hp : Poisoned [] calls id
      · rw [h.poisoned hk hp]
        exact nofun
      · rw [h.duplicate hk hp]
        exact nofun
    refine ⟨fun h' => absurd h' hr, fun ⟨h1, h2, _⟩ => ?_⟩
    rcases hk with hk | hk
    · exact absurd hk h2
    · exact absurd hk h1
  · obtain ⟨call, hc, hid, rfl⟩ := h.first hk
    rw [not_or] at hk
    constructor
    · intro h'
      refine ⟨hk.2, hk.1, call, hc, hid, ?_⟩
      cases hres : call.result with
      | ok v =>
        rw [hres] at h'
        cases h'
        rfl
      | error e =>
        rw [hres] at h'
        nomatch h'
    · rintro ⟨_, _, call', hc', hid', hres⟩
      rw [call_unique hn hc hc' (hid.trans hid'.symm), hres]
      rfl

theorem reported_error_iff (h : Reported consumer rows [] before calls id r) (hn : (calls.map (·.id)).Nodup) :
    (∃ e, r = .error e) ↔ ∃ call ∈ calls, call.id = id ∧ ∃ e, call.result = .error e := by
  by_cases hk : (consumer, id) ∈ rows ∨ id ∈ before
  · by_cases hp : Poisoned [] calls id
    · exact ⟨fun _ => poisoned_iff.1 hp, fun _ => ⟨_, h.poisoned hk hp⟩⟩
    · rw [h.duplicate hk hp]
      exact ⟨fun ⟨_, h'⟩ => (nomatch h'), fun h' => absurd (poisoned_iff.2 h') hp⟩
  · obtain ⟨call, hc, hid, rfl⟩ := h.first hk
    constructor
    · rintro ⟨e, he⟩
      refine ⟨call, hc, hid, ?_⟩
      cases hres : call.result with
      | ok v =>
        rw [hres] at he
        nomatch he
      | error e' => exact ⟨e', rfl⟩
    · rintro ⟨call', hc', hid', e, hres⟩
      rw [call_unique hn hc hc' (hid.trans hid'.symm), hres]
      exact ⟨e, rfl⟩

theorem reported_own_error (h : Reported consumer rows [] before calls id r) (hn : (calls.map (·.id)).Nodup)
    (hnew : (consumer, id) ∉ rows) (hfirst : id ∉ before) {call : HandlerCall ε T H D} (hc : call ∈ calls)
    (hid : call.id = id) {e : HandlerError ε} (he : call.result = .error e) : r = .error e := by
  obtain ⟨call', hc', hid', rfl⟩ := h.first (fun hk => hk.elim hnew hfirst)
  rw [call_unique hn hc' hc (hid'.trans hid.symm), he]
  rfl

theorem reported_duplicate_iff (h : Reported consumer rows [] before calls id r) :
    r = .ok .duplicate ↔
      (id ∈ before ∨ (consumer, id) ∈ rows) ∧ ¬∃ call ∈ calls, call.id = id ∧ ∃ e, call.result = .error e := by
  rw [← poisoned_iff]
  by_cases hk : (consumer, id) ∈ rows ∨ id ∈ before
  · by_cases hp : Poisoned [] calls id
    · rw [h.poisoned hk hp]
      exact ⟨fun h' => (nomatch h'), fun h' => absurd hp h'.2⟩
    · exact ⟨fun _ => ⟨hk.symm, hp⟩, fun _ => h.duplicate hk hp⟩
  · obtain ⟨call, _, _, rfl⟩ := h.first hk
    refine ⟨fun h' => ?_, fun h' => absurd h'.1.symm hk⟩
    cases hres : call.result with
    | ok v =>
      rw [hres] at h'
      nomatch h'
    | error e =>
      rw [hres] at h'
      nomatch h'

end Report

end ProcessManyAux

open BatchAux ProcessManyAux

/-- The full specification of `process_many`: for every batch, every committed table and every stateful handler of business data,
it returns, and its report and what it commits are the batch's. -/
theorem processMany_report (handler : Handler ε T H D) (self : Consumer) (ids : List MessageId)
    (w : HandlerState ε T H D) (db : Database D) :
    ∃ (results : List (ProcessResult ε T)) (calls : List (HandlerCall ε T H D)) (closure : H) (db' : Database D),
      (backend handler).run none (self.processMany ids) w db =
          (.returned (.ok results), ⟨closure, w.calls ++ calls⟩, db') ∧
        BatchReport handler self.id ids w.closure closure db db' calls results := by
  obtain ⟨db₁, hdb₁⟩ : ∃ db₁ : Database D, db₁ = { db with rows := (claimEach self.id db.rows ids).2 } := ⟨_, rfl⟩
  obtain ⟨calls, hcalls⟩ : ∃ calls, calls = callsOn handler self.id ids w db₁ db.rows := ⟨_, rfl⟩
  have hdata₁ : db₁.data = db.data := by rw [hdb₁]
  have hrows₁ : db₁.rows = db.rows ∪ keysOf self.id ids := by rw [hdb₁, claimEach_rows]
  have hrun : batchRun handler self.id ids w db = loopOn handler self.id db.rows ids [] w db₁ := by rw [hdb₁]; rfl
  obtain ⟨hlog, hstate⟩ := loopOn_state handler self.id ids [] w db₁ db.rows
  obtain ⟨hclosure, hdata⟩ := Prod.ext_iff.1 hstate
  dsimp only at hclosure hdata
  have hids : calls.map (·.id) = freshIds self.id db.rows ids := by rw [hcalls, callsOn, runHandlers_ids]
  have hnodup : (calls.map (·.id)).Nodup := hids ▸ nodup_freshIds self.id db.rows ids
  have hcall : ∀ call ∈ calls, call.id ∈ ids ∧ (self.id, call.id) ∉ db.rows := by
    intro call hc
    rw [hcalls] at hc
    exact mem_callsOn handler self.id ids w db₁ hc
  -- every position has its report, so a fact about the report is one about the result there
  have hrep : ∀ (i : Nat) (id : MessageId), ids[i]? = some id →
      ∃ r, (batchRun handler self.id ids w db).1[i]? = some r ∧ Reported self.id db.rows [] (ids.take i) calls id r := by
    intro i id hi
    rw [hrun, hcalls]
    exact loopOn_reported handler self.id ids [] w db₁ (by simp) hi
  refine ⟨(batchRun handler self.id ids w db).1, calls, (batchRun handler self.id ids w db).2.1.closure,
    (batchRun handler self.id ids w db).2.2, ?_, ?_⟩
  · rw [run_processMany, hcalls, hrun, ← hlog]
  · refine ⟨?_, by rw [hids, freshIds_eq], ?_, ?_, ?_, ?_, ?_, ?_, ?_, ?_, ?_, ?_⟩
    · rw [hrun, loopOn_length]
    · rw [hcalls]
      exact runHandlers_result handler w.closure db₁.data _
    · intro pre post call h
      exact runHandlers_threaded handler w.closure db₁.data _ pre post call (hcalls.symm.trans h)
    · rw [hrun, hclosure, runHandlers_closure, ← callsOn, ← hcalls]
    · intro i id value hi
      obtain ⟨r, hr, hrep⟩ := hrep i id hi
      rw [hr, Option.some.injEq]
      exact reported_processed_iff hrep hnodup value
    · intro i id hi
      obtain ⟨r, hr, hrep⟩ := hrep i id hi
      simp only [hr, Option.some.injEq]
      exact reported_error_iff hrep hnodup
    · rintro i id e hi hfirst ⟨call, hc, hid, he⟩
      obtain ⟨r, hr, hrep⟩ := hrep i id hi
      rw [hr, reported_own_error hrep hnodup (hid ▸ (hcall call hc).2) hfirst hc hid he]
    · intro i id hi
      obtain ⟨r, hr, hrep⟩ := hrep i id hi
      rw [hr, Option.some.injEq]
      exact reported_duplicate_iff hrep
    · ext key
      rw [hrun, loopOn_rows, ← hcalls, hrows₁, Finset.mem_union, Finset.mem_union, mem_keysOf, mem_keysOf]
      exact rows_iff hids hnodup hcall key
    · intro pre post call h
      rw [← hdata₁]
      exact runHandlers_visible handler _ _ _ pre post call (hcalls.symm.trans h)
    · rw [hrun, hdata, runHandlers_data, ← callsOn, ← hcalls, hdata₁]

end Txbox
