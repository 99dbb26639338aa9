import Txbox.Lemmas.SqlConn
import Txbox.Lemmas.Batch

/-!
# A batch by its SQL

`process_many` over named savepoints is the batch without savepoints (`batchRun`), whatever its handlers do with savepoints of their
own, as long as no handler leaves the transaction unfit: aborted and with `Ok`, or ended. With a handler that does it returns an
error and no inbox row is written, so that nothing is ever reported that is not committed.

A handler is run twice: on the connection of the batch, above the savepoint of the inbox, and alone. Until its transaction is over
the two go together (`Same`).
-/

namespace Txbox

open Lib

namespace SqlConn

variable {D R α ε T H : Type}

/-- A handler alone: in a transaction of its own on the business data, with no savepoint open. -/
def alone (server : Server) (code : HandlerSql D R α) (data : D) : α × SqlConn D := handle server code (begin ⟨∅, data⟩)

/-- The business data a handler leaves in a transaction that is still open. -/
def dataLeft (data : D) (s : SqlConn D) : D :=
  match s.tx with
  | .live work => work.cur.data
  | _ => data

/-- What a handler does to the business data. -/
def meaning (server : Server) (handler : H → MessageId → HandlerSql D R (Except (HandlerError ε) T × H)) : Handler ε T H D :=
  fun h data id =>
    let ((r, h'), s) := alone server (handler h id) data
    (r, h', dataLeft data s)

/-- The transaction can go on after a handler: it is open, or aborted by a handler that failed. -/
def Fit (r : Except (HandlerError ε) T) (s : SqlConn D) : Prop :=
  match s.tx with
  | .live _ => True
  | .aborted _ => r.isOk = false
  | _ => False

/-- The same of a call of the handler. -/
def FitCall (server : Server) (handler : H → MessageId → HandlerSql D R (Except (HandlerError ε) T × H))
    (call : HandlerCall ε T H D) : Prop :=
  Fit (alone server (handler call.closure call.id) call.data).1.1 (alone server (handler call.closure call.id) call.data).2

/-- A batch cannot go on over a transaction that is over. -/
theorem Over.not_fit {rows : Finset Key} {s : SqlConn D} (h : Over rows s) {r : Except (HandlerError ε) T} : ¬Fit r s := by
  cases h <;> simp [Fit]

/-! ## A handler in a batch and alone -/

/-- The savepoints of a handler, on the connection of a batch: with its rows, and above its savepoint. -/
def place (rows : Finset Key) (saved : Database D) (w : Named String (Database D)) : Named String (Database D) :=
  (w.map fun db => { db with rows }).above [(savepointName, saved)]

/-- The connection of a handler that runs alone, and that of the batch. -/
inductive Same (db saved : Database D) (rows : Finset Key) : SqlConn D → SqlConn D → Prop
  | live {db' : Database D} {w : Named String (Database D)} (h : db'.rows = ∅) (hw : Named.Avoids savepointName w.saves) :
      Same db saved rows ⟨db', .live w⟩ ⟨db, .live (place rows saved w)⟩
  | aborted {db' : Database D} {w : Named String (Database D)} (h : db'.rows = ∅) (hw : Named.Avoids savepointName w.saves) :
      Same db saved rows ⟨db', .aborted w.saves⟩ ⟨db, .aborted (place rows saved w).saves⟩

/-- Both got the same answer and go on together, or both transactions are over. -/
def Together (server : Server) (db saved : Database D) (rows : Finset Key) {β : Type} (a s : β × SqlConn D) : Prop :=
  (a.1 = s.1 ∧ Same db saved rows a.2 s.2) ∨ (server ≠ .postgres ∧ Over ∅ a.2 ∧ Over db.rows s.2)

section Handler

variable {server : Server} {db saved : Database D} {rows : Finset Key} {a s : SqlConn D}

/-- A failed statement on an open transaction. -/
theorem together_fail {db' : Database D} {w : Named String (Database D)} (h : db'.rows = ∅)
    (hw : Named.Avoids savepointName w.saves) (e e' : Failure) {β : Type} :
    Together server db saved rows ((.error e' : Except Failure β), ⟨db', fail server e w⟩)
      (.error e', ⟨db, fail server e (place rows saved w)⟩) := by
  cases server with
  | postgres => exact Or.inl ⟨rfl, .aborted h hw⟩
  | mysql =>
    cases e with
    | failed => exact Or.inl ⟨rfl, .live h hw⟩
    | ended => exact Or.inr ⟨by decide, .auto h, .auto rfl⟩
  | sqlite =>
    cases e with
    | failed => exact Or.inl ⟨rfl, .live h hw⟩
    | ended => exact Or.inr ⟨by decide, .auto h, .auto rfl⟩

/-- A statement on business data. -/
theorem together_statement (h : Same db saved rows a s) (f : D → Except Failure (R × D)) :
    Together server db saved rows (statement server (fun db => (f db.data).map fun p => (p.1, { db with data := p.2 })) a)
      (statement server (fun db => (f db.data).map fun p => (p.1, { db with data := p.2 })) s) := by
  cases h with
  | @live db' w h hw =>
    have hdata : (place rows saved w).cur.data = w.cur.data := rfl
    cases hf : f w.cur.data with
    | ok p =>
      simp only [SqlConn.statement, hdata, hf]
      exact Or.inl ⟨rfl, .live (w := ⟨{ w.cur with data := p.2 }, w.saves⟩) h hw⟩
    | error e =>
      simp only [SqlConn.statement, hdata, hf]
      exact together_fail h hw e e
  | @aborted db' w h hw => exact Or.inl ⟨rfl, .aborted h hw⟩

/-- A savepoint command of the handler. -/
theorem together_command (h : Same db saved rows a s) {c : Command String} (hc : c.name ≠ savepointName) :
    Together server db saved rows (command server c a) (command server c s) := by
  have hbase : Named.Avoids c.name [(savepointName, saved)] := by
    intro p hp
    cases List.mem_singleton.1 hp
    exact hc.symm
  have happly : ∀ w : Named String (Database D), (place rows saved w).apply server.replaces c =
      (w.apply server.replaces c).map (place rows saved) := by
    intro w
    rw [place, Named.apply_above _ _ hbase, Named.apply_map, Option.map_map]
    rfl
  cases h with
  | @live db' w h hw =>
    simp only [SqlConn.command, happly]
    cases ha : w.apply server.replaces c with
    | some w' => exact Or.inl ⟨rfl, .live h (Named.avoids_apply hc hw ha)⟩
    | none => exact together_fail h hw .failed .failed
  | @aborted db' w h hw =>
    cases c with
    | savepoint name => exact Or.inl ⟨rfl, .aborted h hw⟩
    | release name => exact Or.inl ⟨rfl, .aborted h hw⟩
    | rollbackTo name =>
      have hrestore : Named.restore name (place rows saved w).saves = (Named.restore name w.saves).map (place rows saved) := happly w
      simp only [SqlConn.command, hrestore]
      cases ha : Named.restore name w.saves with
      | some w' =>
        have ha' : w.apply server.replaces (.rollbackTo name) = some w' := ha
        exact Or.inl ⟨rfl, .live h (Named.avoids_apply hc hw ha')⟩
      | none => exact Or.inl ⟨rfl, .aborted h hw⟩

/-- A handler does on the connection of a batch what it does alone. -/
theorem together_handle (h : Same db saved rows a s) (code : HandlerSql D R α) :
    Together server db saved rows (handle server code a) (handle server code s) := by
  induction code generalizing a s with
  | ret v => exact Or.inl ⟨rfl, h⟩
  | statement f k ih =>
    simp only [handle]
    rcases together_statement h f with ⟨heq, hsame⟩ | ⟨hserver, ha, hs⟩
    · rw [← heq]
      exact ih _ hsame
    · exact Or.inr ⟨hserver, ha.handle _, hs.handle _⟩
  | command c k ih =>
    simp only [handle]
    rcases together_command h c.2 with ⟨heq, hsame⟩ | ⟨hserver, ha, hs⟩
    · rw [← heq]
      exact ih _ hsame
    · exact Or.inr ⟨hserver, ha.handle _, hs.handle _⟩

end Handler

/-! ## The savepoint of the batch -/

/-- The connection at the head of an iteration: the savepoint is open on the state as it stands while fresh messages wait. -/
def ready (db cur : Database D) (pending : Nat) : SqlConn D :=
  ⟨db, .live ⟨cur, if 0 < pending then [(savepointName, cur)] else []⟩⟩

/-- No inbox row was committed; on PostgreSQL, nothing was. -/
def Unharmed (server : Server) (db : Database D) (s : SqlConn D) : Prop :=
  s.committed.rows = db.rows ∧ (server = .postgres → s.committed = db)

/-- A text goes on after a command that an open transaction takes. -/
theorem execute_live {server : Server} {c : Command String} {db : Database D} {work work' : Named String (Database D)}
    (h : work.apply server.replaces c = some work') (sql : List (Command String)) :
    execute server (c :: sql) ⟨db, .live work⟩ = execute server sql ⟨db, .live work'⟩ := by
  simp only [execute, command, h]

section Batch

variable (server : Server) (handler : H → MessageId → HandlerSql D R (Except (HandlerError ε) T × H)) (db : Database D)

/-- Whatever a handler opened above it, the savepoint is released, and opened again on the state as it stands while others wait. -/
theorem run_nextSavepoint (pending : Nat) (h : H) {w : Named String (Database D)} (hw : Named.Avoids savepointName w.saves)
    (saved : Database D) :
    Prog.run (call server handler) none (Consumer.nextSavepoint pending) (h, ⟨db, .live (w.above [(savepointName, saved)])⟩) =
      (.returned (.ok ()), h, ready db w.cur pending) := by
  have hrelease : (w.above [(savepointName, saved)]).apply server.replaces (.release savepointName) = some ⟨w.cur, []⟩ :=
    Named.release_above hw saved []
  unfold Consumer.nextSavepoint ready
  by_cases hp : pending > 0
  · have hsavepoint : (⟨w.cur, []⟩ : Named String (Database D)).apply server.replaces (.savepoint savepointName) =
        some ⟨w.cur, [(savepointName, w.cur)]⟩ := by
      cases server <;> rfl
    have hcall : call server handler .releaseAndSavepoint (h, ⟨db, .live (w.above [(savepointName, saved)])⟩) =
        (.ok (), h, ⟨db, .live ⟨w.cur, [(savepointName, w.cur)]⟩⟩) := by
      simp only [call, answer, releaseAndSavepointSql, execute_live hrelease, execute_live hsavepoint]
      rfl
    rw [if_pos hp, if_pos hp, Store.releaseAndSavepoint, Prog.perform, Prog.run_call, hcall, Prog.run_ret]
  · have hcall : call server handler .release (h, ⟨db, .live (w.above [(savepointName, saved)])⟩) =
        (.ok (), h, ⟨db, .live ⟨w.cur, []⟩⟩) := by
      simp only [call, answer, releaseSql, execute_live hrelease]
      rfl
    rw [if_neg hp, if_neg hp, Store.release, Prog.perform, Prog.run_call, hcall, Prog.run_ret]

/-- Where the savepoint cannot be released, the batch ends with an error. -/
theorem run_nextSavepoint_refused (pending : Nat) (h : H) {s : SqlConn D}
    (hs : ∀ sql, execute server (.release savepointName :: sql) s = (.error .failed, s)) :
    Prog.run (call server handler) none (Consumer.nextSavepoint pending) (h, s) = (.returned (.error (inboxError .failed)), h, s) := by
  unfold Consumer.nextSavepoint
  by_cases hp : pending > 0
  · have hcall : call server handler .releaseAndSavepoint (h, s) = (.error (inboxError .failed), h, s) := by
      simp only [call, answer, releaseAndSavepointSql, hs]
      rfl
    rw [if_pos hp, Store.releaseAndSavepoint, Prog.perform, Prog.run_call, hcall, Prog.run_ret]
  · have hcall : call server handler .release (h, s) = (.error (inboxError .failed), h, s) := by
      simp only [call, answer, releaseSql, hs]
      rfl
    rw [if_neg hp, Store.release, Prog.perform, Prog.run_call, hcall, Prog.run_ret]

/-- Rolling back to the savepoint gives back what it saved, from an open transaction and from an aborted one. -/
theorem execute_rollbackTo {cur : Database D} {rows : Finset Key} {a s : SqlConn D} (h : Same db cur rows a s) :
    execute server rollbackToSql s = (.ok (), ⟨db, .live ⟨cur, [(savepointName, cur)]⟩⟩) := by
  have hrestore : ∀ w : Named String (Database D), Named.Avoids savepointName w.saves →
      Named.restore savepointName (place rows cur w).saves = some ⟨cur, [(savepointName, cur)]⟩ := by
    intro w hw
    refine Named.restore_above ?_ cur []
    intro p hp
    obtain ⟨q, hq, rfl⟩ := List.mem_map.1 hp
    exact hw q hq
  cases h with
  | @live db' w h hw => simp only [rollbackToSql, execute, command, Named.apply, hrestore w hw]
  | @aborted db' w h hw => simp only [rollbackToSql, execute, command, hrestore w hw]

/-! ## One message -/

/-- The handler of a fresh message, on the connection of the batch and alone. -/
theorem together_fresh (h : H) (id : MessageId) (cur : Database D) :
    Together server db cur cur.rows (alone server (handler h id) cur.data)
      (handle server (handler h id) ⟨db, .live ⟨cur, [(savepointName, cur)]⟩⟩) :=
  together_handle (.live (w := Named.start ⟨∅, cur.data⟩) rfl fun _ hp => absurd hp List.not_mem_nil) _

/-- A handler called on the connection. -/
theorem call_handler {h h' : H} {id : MessageId} {r : Except (HandlerError ε) T} {s s' : SqlConn D}
    (hs : handle server (handler h id) s = ((r, h'), s')) : call server handler (.handler id) (h, s) = (r, h', s') := by
  simp only [call, answer, hs]

/-- After a handler that succeeds nothing more is sent. -/
theorem run_handleFresh_value (self : Consumer) {h h' : H} {id : MessageId} {value : T} {s s' : SqlConn D}
    (hs : handle server (handler h id) s = ((.ok value, h'), s')) :
    Prog.run (call server handler) none (self.handleFresh id) (h, s) = (.returned (.ok (.ok (.processed value))), h', s') := by
  change Prog.run _ none (Prog.call _ _) _ = _
  rw [Prog.run_call, call_handler server handler hs]
  rfl

/-- It leaves its writes over the savepoint. -/
theorem run_handleFresh_ok (self : Consumer) {h h' : H} {id : MessageId} {cur : Database D} {value : T} {a : SqlConn D}
    (hout : alone server (handler h id) cur.data = ((.ok value, h'), a)) (hfit : Fit (ε := ε) (.ok value) a) :
    ∃ w : Named String (Database D), Named.Avoids savepointName w.saves ∧ w.cur = { cur with data := dataLeft cur.data a } ∧
      Prog.run (call server handler) none (self.handleFresh id) (h, ⟨db, .live ⟨cur, [(savepointName, cur)]⟩⟩) =
        (.returned (.ok (.ok (.processed value))), h', ⟨db, .live (w.above [(savepointName, cur)])⟩) := by
  have htogether := together_fresh server handler db h id cur
  rw [hout] at htogether
  generalize hs : handle server (handler h id) ⟨db, .live ⟨cur, [(savepointName, cur)]⟩⟩ = out at htogether
  obtain ⟨v, s⟩ := out
  rcases htogether with ⟨heq, hsame⟩ | ⟨_, hover, _⟩
  · cases heq
    cases hsame with
    | @live db' w hrows hw =>
      refine ⟨w.map fun db => { db with rows := cur.rows }, ?_, rfl, ?_⟩
      · intro p hp
        obtain ⟨q, hq, rfl⟩ := List.mem_map.1 hp
        exact hw q hq
      · exact run_handleFresh_value server handler self hs
    | aborted => simp [Fit, Except.isOk, Except.toBool] at hfit
  · exact absurd hfit hover.not_fit

/-- A handler that fails leaves what the savepoint saved, less the claim. -/
theorem run_handleFresh_error (self : Consumer) {h h' : H} {id : MessageId} {cur : Database D} {e : HandlerError ε} {a : SqlConn D}
    (hout : alone server (handler h id) cur.data = ((.error e, h'), a)) (hfit : Fit (T := T) (.error e) a) :
    Prog.run (call server handler) none (self.handleFresh id) (h, ⟨db, .live ⟨cur, [(savepointName, cur)]⟩⟩) =
      (.returned (.ok (.error e)), h', ⟨db, .live ⟨{ cur with rows := cur.rows.erase (self.id, id) }, [(savepointName, cur)]⟩⟩) := by
  have htogether := together_fresh server handler db h id cur
  rw [hout] at htogether
  generalize hs : handle server (handler h id) ⟨db, .live ⟨cur, [(savepointName, cur)]⟩⟩ = out at htogether
  obtain ⟨v, s⟩ := out
  rcases htogether with ⟨heq, hsame⟩ | ⟨_, hover, _⟩
  · cases heq
    have hrollback : call server handler .rollbackTo (h', s) = (.ok (), h', ⟨db, .live ⟨cur, [(savepointName, cur)]⟩⟩) := by
      simp only [call, answer, execute_rollbackTo server db hsame]
      rfl
    change Prog.run _ none (Prog.call _ _) _ = _
    rw [Prog.run_call, call_handler server handler hs]
    change Prog.run _ none (Prog.call _ _) _ = _
    rw [Prog.run_call, hrollback]
    rfl
  · exact absurd hfit hover.not_fit

/-- A handler that leaves the transaction unfit ends the batch with an error. -/
theorem run_processLoop_unfit (self : Consumer) {h : H} {id : MessageId} {cur : Database D}
    (hfit : ¬Fit (alone server (handler h id) cur.data).1.1 (alone server (handler h id) cur.data).2)
    (rest : List (MessageId × Claim)) (pending : Nat) (results : List (ProcessResult ε T)) (failed : List MessageId) :
    ∃ e h' s, Prog.run (call server handler) none (self.processLoop ((id, .fresh) :: rest) (pending + 1) results failed)
        (h, ⟨db, .live ⟨cur, [(savepointName, cur)]⟩⟩) = (.returned (.drop (.error e)), h', s) ∧ Unharmed server db s := by
  have htogether := together_fresh server handler db h id cur
  generalize hs : handle server (handler h id) ⟨db, .live ⟨cur, [(savepointName, cur)]⟩⟩ = out at htogether
  obtain ⟨⟨r, h'⟩, s⟩ := out
  -- the savepoint cannot be released after a handler that returned `Ok`
  have hrefused : ∀ value, r = .ok value → (∀ sql, execute server (.release savepointName :: sql) s = (.error .failed, s)) →
      Prog.run (call server handler) none (self.processLoop ((id, .fresh) :: rest) (pending + 1) results failed)
        (h, ⟨db, .live ⟨cur, [(savepointName, cur)]⟩⟩) = (.returned (.drop (.error (inboxError .failed))), h', s) := by
    rintro value rfl hstuck
    unfold Consumer.processLoop
    refine (Prog.run_bind _ (run_handleFresh_value server handler self hs)).trans ?_
    exact (Prog.run_bind _ (run_nextSavepoint_refused server handler pending h' hstuck)).trans rfl
  rcases htogether with ⟨heq, hsame⟩ | ⟨hserver, _, hover⟩
  · rw [heq] at hfit
    generalize (alone server (handler h id) cur.data).2 = a at hfit hsame
    cases hsame with
    | live => exact absurd trivial hfit
    | @aborted db' w hrows hw =>
      cases r with
      | error e => exact absurd rfl hfit
      | ok value => exact ⟨_, h', _, hrefused value rfl (fun _ => rfl), rfl, fun _ => rfl⟩
  · have hunharmed : Unharmed server db s := ⟨hover.committed, fun heq => absurd heq hserver⟩
    cases r with
    | ok value => exact ⟨_, h', s, hrefused value rfl hover.execute_release, hunharmed⟩
    | error e =>
      have hrollback : call server handler .rollbackTo (h', s) = (.error (inboxError .failed), h', s) := by
        simp only [call, answer, hover.execute_rollbackTo]
        rfl
      refine ⟨inboxError .failed, h', s, ?_, hunharmed⟩
      change Prog.run _ none (Prog.call _ _) _ = _
      rw [Prog.run_call, call_handler server handler hs]
      change Prog.run _ none (Prog.call _ _) _ = _
      rw [Prog.run_call, hrollback]
      rfl

/-! ## The batch -/

/-- The loop only adds calls of the handler. -/
theorem calls_batchLoop (handler : Handler ε T H D) (consumer : ConsumerId) (rest : List (MessageId × Claim))
    (failed : List MessageId) (w : HandlerState ε T H D) (cur : Database D) :
    w.calls ⊆ (batchLoop handler consumer rest failed w cur).2.1.calls := by
  induction rest generalizing failed w cur with
  | nil => exact List.Subset.refl _
  | cons p rest ih =>
    obtain ⟨id, claim⟩ := p
    cases claim with
    | duplicate => exact ih failed w cur
    | fresh =>
      have hcalls : w.calls ⊆ (Reference.runHandler handler w cur.data id).2.1.calls := List.subset_append_left _ _
      simp only [batchLoop]
      generalize Reference.runHandler handler w cur.data id = out at hcalls
      obtain ⟨r, w', data⟩ := out
      cases r with
      | ok value => exact List.Subset.trans hcalls (ih _ _ _)
      | error e => exact List.Subset.trans hcalls (ih _ _ _)

/-- The call of a fresh message is among them. -/
theorem mem_calls_fresh (handler : Handler ε T H D) (consumer : ConsumerId) (id : MessageId) (rest : List (MessageId × Claim))
    (failed : List MessageId) (w : HandlerState ε T H D) (cur : Database D) :
    ⟨id, w.closure, cur.data, (handler w.closure cur.data id).1⟩ ∈
      (batchLoop handler consumer ((id, .fresh) :: rest) failed w cur).2.1.calls := by
  have hmem : ⟨id, w.closure, cur.data, (handler w.closure cur.data id).1⟩ ∈
      (Reference.runHandler handler w cur.data id).2.1.calls := List.mem_append_right _ List.mem_cons_self
  simp only [batchLoop]
  generalize Reference.runHandler handler w cur.data id = out at hmem
  obtain ⟨r, w', data⟩ := out
  cases r with
  | ok value => exact calls_batchLoop handler consumer rest failed w' _ hmem
  | error e => exact calls_batchLoop handler consumer rest (id :: failed) w' _ hmem

/-- One iteration of the loop that leaves the transaction fit. -/
theorem run_processLoop_fresh (self : Consumer) {h h' : H} {id : MessageId} {result : ProcessResult ε T} {s s' s'' : SqlConn D}
    {pending : Nat} (hrun : Prog.run (call server handler) none (self.handleFresh id) (h, s) = (.returned (.ok result), h', s'))
    (hnext : Prog.run (call server handler) none (Consumer.nextSavepoint pending) (h', s') = (.returned (.ok ()), h', s''))
    (rest : List (MessageId × Claim)) (results : List (ProcessResult ε T)) (failed : List MessageId) :
    Prog.run (call server handler) none (self.processLoop ((id, .fresh) :: rest) (pending + 1) results failed) (h, s) =
      Prog.run (call server handler) none
        (self.processLoop rest pending (results ++ [result]) (Consumer.noteFailure id result failed)) (h', s'') := by
  rw [Consumer.processLoop]
  refine (Prog.run_bind _ hrun).trans ?_
  exact Prog.run_bind _ hnext

/-- What a run of the loop has to do with the batch without savepoints, from some calls and results on: it is that batch while every
call leaves the transaction fit, and it ends with an error at the first that does not. -/
def Refines (calls : List (HandlerCall ε T H D)) (results : List (ProcessResult ε T))
    (spec : List (ProcessResult ε T) × HandlerState ε T H D × Database D)
    (out : Prog.Ended (Finish ε (Except (InboxError ε) (List (ProcessResult ε T)))) × H × SqlConn D) : Prop :=
  ((∀ c ∈ spec.2.1.calls, FitCall server handler c) →
    out = (.returned (.commit fun r => r.map fun _ => results ++ spec.1), spec.2.1.closure, ready db spec.2.2 0)) ∧
  ((∀ c ∈ calls, FitCall server handler c) → (∃ c ∈ spec.2.1.calls, ¬FitCall server handler c) →
    ∃ e h' s, out = (.returned (.drop (.error e)), h', s) ∧ Unharmed server db s)

variable {server handler db} in
/-- One result more. -/
theorem Refines.cons {calls : List (HandlerCall ε T H D)} {results : List (ProcessResult ε T)} {result : ProcessResult ε T}
    {spec : List (ProcessResult ε T) × HandlerState ε T H D × Database D}
    {out : Prog.Ended (Finish ε (Except (InboxError ε) (List (ProcessResult ε T)))) × H × SqlConn D}
    (h : Refines server handler db calls (results ++ [result]) spec out) :
    Refines server handler db calls results (result :: spec.1, spec.2) out := by
  refine ⟨?_, h.2⟩
  intro hfit
  have hout := h.1 hfit
  simp only [List.append_assoc, List.singleton_append] at hout
  exact hout

variable {server handler db} in
/-- One call less, which left the transaction fit. -/
theorem Refines.of_fit {calls : List (HandlerCall ε T H D)} {c : HandlerCall ε T H D} {results : List (ProcessResult ε T)}
    {spec : List (ProcessResult ε T) × HandlerState ε T H D × Database D}
    {out : Prog.Ended (Finish ε (Except (InboxError ε) (List (ProcessResult ε T)))) × H × SqlConn D}
    (h : Refines server handler db (calls ++ [c]) results spec out) (hc : FitCall server handler c) :
    Refines server handler db calls results spec out := by
  refine ⟨h.1, ?_⟩
  intro hfit hunfit
  refine h.2 ?_ hunfit
  intro c' hc'
  rcases List.mem_append.1 hc' with hc' | hc'
  · exact hfit c' hc'
  · cases List.mem_singleton.1 hc'
    exact hc

/-- The loop over named savepoints refines the loop without them. -/
theorem refines_processLoop (self : Consumer) (rest : List (MessageId × Claim)) (results : List (ProcessResult ε T))
    (failed : List MessageId) (w : HandlerState ε T H D) (cur : Database D) :
    Refines server handler db w.calls results (batchLoop (meaning server handler) self.id rest failed w cur)
      (Prog.run (call server handler) none (self.processLoop rest (BatchAux.freshCount rest) results failed)
        (w.closure, ready db cur (BatchAux.freshCount rest))) := by
  induction rest generalizing results failed w cur with
  | nil =>
    refine ⟨?_, ?_⟩
    · intro _
      simp [BatchAux.freshCount, Consumer.processLoop, batchLoop, pure]
    · rintro hfit ⟨c, hc, hunfit⟩
      exact absurd (hfit c hc) hunfit
  | cons p rest ih =>
    obtain ⟨id, claim⟩ := p
    cases claim with
    | duplicate =>
      rw [BatchAux.freshCount_duplicate]
      simp only [Consumer.processLoop, batchLoop]
      by_cases hf : failed.contains id
      · rw [if_pos hf, if_pos hf]
        exact (ih _ failed w cur).cons
      · rw [if_neg hf, if_neg hf]
        exact (ih _ failed w cur).cons
    | fresh =>
      have hready : ready db cur (BatchAux.freshCount rest + 1) = ⟨db, .live ⟨cur, [(savepointName, cur)]⟩⟩ := by
        rw [ready, if_pos (Nat.succ_pos _)]
      rw [BatchAux.freshCount_fresh, hready]
      by_cases hfit : Fit (alone server (handler w.closure id) cur.data).1.1 (alone server (handler w.closure id) cur.data).2
      · obtain ⟨⟨⟨r, h'⟩, a⟩, hout⟩ : ∃ out, alone server (handler w.closure id) cur.data = out := ⟨_, rfl⟩
        have hmeaning : Reference.runHandler (meaning server handler) w cur.data id =
            (r, ⟨h', w.calls ++ [⟨id, w.closure, cur.data, r⟩]⟩, dataLeft cur.data a) := by
          simp only [Reference.runHandler, meaning, hout]
        have hcall : FitCall server handler ⟨id, w.closure, cur.data, r⟩ := hfit
        rw [hout] at hfit
        rw [batchLoop, hmeaning]
        cases r with
        | ok value =>
          obtain ⟨work, hwork, hcur, hrun⟩ := run_handleFresh_ok server handler db self hout hfit
          rw [run_processLoop_fresh server handler self hrun (run_nextSavepoint server handler db _ h' hwork cur), hcur]
          exact ((ih _ failed ⟨h', _⟩ _).of_fit hcall).cons
        | error e =>
          have hrun := run_handleFresh_error server handler db self hout hfit
          have hwork : Named.Avoids savepointName (Named.start { cur with rows := cur.rows.erase (self.id, id) }).saves :=
            fun _ hp => absurd hp List.not_mem_nil
          rw [run_processLoop_fresh server handler self hrun (run_nextSavepoint server handler db _ h' hwork cur)]
          exact ((ih _ (id :: failed) ⟨h', _⟩ _).of_fit hcall).cons
      · refine ⟨?_, ?_⟩
        · intro hall
          exact absurd (hall _ (mem_calls_fresh (meaning server handler) self.id id rest failed w cur)) hfit
        · intro _ _
          exact run_processLoop_unfit server handler db self hfit rest _ results failed

/-- A batch with its claims taken, from the first savepoint on. -/
theorem refines_processClaimed (self : Consumer) (ids : List MessageId) {claims : List Claim} (hlength : claims.length = ids.length)
    (h : H) (cur : Database D) :
    Refines server handler db [] [] (batchLoop (meaning server handler) self.id (ids.zip claims) [] ⟨h, []⟩ cur)
      (Prog.run (call server handler) none (self.processClaimed ids claims) (h, ⟨db, .live (Named.start cur)⟩)) := by
  have hcount : claims.count .fresh = BatchAux.freshCount (ids.zip claims) := by
    rw [BatchAux.freshCount, List.map_snd_zip hlength.le]
  have hloop := refines_processLoop server handler db self (ids.zip claims) [] [] ⟨h, []⟩ cur
  unfold Consumer.processClaimed
  simp only [hcount]
  by_cases hp : 0 < BatchAux.freshCount (ids.zip claims)
  · have hsavepoint : (Named.start cur : Named String (Database D)).apply server.replaces (.savepoint savepointName) =
        some ⟨cur, [(savepointName, cur)]⟩ := by
      cases server <;> rfl
    have hcall : call server handler .savepoint (h, ⟨db, .live (Named.start cur)⟩) =
        (.ok (), h, ⟨db, .live ⟨cur, [(savepointName, cur)]⟩⟩) := by
      simp only [call, answer, savepointSql, execute_live hsavepoint]
      rfl
    rw [ready, if_pos hp] at hloop
    rw [if_pos hp]
    change Refines _ _ _ _ _ _ (Prog.run _ none (Prog.call _ _) _)
    rw [Prog.run_call, hcall]
    exact hloop
  · rw [ready, if_neg hp] at hloop
    rw [if_neg hp]
    exact hloop

/-- `claim_many` that the server takes answers like one claim per id in input order. -/
theorem run_claimMany (self : Consumer) {ids : List MessageId} (hids : ids ≠ [])
    (htaken : server.refuses self.lockTimeout self.id (self.batch ids).ids = false) (h : H) :
    Prog.run (call server handler) none (self.claimMany ids) (h, begin db) =
      (.returned (.ok (claimEach self.id db.rows ids).1), h,
        ⟨db, .live (Named.start { db with rows := (claimEach self.id db.rows ids).2 })⟩) := by
  have hcall : call server handler (.claimMany (self.batch ids)) (h, begin db) =
      (.ok (claimEach self.id db.rows (self.batch ids).ids).1, h,
        ⟨db, .live (Named.start { db with rows := (claimEach self.id db.rows (self.batch ids).ids).2 })⟩) := by
    have htaken' : server.refuses (self.batch ids).lockTimeout (self.batch ids).consumer (self.batch ids).ids = false := htaken
    simp only [call, answer, begin, statement, Named.start, htaken', Bool.false_eq_true, if_false]
    rfl
  have hkeys : keysOf self.id (self.batch ids).ids = keysOf self.id ids := by
    ext key
    rw [mem_keysOf, mem_keysOf, Consumer.mem_batch]
  rw [claimEach_rows, hkeys, firstAnswers_of_nodup (self.nodup_batch ids) (by simp)] at hcall
  rw [Consumer.claimMany_eq self hids, Prog.run_call, hcall, claimEach_rows]
  simp only [spreadClaims_map _ (fun id hid => (self.mem_batch ids id).2 hid), Prog.run_ret]

end Batch

/-- `process_many` on PostgreSQL, MySQL and SQLite, with ids without U+0000 and, on PostgreSQL, no lock timeout or one that it accepts,
and with handlers that run any statements on business data and use any savepoints of their own under other names, that leave them
open, and that go on after errors, but make no statement that begins or ends a transaction, by itself or implicitly.
1. If every call of a handler leaves the transaction open, or fails and leaves it aborted, then the batch is the one without
   savepoints of handlers that run alone: it returns the same results and commits the same rows and data, and no savepoint or
   transaction is left.
2. If some call does not (it returns `Ok` over an aborted transaction, or the server ended the transaction), it returns an error, and
   no inbox row is committed; on PostgreSQL, nothing is. -/
theorem processMany_refines_batch (server : Server) (handler : H → MessageId → HandlerSql D R (Except (HandlerError ε) T × H))
    (self : Consumer) (ids : List MessageId) (hids : NulFree self.id ids)
    (hwait : server = .postgres → PgInbox.TimeoutAccepted self.lockTimeout) (h : H) (db : Database D) :
    ((∀ c ∈ (batchRun (meaning server handler) self.id ids ⟨h, []⟩ db).2.1.calls, FitCall server handler c) →
      run server handler (self.processMany ids) h db =
        (.returned (.ok (batchRun (meaning server handler) self.id ids ⟨h, []⟩ db).1),
          (batchRun (meaning server handler) self.id ids ⟨h, []⟩ db).2.1.closure,
          ⟨(batchRun (meaning server handler) self.id ids ⟨h, []⟩ db).2.2, .auto⟩)) ∧
    ((∃ c ∈ (batchRun (meaning server handler) self.id ids ⟨h, []⟩ db).2.1.calls, ¬FitCall server handler c) →
      ∃ e, (run server handler (self.processMany ids) h db).1 = .returned (.error e) ∧
        Unharmed server db (run server handler (self.processMany ids) h db).2.2) := by
  by_cases hempty : ids = []
  · subst hempty
    refine ⟨fun _ => rfl, ?_⟩
    rintro ⟨c, hc, _⟩
    exact absurd hc List.not_mem_nil
  · have htaken : server.refuses self.lockTimeout self.id (self.batch ids).ids = false :=
      Server.refuses_eq_false_iff.2 fun hserver =>
        ⟨hwait hserver, hids.1, fun id hid => hids.2 id ((self.mem_batch ids id).1 hid)⟩
    have hlength : ((claimEach self.id db.rows ids).1).length = ids.length := by
      rw [claimEach_rows, firstAnswers_length]
    have hbatch := refines_processClaimed server handler db self ids hlength h { db with rows := (claimEach self.id db.rows ids).2 }
    have hbody : Prog.run (call server handler) none (self.processBatch ids) (h, begin db) =
        Prog.run (call server handler) none (self.processClaimed ids (claimEach self.id db.rows ids).1)
          (h, ⟨db, .live (Named.start { db with rows := (claimEach self.id db.rows ids).2 })⟩) :=
      Prog.run_bind _ (run_claimMany server handler db self hempty htaken h)
    rw [← hbody] at hbatch
    have hbegin : (self.processMany ids : Routine ε T _) = .begin .error (self.processBatch ids) := by
      rw [Consumer.processMany, if_neg (by simpa using hempty)]
    rw [hbegin]
    refine ⟨?_, ?_⟩
    · intro hfit
      simp only [run, runOn, hbatch.1 hfit]
      rfl
    · intro hunfit
      obtain ⟨e, h', s, hrun, hunharmed⟩ := hbatch.2 (fun c hc => absurd hc List.not_mem_nil) hunfit
      simp only [run, runOn, hrun, finish]
      refine ⟨e, rfl, ?_⟩
      unfold rollback
      split
      · exact hunharmed
      · exact hunharmed

/-- The consumer of the two batches below. -/
def payments : Consumer := ⟨⟨"payments", by decide⟩, none⟩

/-- Their message. -/
def paymentOne : MessageId := ⟨"payment-1", by decide⟩

/-- A handler that opens a savepoint, writes and leaves the savepoint open: its write is committed. -/
def leaveOpen : Unit → MessageId → HandlerSql Nat Unit (Except (HandlerError String) Nat × Unit) :=
  fun _ _ => .command ⟨.savepoint "draft", by decide⟩ fun _ => .statement (fun n => .ok ((), n + 1)) fun _ => .ret (.ok 7, ())

/-- A handler that returns `Ok` after a statement that failed. -/
def swallow : Unit → MessageId → HandlerSql Nat Unit (Except (HandlerError String) Nat × Unit) :=
  fun _ _ => .statement (fun _ => .error .failed) fun _ => .ret (.ok 7, ())

/-- A batch of each on PostgreSQL. -/
theorem processMany_refines_batch_postgres :
    (run .postgres leaveOpen (payments.processMany [paymentOne]) () ⟨∅, 0⟩).1 = .returned (.ok [.ok (.processed 7)]) ∧
      ∃ e, (run .postgres swallow (payments.processMany [paymentOne]) () ⟨∅, 0⟩).1 = .returned (.error e) ∧
        (run .postgres swallow (payments.processMany [paymentOne]) () ⟨∅, 0⟩).2.2.committed = ⟨∅, 0⟩ := by
  have hids : NulFree payments.id [paymentOne] := ⟨by decide, by decide⟩
  have hwait : Server.postgres = .postgres → PgInbox.TimeoutAccepted payments.lockTimeout := fun _ t ht => nomatch ht
  refine ⟨?_, ?_⟩
  · rw [(processMany_refines_batch .postgres leaveOpen payments [paymentOne] hids hwait () ⟨∅, 0⟩).1 ?_]
    · rfl
    · intro c hc
      have hcalls : (batchRun (meaning .postgres leaveOpen) payments.id [paymentOne] ⟨(), []⟩ ⟨∅, 0⟩).2.1.calls =
          [⟨paymentOne, (), 0, .ok 7⟩] := rfl
      rw [hcalls] at hc
      cases List.mem_singleton.1 hc
      trivial
  · have hcalls : (batchRun (meaning .postgres swallow) payments.id [paymentOne] ⟨(), []⟩ ⟨∅, 0⟩).2.1.calls =
        [⟨paymentOne, (), 0, .ok 7⟩] := rfl
    have hunfit : ¬FitCall .postgres swallow ⟨paymentOne, (), 0, .ok 7⟩ := by
      intro hfit
      cases hfit
    obtain ⟨e, he, hunharmed⟩ := (processMany_refines_batch .postgres swallow payments [paymentOne] hids hwait () ⟨∅, 0⟩).2
      ⟨⟨paymentOne, (), 0, .ok 7⟩, by rw [hcalls]; exact List.mem_cons_self, hunfit⟩
    exact ⟨e, he, hunharmed.2 rfl⟩

end SqlConn

end Txbox
