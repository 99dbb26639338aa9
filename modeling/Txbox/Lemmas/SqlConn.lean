import Txbox.SqlSession
import Txbox.Lemmas.Backends

/-!
# A connection without its transaction

Which claims the server takes, and what handlers without transaction control can do once the transaction they were given is over
(`Over`): whatever they run then, they leave the inbox rows as they are committed.
-/

namespace Txbox

open Lib

/-- The timeouts PostgreSQL does not refuse. -/
theorem any_isNone_eq_false_iff (timeout : Option Duration) :
    (timeout.any fun t => (PgInbox.acceptedMillis (PgInbox.pgLockTimeout t)).isNone) = false ↔ PgInbox.TimeoutAccepted timeout := by
  have hsome : ∀ t, (PgInbox.acceptedMillis (PgInbox.pgLockTimeout t)).isNone = false ↔ t.asNanos ≤ 2147483647 * 1000000 := by
    intro t
    rw [← BackendsAux.isSome_acceptedMillis_iff, Option.isNone_eq_false_iff]
  cases timeout with
  | none => exact iff_of_true rfl fun t ht => nomatch ht
  | some t =>
    rw [Option.any_some, hsome, PgInbox.TimeoutAccepted]
    refine ⟨?_, fun h => h t rfl⟩
    rintro h _ ⟨⟩
    exact h

/-- PostgreSQL takes the claims with a timeout it accepts and identifiers without U+0000, the others take all. -/
theorem Server.refuses_eq_false_iff {server : Server} {timeout : Option Duration} {consumer : ConsumerId} {ids : List MessageId} :
    server.refuses timeout consumer ids = false ↔
      (server = .postgres → PgInbox.TimeoutAccepted timeout ∧ NulFree consumer ids) := by
  cases server with
  | postgres =>
    rw [refuses, Bool.or_eq_false_iff, any_isNone_eq_false_iff, Option.isSome_eq_false_iff, Option.isNone_iff_eq_none,
      BackendsAux.textError_eq_none_iff]
    exact (imp_iff_right rfl).symm
  | mysql => exact iff_of_true rfl fun h => nomatch h
  | sqlite => exact iff_of_true rfl fun h => nomatch h

namespace SqlConn

variable {D R α : Type}

/-! ## A transaction that is over -/

/-- No transaction of the inbox is open, and the rows are those that are committed. -/
inductive Over (rows : Finset Key) : SqlConn D → Prop
  | auto {db : Database D} (h : db.rows = rows) : Over rows ⟨db, .auto⟩
  | own {db : Database D} {work : Named String (Database D)} (h : db.rows = rows) (hcur : work.cur.rows = rows)
      (hsaves : ∀ p ∈ work.saves, p.1 ≠ savepointName ∧ p.2.rows = rows) : Over rows ⟨db, .own work⟩

namespace Over

variable {rows : Finset Key} {s : SqlConn D} {server : Server}

theorem committed (h : Over rows s) : s.committed.rows = rows := by
  cases h <;> assumption

/-- A statement of a handler. -/
theorem statement (h : Over rows s) (f : D → Except Failure (R × D)) :
    Over rows (statement server (fun db => (f db.data).map fun p => (p.1, { db with data := p.2 })) s).2 := by
  cases h with
  | @auto db h =>
    simp only [SqlConn.statement]
    cases f db.data with
    | ok p => exact .auto h
    | error e => exact .auto h
  | @own db work h hcur hsaves =>
    simp only [SqlConn.statement]
    cases f work.cur.data with
    | ok p => exact .own h hcur hsaves
    | error e =>
      cases e with
      | failed => exact .own h hcur hsaves
      | ended => exact .auto h

/-- A savepoint command of a handler. -/
theorem command (h : Over rows s) {c : Command String} (hc : c.name ≠ savepointName) : Over rows (command server c s).2 := by
  cases h with
  | @auto db h =>
    cases c with
    | savepoint name =>
      cases server with
      | postgres => exact .auto h
      | mysql => exact .auto h
      | sqlite =>
        refine .own h h ?_
        intro p hp
        cases List.mem_singleton.1 hp
        exact ⟨hc, h⟩
    | release name => exact .auto h
    | rollbackTo name => exact .auto h
  | @own db work h hcur hsaves =>
    simp only [SqlConn.command]
    cases ha : work.apply server.replaces c with
    | none => exact .own h hcur hsaves
    | some work' =>
      obtain ⟨hmem, hcur'⟩ := Named.mem_apply ha
      have hrows : work'.cur.rows = rows := by
        rcases hcur' with heq | ⟨n, hn⟩
        · rw [heq, hcur]
        · exact (hsaves _ hn).2
      dsimp only
      split
      · exact .auto hrows
      · refine .own h hrows ?_
        intro p hp
        rcases hmem p hp with hp | rfl
        · exact hsaves p hp
        · exact ⟨hc, hcur⟩

/-- A handler, by induction over its statements. -/
theorem handle (h : Over rows s) (code : HandlerSql D R α) : Over rows (handle server code s).2 := by
  induction code generalizing s with
  | ret a => exact h
  | statement f k ih => exact ih _ (h.statement f)
  | command c k ih => exact ih _ (h.command c.2)

/-- The inbox does not find its savepoint. -/
theorem execute_release (h : Over rows s) (sql : List (Command String)) :
    execute server (.release savepointName :: sql) s = (.error .failed, s) := by
  cases h with
  | auto h => rfl
  | @own db work h hcur hsaves =>
    have hnone : work.apply server.replaces (.release savepointName) = none :=
      Named.release_of_avoids fun p hp => (hsaves p hp).1
    simp only [execute, SqlConn.command, hnone]

theorem execute_rollbackTo (h : Over rows s) : execute server rollbackToSql s = (.error .failed, s) := by
  cases h with
  | auto h => rfl
  | @own db work h hcur hsaves =>
    have hnone : work.apply server.replaces (.rollbackTo savepointName) = none :=
      Named.restore_of_avoids fun p hp => (hsaves p hp).1
    simp only [rollbackToSql, execute, SqlConn.command, hnone]

end Over

end SqlConn

end Txbox
