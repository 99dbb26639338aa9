import Txbox.SqlSession

/-!
# Handlers that run any statements

`process` hands its connection to the handler, which may run anything on it: statements on any table, the inbox's included, savepoints
under any names, `BEGIN`, `COMMIT` and `ROLLBACK`, and statements that MySQL commits implicitly. Each may fail, and the handler may go on
after an error and return `Ok`.

On PostgreSQL a failed statement aborts the transaction until a rollback, whole or to a savepoint, and `COMMIT` of an aborted
transaction rolls it back and still succeeds. On MySQL a failed statement is undone alone, but a deadlock ends the whole transaction,
and what is run after that commits statement by statement.

Others see what is committed, after every statement. That is kept next to the connection, with the business data as the handler itself
sees them.
-/

namespace Txbox

open Lib

/-- The statements that begin and end transactions. -/
inductive Control where
  | begin
  | commit
  | rollback
  deriving DecidableEq, Repr

/-- A handler: any statements on its connection, each answered or refused, and a result. A `ddl` is a statement that MySQL commits
implicitly, with what was open before it. -/
inductive HandlerProgram (D R α : Type) where
  | ret (a : α)
  | query (f : Database D → Except Failure (R × Database D)) (k : Except Failure R → HandlerProgram D R α)
  | ddl (f : Database D → Except Failure (R × Database D)) (k : Except Failure R → HandlerProgram D R α)
  | command (c : Command String) (k : Except Failure Unit → HandlerProgram D R α)
  | control (c : Control) (k : Except Failure Unit → HandlerProgram D R α)

/-- A handler without transaction control, among all handlers. -/
def HandlerSql.program {D R α : Type} : HandlerSql D R α → HandlerProgram D R α
  | .ret a => .ret a
  | .statement f k => .query (fun db => (f db.data).map fun p => (p.1, { db with data := p.2 })) fun r => (k r).program
  | .command c k => .command c.val fun r => (k r).program

/-- The transaction is that of the inbox, and it is open. -/
def SqlTx.isLive {D : Type} : SqlTx D → Bool
  | .live _ => true
  | _ => false

/-- What can be seen of a connection: by others, the states that were committed after its statements, newest first; by itself, the
business data as its statements left them. -/
structure Sight (D : Type) where
  others : List (Database D)
  data : D

/-- What can be seen after one statement more. An aborted transaction shows nothing new. -/
def Sight.note {D : Type} (s : SqlConn D) (v : Sight D) : Sight D where
  others := s.committed :: v.others
  data :=
    match s.tx with
    | .live work => work.cur.data
    | .own work => work.cur.data
    | .auto => s.committed.data
    | .aborted _ => v.data

namespace SqlConn

variable {D R α ε T : Type} (server : Server)

/-- What MySQL does before a `ddl`: it commits the open transaction. -/
def implicitCommit (s : SqlConn D) : SqlConn D :=
  match s.tx, server with
  | .live work, .mysql => ⟨work.cur, .auto⟩
  | _, _ => s

/-- `BEGIN` in a handler. In an open transaction it is a warning on PostgreSQL, commits it on MySQL and fails on SQLite. -/
def beginAgain (s : SqlConn D) : Except Failure Unit × SqlConn D :=
  match s.tx, server with
  | .auto, _ => (.ok (), begin s.committed)
  | .live _, .postgres => (.ok (), s)
  | .live work, .mysql => (.ok (), begin work.cur)
  | _, _ => (.error .failed, s)

/-- A statement that begins or ends a transaction. -/
def control (c : Control) (s : SqlConn D) : Except Failure Unit × SqlConn D :=
  match c with
  | .begin => beginAgain server s
  | .commit => commit server s
  | .rollback => rollback server s

/-- Run a handler on the connection. -/
def runProgram : HandlerProgram D R α → Sight D × SqlConn D → α × Sight D × SqlConn D
  | .ret a, p => (a, p)
  | .query f k, (v, s) =>
    let (r, s') := statement server f s
    runProgram (k r) (v.note s', s')
  | .ddl f k, (v, s) =>
    let s₁ := implicitCommit server s
    let (r, s') := statement server f s₁
    runProgram (k r) ((v.note s₁).note s', s')
  | .command c k, (v, s) =>
    let (r, s') := SqlConn.command server c s
    runProgram (k r) (v.note s', s')
  | .control c k, (v, s) =>
    let (r, s') := control server c s
    runProgram (k r) (v.note s', s')

/-- Run `process` with such a handler. -/
def runProcess (handler : MessageId → HandlerProgram D R (Except (HandlerError ε) T)) (self : Consumer) (id : MessageId)
    (db : Database D) : Prog.Ended (Except (InboxError ε) (Outcome T)) × Sight D × SqlConn D :=
  runOn server (answer server fun id => runProgram server (handler id)) (self.process id) ⟨[], db.data⟩ db

end SqlConn

end Txbox
