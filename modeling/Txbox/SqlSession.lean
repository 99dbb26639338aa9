import Txbox.Reference
import Txbox.Postgres
import Txbox.Lib.Named

/-!
# The savepoints of a batch by name

`src/sql.rs`: `process_many` has one savepoint, which it opens, releases and rolls back to under a name of its own, by fixed texts that
are run until one of their commands fails. A handler is given the same connection. The handlers here read and write business data, and
may open savepoints too, under any other names, leave them open, and go on after a command that failed. They make no statement that
begins or ends a transaction, by itself or implicitly as DDL does on MySQL.

What the three servers do differently is here as it is there. A `SAVEPOINT` under a name that is in use hides the older one, or
replaces it (MySQL). A failed command aborts the transaction until a rollback to a savepoint (PostgreSQL), or is undone alone; a
failure may also end the whole transaction (a deadlock on MySQL, `OR ROLLBACK` or a full disk on SQLite), and what is run after that
commits statement by statement, except that on SQLite a `SAVEPOINT` then opens a transaction of its own.

Names are as the server compares them. Claims meet no contention. PostgreSQL refuses those that have a lock timeout out of range or
U+0000 in an identifier; of a batch with U+0000 nothing is said on the other two servers, where what happens to it depends on their
JSON functions.
-/

namespace Txbox

open Lib

/-- The servers that have savepoints. -/
inductive Server where
  | postgres
  | mysql
  | sqlite
  deriving DecidableEq, Repr

/-- Whether `SAVEPOINT` forgets an older savepoint of the same name. -/
def Server.replaces : Server → Bool
  | .mysql => true
  | _ => false

/-- Whether the server refuses a claim. -/
def Server.refuses (server : Server) (timeout : Option Duration) (consumer : ConsumerId) (ids : List MessageId) : Bool :=
  match server with
  | .postgres =>
    (timeout.any fun t => (PgInbox.acceptedMillis (PgInbox.pgLockTimeout t)).isNone) ||
      (PgInbox.textError consumer.asStr (ids.map StringNewtype.asStr)).isSome
  | _ => false

/-- How a statement failed: alone, or by a failure that also ends the transaction where the server has such. -/
inductive Failure where
  | failed
  | ended
  deriving DecidableEq, Repr

/-! ## The texts -/

/-- The one savepoint name, owned by the inbox. -/
def savepointName : String := "txbox_process_many"

/-- `SAVEPOINT_SQL`. -/
def savepointSql : List (Command String) := [.savepoint savepointName]

/-- `RELEASE_AND_SAVEPOINT_SQL`. -/
def releaseAndSavepointSql : List (Command String) := [.release savepointName, .savepoint savepointName]

/-- `RELEASE_SQL`. -/
def releaseSql : List (Command String) := [.release savepointName]

/-- `ROLLBACK_TO_SQL`. -/
def rollbackToSql : List (Command String) := [.rollbackTo savepointName]

/-! ## The connection -/

/-- The transaction of a connection: open, aborted with the savepoints it can be rolled back to, none, or one that a `SAVEPOINT`
opened. -/
inductive SqlTx (D : Type) where
  | live (work : Named String (Database D))
  | aborted (saves : List (String × Database D))
  | auto
  | own (work : Named String (Database D))

/-- A connection: what is committed, and its transaction. -/
structure SqlConn (D : Type) where
  committed : Database D
  tx : SqlTx D

/-- A savepoint command of a handler: under any name but the inbox's. -/
def UserCommand : Type := { c : Command String // c.name ≠ savepointName }

/-- A handler without transaction control: statements on business data and savepoints of its own, each answered or refused, and a
result. -/
inductive HandlerSql (D R α : Type) where
  | ret (a : α)
  | statement (f : D → Except Failure (R × D)) (k : Except Failure R → HandlerSql D R α)
  | command (c : UserCommand) (k : Except Failure Unit → HandlerSql D R α)

namespace SqlConn

variable {D R α ε T H : Type} (server : Server)

/-- What a failed statement does to an open transaction. -/
def fail (e : Failure) (work : Named String (Database D)) : SqlTx D :=
  match server, e with
  | .postgres, _ => .aborted work.saves
  | _, .failed => .live work
  | _, .ended => .auto

/-- A statement on the tables. -/
def statement (f : Database D → Except Failure (R × Database D)) (s : SqlConn D) : Except Failure R × SqlConn D :=
  match s.tx with
  | .live work =>
    match f work.cur with
    | .ok (r, db) => (.ok r, { s with tx := .live { work with cur := db } })
    | .error e => (.error e, { s with tx := fail server e work })
  | .aborted _ => (.error .failed, s)
  | .auto =>
    match f s.committed with
    | .ok (r, db) => (.ok r, { s with committed := db })
    | .error e => (.error e, s)
  | .own work =>
    match f work.cur with
    | .ok (r, db) => (.ok r, { s with tx := .own { work with cur := db } })
    | .error .failed => (.error .failed, s)
    | .error .ended => (.error .ended, { s with tx := .auto })

/-- A savepoint command. Releasing the savepoint that opened a transaction commits it. -/
def command (c : Command String) (s : SqlConn D) : Except Failure Unit × SqlConn D :=
  match s.tx, c with
  | .live work, c =>
    match work.apply server.replaces c with
    | some work' => (.ok (), { s with tx := .live work' })
    | none => (.error .failed, { s with tx := fail server .failed work })
  | .aborted saves, .rollbackTo name =>
    match Named.restore name saves with
    | some work => (.ok (), { s with tx := .live work })
    | none => (.error .failed, s)
  | .aborted _, _ => (.error .failed, s)
  | .auto, .savepoint name =>
    match server with
    | .postgres => (.error .failed, s)
    | .mysql => (.ok (), s)
    | .sqlite => (.ok (), { s with tx := .own ((Named.start s.committed).savepoint server.replaces name) })
  | .auto, _ => (.error .failed, s)
  | .own work, c =>
    match work.apply server.replaces c with
    | some work' => (.ok (), if work'.saves.isEmpty then ⟨work'.cur, .auto⟩ else { s with tx := .own work' })
    | none => (.error .failed, s)

/-- `sql::execute`: a text, command by command, up to the first that fails. -/
def execute : List (Command String) → SqlConn D → Except Failure Unit × SqlConn D
  | [], s => (.ok (), s)
  | c :: sql, s =>
    match command server c s with
    | (.ok (), s') => execute sql s'
    | (.error e, s') => (.error e, s')

/-- Run a handler on the connection. -/
def handle : HandlerSql D R α → SqlConn D → α × SqlConn D
  | .ret a, s => (a, s)
  | .statement f k, s =>
    let (r, s') := statement server (fun db => (f db.data).map fun p => (p.1, { db with data := p.2 })) s
    handle (k r) s'
  | .command c k, s =>
    let (r, s') := command server c.val s
    handle (k r) s'

/-- `BEGIN`. -/
def begin (db : Database D) : SqlConn D := ⟨db, .live (Named.start db)⟩

/-- `COMMIT`: an aborted transaction is rolled back. Only SQLite minds that there is none. -/
def commit (s : SqlConn D) : Except Failure Unit × SqlConn D :=
  match s.tx, server with
  | .live work, _ => (.ok (), ⟨work.cur, .auto⟩)
  | .own work, _ => (.ok (), ⟨work.cur, .auto⟩)
  | .aborted _, _ => (.ok (), { s with tx := .auto })
  | .auto, .sqlite => (.error .failed, s)
  | .auto, _ => (.ok (), s)

/-- `ROLLBACK`. -/
def rollback (s : SqlConn D) : Except Failure Unit × SqlConn D :=
  match s.tx, server with
  | .auto, .sqlite => (.error .failed, s)
  | _, _ => (.ok (), { s with tx := .auto })

/-- An error of the server as the inbox returns it. -/
def inboxError : Failure → InboxError ε
  | .failed => .backend (.text "statement failed")
  | .ended => .backend (.text "transaction ended")

/-- The calls on a connection, with no contention. What a handler keeps is next to the connection. -/
def answer (onHandler : MessageId → H × SqlConn D → Except (HandlerError ε) T × H × SqlConn D) :
    (c : Call) → H × SqlConn D → Reply ε T c × H × SqlConn D
  | .claim request, (h, s) =>
    let (r, s') := statement server (fun db =>
      if server.refuses request.lockTimeout request.consumer [request.id] then .error .failed
      else .ok ((claimRow db.rows (request.consumer, request.id)).1,
        { db with rows := (claimRow db.rows (request.consumer, request.id)).2 })) s
    (r.mapError inboxError, h, s')
  | .claimMany batch, (h, s) =>
    let (r, s') := statement server (fun db =>
      if server.refuses batch.lockTimeout batch.consumer batch.ids then .error .failed
      else .ok ((claimEach batch.consumer db.rows batch.ids).1,
        { db with rows := (claimEach batch.consumer db.rows batch.ids).2 })) s
    (r.mapError inboxError, h, s')
  | .savepoint, (h, s) =>
    let (r, s') := execute server savepointSql s
    (r.mapError inboxError, h, s')
  | .releaseAndSavepoint, (h, s) =>
    let (r, s') := execute server releaseAndSavepointSql s
    (r.mapError inboxError, h, s')
  | .release, (h, s) =>
    let (r, s') := execute server releaseSql s
    (r.mapError inboxError, h, s')
  | .rollbackTo, (h, s) =>
    let (r, s') := execute server rollbackToSql s
    (r.mapError inboxError, h, s')
  | .unclaim consumer id, (h, s) =>
    let (r, s') := statement server (fun db => .ok ((), { db with rows := db.rows.erase (consumer, id) })) s
    (r.mapError inboxError, h, s')
  | .handler id, s => onHandler id s

/-- The same with handlers whose closure is next to the connection. -/
def call (handler : H → MessageId → HandlerSql D R (Except (HandlerError ε) T × H)) :
    (c : Call) → H × SqlConn D → Reply ε T c × H × SqlConn D :=
  answer server fun id (h, s) =>
    let ((r, h'), s') := handle server (handler h id) s
    (r, h', s')

/-- The end of a function that owns the transaction. -/
def finish : Finish ε α → SqlConn D → α × SqlConn D
  | .drop a, s => (a, (rollback server s).2)
  | .commit k, s => (k ((commit server s).1.mapError inboxError), (commit server s).2)
  | .rollback k, s => (k ((rollback server s).1.mapError inboxError), (rollback server s).2)

/-- Run a function on a connection of its own. -/
def runOn (exec : (c : Call) → H × SqlConn D → Reply ε T c × H × SqlConn D) (r : Routine ε T α) (h : H) (db : Database D) :
    Prog.Ended α × H × SqlConn D :=
  match r with
  | .ret a => (.returned a, h, ⟨db, .auto⟩)
  | .begin _ body =>
    match Prog.run exec none body (h, begin db) with
    | (.returned f, h', s) => (.returned (finish server f s).1, h', (finish server f s).2)
    | (.panicked, h', s) => (.panicked, h', (rollback server s).2)
    | (.dropped, h', s) => (.dropped, h', (rollback server s).2)

/-- Run it with such handlers. -/
def run (handler : H → MessageId → HandlerSql D R (Except (HandlerError ε) T × H)) (r : Routine ε T α) (h : H) (db : Database D) :
    Prog.Ended α × H × SqlConn D :=
  runOn server (call server handler) r h db

end SqlConn

end Txbox
