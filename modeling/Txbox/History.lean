import Txbox.Machine
import Txbox.Postgres
import Txbox.Sqlite
import Txbox.Purge
import Mathlib.Data.Set.Card

/-!
# Histories of one database

Calls of any number of consumers, and purges, one after another on one database: what the backend's own statements do to the inbox
table, what the handlers' statements do to the business data of their consumer, and what every call returns. A handler may make any
statements on its consumer's data, may go on after one that failed, and may set savepoints of its own.

The clock and the random numbers of a call are given with it, as what the call will read. A purge reads one time.
-/

namespace Txbox

open Lib

/-! ## Connections -/

/-- Why a statement failed. -/
inductive SqlError where
  | failed
  | deadlock
  deriving DecidableEq, Repr

/-- An error of the server as the inbox returns it. -/
def SqlError.inboxError {ε : Type} : SqlError → InboxError ε
  | .failed => .backend (.text "statement failed")
  | .deadlock => .backend (.text "deadlock")

/-- A handler: statements on business data and savepoints of its own, each answered or refused, and a result. -/
inductive HandlerCode (D R α : Type) where
  | ret (a : α)
  | statement (f : D → Except SqlError (R × D)) (k : Except SqlError R → HandlerCode D R α)
  | savepoint (k : Except SqlError Unit → HandlerCode D R α)
  | rollbackTo (k : Except SqlError Unit → HandlerCode D R α)
  | release (k : Except SqlError Unit → HandlerCode D R α)

/-- What a failed statement does to its transaction: it is undone alone, it aborts the transaction until a rollback to a savepoint, or
it ends the transaction. -/
inductive Fate where
  | undone
  | aborted
  | ended
  deriving DecidableEq, Repr

/-- The transaction of a connection: open, with its savepoints; aborted, with the savepoints it can be rolled back to; or ended. -/
inductive TxState (σ : Type) where
  | live (work : Nested σ)
  | aborted (saves : List σ)
  | ended

/-- A connection: what is committed, and its transaction. -/
structure Link (σ : Type) where
  committed : σ
  tx : TxState σ

namespace Link

variable {σ R : Type} (fate : SqlError → Fate)

/-- What a failed statement leaves of an open transaction. -/
def fail (e : SqlError) (work : Nested σ) : TxState σ :=
  match fate e with
  | .undone => .live work
  | .aborted => .aborted work.saves
  | .ended => .ended

/-- A statement. Where the transaction has ended, it is committed on its own. -/
def statement (f : σ → Except SqlError (R × σ)) (s : Link σ) : Except SqlError R × Link σ :=
  match s.tx with
  | .live work =>
    match f work.cur with
    | .ok (r, cur) => (.ok r, { s with tx := .live { work with cur } })
    | .error e => (.error e, { s with tx := fail fate e work })
  | .aborted _ => (.error .failed, s)
  | .ended =>
    match f s.committed with
    | .ok (r, committed) => (.ok r, { s with committed })
    | .error e => (.error e, s)

/-- `SAVEPOINT`. Outside a transaction it does nothing. -/
def savepoint (s : Link σ) : Except SqlError Unit × Link σ :=
  match s.tx with
  | .live work => (.ok (), { s with tx := .live work.savepoint })
  | .aborted _ => (.error .failed, s)
  | .ended => (.ok (), s)

/-- `RELEASE SAVEPOINT`. -/
def release (s : Link σ) : Except SqlError Unit × Link σ :=
  match s.tx with
  | .live work =>
    match work.release with
    | some work' => (.ok (), { s with tx := .live work' })
    | none => (.error .failed, { s with tx := fail fate .failed work })
  | .aborted _ => (.error .failed, s)
  | .ended => (.error .failed, s)

/-- `ROLLBACK TO SAVEPOINT`: it also ends the aborted state. -/
def rollbackTo (s : Link σ) : Except SqlError Unit × Link σ :=
  match s.tx with
  | .live work =>
    match work.rollbackTo with
    | some work' => (.ok (), { s with tx := .live work' })
    | none => (.error .failed, { s with tx := fail fate .failed work })
  | .aborted [] => (.error .failed, s)
  | .aborted (saved :: saves) => (.ok (), { s with tx := .live ⟨saved, saved :: saves⟩ })
  | .ended => (.error .failed, s)

/-- `BEGIN`. -/
def begin (committed : σ) : Link σ := ⟨committed, .live (Nested.start committed)⟩

/-- `COMMIT`: it answers `Ok` whatever is left of the transaction. -/
def commit (s : Link σ) : σ :=
  match s.tx with
  | .live work => work.cur
  | _ => s.committed

end Link

/-! ## Backends -/

/-- What a call will read of the clock and of the system's random numbers. -/
structure Readings where
  clock : Nat → Int
  tokens : Nat → UInt64

/-- A backend on its server: the statements and what they do on a connection, whose rows can be looked at and replaced; the claims as
programs over the statements; what `begin` makes of a pooled connection; what a failed statement does; and the purge. -/
structure SqlBackend (ε : Type) where
  Statement : Type
  Answer : Statement → Type
  Columns : Type
  Conn : Type
  Purge : Type
  exec : (c : Statement) → Conn → Answer c × Conn
  table : Conn → Table Columns
  withTable : Conn → Table Columns → Conn
  claim : ClaimRequest → Prog Statement Answer (Except (InboxError ε) Claim)
  claimMany : ClaimBatch → Prog Statement Answer (Except (InboxError ε) (List Claim))
  begin : Readings → Conn → Conn
  fate : SqlError → Fate
  purge : Purge → Table Columns → Prog.Ended (PurgeResult ε) × Table Columns

/-- A purge: its policy, the time it reads, and how the server chooses among tied rows. -/
structure PurgeInput (Now ι : Type) [LinearOrder ι] where
  policy : RetentionPolicy
  built : policy.Built
  now : Now
  picks : Nat → Picker (String × String) ι

/-- A purge on a table. The loop has more fuel than there are rows. -/
noncomputable def runPurge {ε Code Now C ι B : Type} [LinearOrder ι] (server : PurgeServer Now C ι B)
    (purge : RetentionPolicy → Nat → PurgeProg ε Code Now B (PurgeResult ε)) (input : PurgeInput Now ι) (t : Table C) :
    Prog.Ended (PurgeResult ε) × Table C :=
  let (r, s) := Prog.run server.exec none (purge input.policy (t.keys.ncard + 1)) ⟨fun _ => input.now, input.picks, t⟩
  (r, s.table)

/-- PostgreSQL: the rows of a transaction have the time of its start, and a failed statement aborts it. -/
noncomputable def PgInbox.sqlBackend (ε : Type) {ι : Type} [LinearOrder ι] (server : PurgeServer Int Int ι Duration) :
    SqlBackend ε where
  Statement := PgInbox.Statement
  Answer := PgInbox.Answer ε
  Columns := Int
  Conn := PgInbox.Conn
  Purge := PurgeInput Int ι
  exec := PgInbox.exec
  table := PgInbox.Conn.table
  withTable s table := { s with table }
  claim := PgInbox.claim
  claimMany := PgInbox.claimMany
  begin readings s := { s with started := readings.clock 0, lockTimeout := none }
  fate _ := .aborted
  purge := runPurge server PgInbox.purge

/-- SQLite: the time is the caller's, and a failed statement is undone alone. -/
noncomputable def SqliteInbox.sqlBackend (ε : Type) (json : JsonCodec) {ι : Type} [LinearOrder ι]
    (server : PurgeServer DateTime Int ι DateTime) : SqlBackend ε where
  Statement := SqliteInbox.Statement json
  Answer := SqliteInbox.Answer json ε
  Columns := Int
  Conn := SqliteInbox.Conn
  Purge := PurgeInput DateTime ι
  exec := SqliteInbox.exec json
  table := SqliteInbox.Conn.table
  withTable s table := { s with table }
  claim := SqliteInbox.claim json
  claimMany := SqliteInbox.claimMany json
  begin readings s := { s with clock := readings.clock }
  fate _ := .undone
  purge := runPurge server SqliteInbox.purge

/-- MySQL: the session variables outlive the transaction, and a deadlock ends it. -/
noncomputable def MySqlInbox.sqlBackend (ε : Type) (json : JsonCodec) {ι : Type} [LinearOrder ι]
    (server : PurgeServer Int MySqlInbox.Columns ι Nat) : SqlBackend ε where
  Statement := MySqlInbox.Statement json
  Answer := MySqlInbox.Answer json ε
  Columns := MySqlInbox.Columns
  Conn := MySqlInbox.Conn
  Purge := PurgeInput Int ι
  exec := MySqlInbox.exec json
  table := MySqlInbox.Conn.table
  withTable s table := { s with table }
  claim := MySqlInbox.claim json
  claimMany := MySqlInbox.claimMany json
  begin readings s := { s with vars := s.vars.begin, clock := readings.clock, tokens := readings.tokens }
  fate e := match e with
    | .failed => .undone
    | .deadlock => .ended
  purge := runPurge server MySqlInbox.purge

/-! ## Calls -/

/-- What is stored: the inbox table, and the business data of every consumer. -/
structure Contents (C D : Type) where
  table : Table C
  data : ConsumerId → D

/-- One call of a handler: the message, the state of its closure, and what it returned. -/
structure HandlerRun (ε T H : Type) where
  id : MessageId
  closure : H
  result : Except (HandlerError ε) T

/-- A handler: from the message and the state of its closure, the statements it makes on its consumer's business data, and what it
returns with the new state. -/
abbrev Handling (ε T D R H : Type) : Type := MessageId → H → HandlerCode D R (Except (HandlerError ε) T × H)

variable {ε T D R H α : Type}

/-- The handler's statements on the business data of a consumer. -/
def handle {C : Type} (fate : SqlError → Fate) (consumer : ConsumerId) :
    HandlerCode D R α → Link (Contents C D) → α × Link (Contents C D)
  | .ret a, s => (a, s)
  | .statement f k, s =>
    let (r, s') := Link.statement fate (fun contents => (f (contents.data consumer)).map fun p =>
      (p.1, { contents with data := Function.update contents.data consumer p.2 })) s
    handle fate consumer (k r) s'
  | .savepoint k, s =>
    let (r, s') := s.savepoint
    handle fate consumer (k r) s'
  | .rollbackTo k, s =>
    let (r, s') := Link.rollbackTo fate s
    handle fate consumer (k r) s'
  | .release k, s =>
    let (r, s') := Link.release fate s
    handle fate consumer (k r) s'

/-- A call that is under way: the connection with its server's side, the state of the handler's closure, and the handler calls so
far. -/
structure Turn (b : SqlBackend ε) (T D H : Type) where
  link : Link (Contents b.Columns D)
  conn : b.Conn
  closure : H
  calls : List (HandlerRun ε T H)

namespace Turn

variable {b : SqlBackend ε}

/-- A function of the backend, on a table. -/
def runClaim (b : SqlBackend ε) (p : Prog b.Statement b.Answer (Except (InboxError ε) α)) (conn : b.Conn) (t : Table b.Columns) :
    Except (InboxError ε) α × b.Conn :=
  match Prog.run b.exec none p (b.withTable conn t) with
  | (.returned r, conn') => (r, conn')
  | (_, conn') => (.error (.backend (.text "claim did not return")), conn')

/-- The contents after a function of the backend. -/
def claimed (conn : b.Conn) (contents : Contents b.Columns D) : Contents b.Columns D := { contents with table := b.table conn }

/-- A claim on the connection. -/
def claim (p : Prog b.Statement b.Answer (Except (InboxError ε) α)) (s : Turn b T D H) :
    Except (InboxError ε) α × Turn b T D H :=
  match s.link.tx with
  | .live work =>
    let (r, conn) := runClaim b p s.conn work.cur.table
    let work' := work.modify (claimed conn)
    (r, { s with conn, link.tx := if r.isOk then .live work' else Link.fail b.fate .failed work' })
  | .aborted _ => (.error (SqlError.inboxError .failed), s)
  | .ended =>
    let (r, conn) := runClaim b p s.conn s.link.committed.table
    (r, { s with conn, link.committed := claimed conn s.link.committed })

/-- A statement of the transaction. -/
def onLink (f : Link (Contents b.Columns D) → Except SqlError Unit × Link (Contents b.Columns D)) (s : Turn b T D H) :
    Except (InboxError ε) Unit × Turn b T D H :=
  let (r, link) := f s.link
  (r.mapError SqlError.inboxError, { s with link })

/-- `RELEASE_AND_SAVEPOINT_SQL`. -/
def releaseAndSavepoint (fate : SqlError → Fate) {σ : Type} (s : Link σ) : Except SqlError Unit × Link σ :=
  match Link.release fate s with
  | (.error e, s') => (.error e, s')
  | (.ok (), s') => s'.savepoint

/-- `UNCLAIM_SQL`. -/
def unclaim {C : Type} (key : String × String) (contents : Contents C D) : Except SqlError (Unit × Contents C D) :=
  .ok ((), { contents with table := Function.update contents.table key none })

/-- The calls on the connection of a consumer. -/
def call (consumer : ConsumerId) (handler : Handling ε T D R H) : (c : Call) → Turn b T D H → Reply ε T c × Turn b T D H
  | .claim request, s => claim (b.claim request) s
  | .claimMany batch, s => claim (b.claimMany batch) s
  | .savepoint, s => onLink Link.savepoint s
  | .releaseAndSavepoint, s => onLink (releaseAndSavepoint b.fate) s
  | .release, s => onLink (Link.release b.fate) s
  | .rollbackTo, s => onLink (Link.rollbackTo b.fate) s
  | .unclaim c id, s => onLink (Link.statement b.fate (unclaim (c.asStr, id.asStr))) s
  | .handler id, s =>
    let ((result, closure), link) := handle b.fate consumer (handler id s.closure) s.link
    (result, { s with link, closure, calls := s.calls ++ [⟨id, s.closure, result⟩] })

/-- The end of a function that owns the transaction: what it returns, and what is committed then. -/
def finish {C : Type} : Finish ε α → Link (Contents C D) → α × Contents C D
  | .drop a, s => (a, s.committed)
  | .commit k, s => (k (.ok ()), s.commit)
  | .rollback k, s => (k (.ok ()), s.committed)

end Turn

/-! ## Histories -/

/-- A database, and the pooled connection on which it is used. -/
structure Shared (b : SqlBackend ε) (D : Type) where
  contents : Contents b.Columns D
  conn : b.Conn

/-- A call of a consumer: the job, its handler with the state of its closure, and what it will read. -/
structure Request (ε T D R H : Type) where
  job : Job
  handler : Handling ε T D R H
  closure : H
  readings : Readings

/-- What a call returned, and the handler calls it made. -/
structure Outcomes (ε T H : Type) where
  answer : Prog.Ended (Answer ε T)
  calls : List (HandlerRun ε T H)

/-- A call of a consumer, or a purge. -/
inductive HistoryStep (b : SqlBackend ε) (T D R H : Type) where
  | request (r : Request ε T D R H)
  | purge (input : b.Purge)

namespace Shared

variable {b : SqlBackend ε}

/-- A call of a consumer. -/
def serve (r : Request ε T D R H) (s : Shared b D) : Outcomes ε T H × Shared b D :=
  match r.job.routine with
  | .ret a => (⟨.returned a, []⟩, s)
  | .begin _ body =>
    match Prog.run (Turn.call r.job.consumer r.handler) none body
        ⟨Link.begin s.contents, b.begin r.readings s.conn, r.closure, []⟩ with
    | (.returned f, turn) => (⟨.returned (Turn.finish f turn.link).1, turn.calls⟩, ⟨(Turn.finish f turn.link).2, turn.conn⟩)
    | (.panicked, turn) => (⟨.panicked, turn.calls⟩, ⟨turn.link.committed, turn.conn⟩)
    | (.dropped, turn) => (⟨.dropped, turn.calls⟩, ⟨turn.link.committed, turn.conn⟩)

/-- The database after a step. -/
def after (s : Shared b D) : HistoryStep b T D R H → Shared b D
  | .request r => (s.serve r).2
  | .purge input => { s with contents.table := (b.purge input s.contents.table).2 }

/-- The database after a history. -/
def afterAll (history : List (HistoryStep b T D R H)) (s : Shared b D) : Shared b D := history.foldl after s

/-- What the calls of a consumer returned along a history, and the handler calls they made, in order. -/
def outcomes (c : ConsumerId) : List (HistoryStep b T D R H) → Shared b D → List (Outcomes ε T H)
  | [], _ => []
  | .request r :: history, s =>
    if r.job.consumer = c then (s.serve r).1 :: outcomes c history (s.serve r).2 else outcomes c history (s.serve r).2
  | .purge input :: history, s => outcomes c history (s.after (.purge input : HistoryStep b T D R H))

/-- What a consumer has in the database: its rows by message id, and its business data. -/
def view (c : ConsumerId) (s : Shared b D) : (String → Option b.Columns) × D :=
  (fun id => s.contents.table (c.asStr, id), s.contents.data c)

end Shared

/-- The step is a call of the consumer, or a purge. -/
def HistoryStep.concerns {b : SqlBackend ε} (c : ConsumerId) : HistoryStep b T D R H → Bool
  | .request r => r.job.consumer = c
  | .purge _ => true

/-- For a consumer, a history is as if the calls of all others were not in it: its calls return the same and make the same handler
calls, and after every step it has the same rows and the same business data. -/
structure Isolated {b : SqlBackend ε} (c : ConsumerId) (history : List (HistoryStep b T D R H)) (s : Shared b D) : Prop where
  outcomes : Shared.outcomes c history s = Shared.outcomes c (history.filter (HistoryStep.concerns c)) s
  view : ∀ before, before <+: history →
    (Shared.afterAll before s).view c = (Shared.afterAll (before.filter (HistoryStep.concerns c)) s).view c

end Txbox
