import Txbox.Sql

/-!
# MySQL

`src/mysql.rs`: `begin`, `claim`, `claim_many` and `unclaim`, and what their statements do on a migrated database without contention.
A claim with a lock timeout saves the session's own value, sets its timeout, and restores the saved value after the claim statement.
The columns are `VARCHAR(255)` and `VARCHAR(512)`: `INSERT IGNORE` cuts a longer string to the width, a plain `INSERT` refuses it.
-/

namespace Txbox

open Lib

namespace MySqlInbox

/-- `mysql_lock_timeout`: whole seconds, rounded up, at least one and at most MySQL's maximum. -/
def mysqlLockTimeout (timeout : Duration) : Nat :=
  min (min (max ((timeout.asNanos + 999999999) / 1000000000) 1) (2 ^ 64 - 1)) 1073741824

variable {ε : Type} (json : JsonCodec)

/-- The system's random numbers, and the statements. -/
inductive Statement where
  | random
  | setLockTimeout (secs : Nat)
  | claim (consumer id : String)
  | restoreLockTimeout
  | claimMany (consumer : String) (token : UInt64) (ids : json.Text)
  | claimedByToken (ids : json.Text) (consumer : String) (token : UInt64)
  | unclaim (consumer id : String)

/-- What they answer: a token, nothing, the rows affected, the rows selected. -/
@[reducible] def Answer (ε : Type) : Statement json → Type
  | .random => Except (BoxError ε) UInt64
  | .setLockTimeout _ => Except (SqlxError ε Nat) Unit
  | .claim _ _ => Except (SqlxError ε Nat) Nat
  | .restoreLockTimeout => Except (SqlxError ε Nat) Unit
  | .claimMany _ _ _ => Except (SqlxError ε Nat) Unit
  | .claimedByToken _ _ _ => Except (SqlxError ε Nat) (List String)
  | .unclaim _ _ => Except (SqlxError ε Nat) Unit

/-- `claim_error`: `ER_LOCK_WAIT_TIMEOUT` and `ER_LOCK_DEADLOCK` are contention. -/
def claimError : SqlxError ε Nat → InboxError ε
  | .database number => if number = 1205 ∨ number = 1213 then .contended else (SqlxError.database number).into
  | .other source => (SqlxError.other source : SqlxError ε Nat).into

/-- `set_lock_timeout`. -/
def setLockTimeout (timeout : Option Duration) : Prog (Statement json) (Answer json ε) (Except (SqlxError ε Nat) Unit) :=
  match timeout with
  | some timeout => Prog.perform (Statement.setLockTimeout (mysqlLockTimeout timeout))
  | none => return .ok ()

/-- `restore_lock_timeout`. -/
def restoreLockTimeout (timeout : Option Duration) : Prog (Statement json) (Answer json ε) (Except (SqlxError ε Nat) Unit) :=
  if timeout.isSome then Prog.perform Statement.restoreLockTimeout else return .ok ()

/-- `MySqlInbox::claim`. The claim's error goes before that of the restore. -/
def claim (request : ClaimRequest) : Prog (Statement json) (Answer json ε) (Except (InboxError ε) Claim) := do
  match ← setLockTimeout json request.lockTimeout with
  | .error e => return .error e.into
  | .ok () =>
    let result ← Prog.perform (Statement.claim request.consumer.asStr request.id.asStr)
    let restored ← restoreLockTimeout json request.lockTimeout
    match result with
    | .error e => return .error (claimError e)
    | .ok affected =>
      match restored with
      | .error e => return .error e.into
      | .ok () => return .ok (claimOfAffected affected)

/-- `MySqlInbox::claim_many`: the rows it inserts are stamped with a token, and read back by it. -/
def claimMany (batch : ClaimBatch) : Prog (Statement json) (Answer json ε) (Except (InboxError ε) (List Claim)) := do
  match ← Prog.perform Statement.random with
  | .error e => return .error (.backend e)
  | .ok token =>
    let ids := batch.ids.map StringNewtype.asStr
    match ← setLockTimeout json batch.lockTimeout with
    | .error e => return .error e.into
    | .ok () =>
      let result ← Prog.perform (Statement.claimMany batch.consumer.asStr token (json.encode ids))
      let restored ← restoreLockTimeout json batch.lockTimeout
      match result with
      | .error e => return .error (claimError e)
      | .ok () =>
        match restored with
        | .error e => return .error e.into
        | .ok () =>
          match ← Prog.perform (Statement.claimedByToken (json.encode ids) batch.consumer.asStr token) with
          | .error e => return .error e.into
          | .ok fresh => return .ok (claimsFromFresh ids fresh)

/-- `MySqlInbox::unclaim`. -/
def unclaim (consumer : ConsumerId) (id : MessageId) : Prog (Statement json) (Answer json ε) (Except (InboxError ε) Unit) := do
  match ← Prog.perform (Statement.unclaim consumer.asStr id.asStr) with
  | .error e => return .error e.into
  | .ok () => return .ok ()

/-! ## The session variables -/

/-- `@@SESSION.innodb_lock_wait_timeout` and `@txbox_lock_wait_timeout`. -/
structure LockVars where
  lockWaitTimeout : Nat
  saved : Option Nat
  deriving DecidableEq, Repr

namespace LockVars

/-- `BEGIN_SQL`: a saved value is put back. The right-hand sides are evaluated before anything is assigned. -/
def begin (vars : LockVars) : LockVars := ⟨vars.saved.getD vars.lockWaitTimeout, none⟩

/-- `SET_LOCK_TIMEOUT_SQL`. -/
def set (secs : Nat) (vars : LockVars) : LockVars := ⟨secs, some vars.lockWaitTimeout⟩

/-- `RESTORE_LOCK_TIMEOUT_SQL`. With nothing saved the value is `NULL`, which the server refuses (`ER_WRONG_TYPE_FOR_VAR`). -/
def restore (vars : LockVars) : Except (SqlxError ε Nat) Unit × LockVars :=
  match vars.saved with
  | some value => (.ok (), ⟨value, none⟩)
  | none => (.error (.database 1232), vars)

end LockVars

/-! ## The server -/

/-- The columns of a row besides its key. -/
structure Columns where
  processedAt : Int
  claimToken : Option UInt64
  deriving DecidableEq, Repr

/-- A connection with an open transaction: its session variables, the clock and the random numbers as what they will be read as, and
the rows it sees. -/
structure Conn where
  vars : LockVars
  clock : Nat → Int
  tokens : Nat → UInt64
  table : Table Columns

/-- The first characters of a string, as many as fit the column. -/
def cut (width : Nat) (s : String) : String := String.ofList (s.toList.take width)

/-- The string fits the column. -/
def fits (width : Nat) (s : String) : Bool := s.length ≤ width

/-- The clock as read by the next statement. -/
def Conn.tick (s : Conn) : Conn := { s with clock := fun n => s.clock (n + 1) }

/-- What the statements do. -/
def exec : (c : Statement json) → Conn → Answer json ε c × Conn
  | .random, s => (.ok (s.tokens 0), { s with tokens := fun n => s.tokens (n + 1) })
  | .setLockTimeout secs, s => (.ok (), { s with vars := s.vars.set secs })
  | .claim consumer id, s =>
    let (inserted, table) := s.table.insertNew (cut 255 consumer, cut 512 id) ⟨s.clock 0, none⟩
    (.ok inserted.toNat, { s.tick with table })
  | .restoreLockTimeout, s =>
    let (r, vars) := s.vars.restore
    (r, { s with vars })
  | .claimMany consumer token ids, s =>
    if fits 255 consumer && (json.decode ids).all (fits 512) then
      let (_, table) := s.table.insertEach consumer ⟨s.clock 0, some token⟩ (sortBytes (json.decode ids))
      (.ok (), { s.tick with table })
    else (.error (.database 1406), s)
  | .claimedByToken ids consumer token, s =>
    (.ok ((json.decode ids).filter fun id => (s.table (consumer, id)).any fun columns => columns.claimToken = some token), s)
  | .unclaim consumer id, s => (.ok (), { s with table := Function.update s.table (consumer, id) none })

end MySqlInbox

end Txbox
