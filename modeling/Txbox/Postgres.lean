import Txbox.Sql

/-!
# PostgreSQL

`src/postgres.rs`: `claim` and `claim_many`, and what their statements do on a migrated database without contention. The columns are
`TEXT`: any UTF-8 string without U+0000, in an index whose entries have at most 2704 bytes. A `lock_timeout` has at most 2147483647 ms.
-/

namespace Txbox

open Lib

namespace PgInbox

/-- `pg_lock_timeout`: whole milliseconds, rounded up, never below one. -/
def pgLockTimeout (timeout : Duration) : String :=
  let ms := max ((timeout.asNanos + 999999) / 1000000) 1
  s!"{ms}ms"

/-- The statements. -/
inductive Statement where
  | setLockTimeout (value : String)
  | claim (consumer id : String)
  | claimMany (consumer : String) (ids : List String)
  deriving DecidableEq

/-- What they answer: nothing, the rows affected, the rows returned. -/
@[reducible] def Answer (ε : Type) : Statement → Type
  | .setLockTimeout _ => Except (SqlxError ε String) Unit
  | .claim _ _ => Except (SqlxError ε String) Nat
  | .claimMany _ _ => Except (SqlxError ε String) (List String)

variable {ε : Type}

/-- `claim_error`: a lock timeout and a deadlock are contention. -/
def claimError : SqlxError ε String → InboxError ε
  | .database code => if code = "55P03" ∨ code = "40P01" then .contended else (SqlxError.database code).into
  | .other source => (SqlxError.other source : SqlxError ε String).into

/-- `set_lock_timeout`. -/
def setLockTimeout (timeout : Option Duration) : Prog Statement (Answer ε) (Except (SqlxError ε String) Unit) :=
  match timeout with
  | some timeout => Prog.perform (Statement.setLockTimeout (pgLockTimeout timeout))
  | none => return .ok ()

/-- `PgInbox::claim`. -/
def claim (request : ClaimRequest) : Prog Statement (Answer ε) (Except (InboxError ε) Claim) := do
  match ← setLockTimeout request.lockTimeout with
  | .error e => return .error e.into
  | .ok () =>
    match ← Prog.perform (Statement.claim request.consumer.asStr request.id.asStr) with
    | .error e => return .error (claimError e)
    | .ok affected => return .ok (claimOfAffected affected)

/-- `PgInbox::claim_many`. -/
def claimMany (batch : ClaimBatch) : Prog Statement (Answer ε) (Except (InboxError ε) (List Claim)) := do
  match ← setLockTimeout batch.lockTimeout with
  | .error e => return .error e.into
  | .ok () =>
    let ids := batch.ids.map StringNewtype.asStr
    match ← Prog.perform (Statement.claimMany batch.consumer.asStr ids) with
    | .error e => return .error (claimError e)
    | .ok fresh => return .ok (claimsFromFresh ids fresh)

/-! ## The server -/

/-- A connection with an open transaction: its start, its `lock_timeout`, and the rows it sees with their `processed_at`. -/
structure Conn where
  started : Int
  lockTimeout : Option String
  table : Table Int

/-- The milliseconds of a `lock_timeout` that the server accepts: no more than a 32-bit integer holds. -/
def acceptedMillis (value : String) : Option Nat :=
  let millis := Nat.ofDigitChars 10 (value.toList.takeWhile Char.isDigit) 0
  if millis ≤ 2147483647 then some millis else none

/-- No lock timeout, or one of which the server accepts the milliseconds. -/
def TimeoutAccepted (timeout : Option Duration) : Prop := ∀ t ∈ timeout, t.asNanos ≤ 2147483647 * 1000000

/-- The error of any other timeout, as the inbox returns it. -/
def timeoutError : InboxError ε := (SqlxError.database "22023" : SqlxError ε String).into

/-- The bytes of an entry of the primary key: the header of the entry and of the two values, and the two values, rounded up to the
alignment. -/
def entryBytes (consumer id : String) : Nat := (8 + (4 + consumer.utf8ByteSize) + (4 + id.utf8ByteSize) + 7) / 8 * 8

/-- The error that a consumer and ids raise, if any: `character_not_in_repertoire` for U+0000 in a bound string,
`program_limit_exceeded` for an index entry that does not fit. -/
def textError (consumer : String) (ids : List String) : Option String :=
  if (consumer :: ids).any hasNul then some "22021"
  else if ids.any (fun id => decide (entryBytes consumer id > 2704)) then some "54000"
  else none

/-- What the statements do. A statement that raises an error changes nothing; a timeout that is out of range is an
`invalid_parameter_value`. -/
def exec : (c : Statement) → Conn → Answer ε c × Conn
  | .setLockTimeout value, s =>
    if (acceptedMillis value).isSome then (.ok (), { s with lockTimeout := some value }) else (.error (.database "22023"), s)
  | .claim consumer id, s =>
    match textError consumer [id] with
    | some code => (.error (.database code), s)
    | none =>
      let (inserted, table) := s.table.insertNew (consumer, id) s.started
      (.ok inserted.toNat, { s with table })
  | .claimMany consumer ids, s =>
    match textError consumer ids with
    | some code => (.error (.database code), s)
    | none =>
      let (fresh, table) := s.table.insertEach consumer s.started (sortBytes ids)
      (.ok fresh, { s with table })

end PgInbox

end Txbox
