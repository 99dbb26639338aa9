import Txbox.Sql

/-!
# SQLite

`src/sqlite.rs`: `claim` and `claim_many`, and what their statements do on a migrated database without contention. The columns are
`TEXT` and hold any string. `processed_at` is the caller's clock.
-/

namespace Txbox

open Lib

namespace SqliteInbox

variable {ε : Type} (json : JsonCodec)

/-- The caller's clock, and the statements. -/
inductive Statement where
  | utcNow
  | claim (consumer id : String) (processedAt : Int)
  | claimMany (consumer : String) (processedAt : Int) (ids : json.Text)

/-- What they answer: the time, the rows affected, the rows returned. -/
@[reducible] def Answer (ε : Type) : Statement json → Type
  | .utcNow => Int
  | .claim _ _ _ => Except (SqlxError ε Nat) Nat
  | .claimMany _ _ _ => Except (SqlxError ε Nat) (List String)

/-- `claim_error`: `SQLITE_BUSY` and `SQLITE_LOCKED`, by their primary codes, are contention. -/
def claimError : SqlxError ε Nat → InboxError ε
  | .database code => if code % 256 = 5 ∨ code % 256 = 6 then .contended else (SqlxError.database code).into
  | .other source => (SqlxError.other source : SqlxError ε Nat).into

/-- `SqliteInbox::claim`. It has no lock timeout. -/
def claim (request : ClaimRequest) : Prog (Statement json) (Answer json ε) (Except (InboxError ε) Claim) := do
  let now ← Prog.perform Statement.utcNow
  match ← Prog.perform (Statement.claim request.consumer.asStr request.id.asStr now) with
  | .error e => return .error (claimError e)
  | .ok affected => return .ok (claimOfAffected affected)

/-- `SqliteInbox::claim_many`. -/
def claimMany (batch : ClaimBatch) : Prog (Statement json) (Answer json ε) (Except (InboxError ε) (List Claim)) := do
  let ids := batch.ids.map StringNewtype.asStr
  let now ← Prog.perform Statement.utcNow
  match ← Prog.perform (Statement.claimMany batch.consumer.asStr now (json.encode ids)) with
  | .error e => return .error (claimError e)
  | .ok fresh => return .ok (claimsFromFresh ids fresh)

/-! ## The server -/

/-- A connection with an open transaction: the caller's clock, as what it will read, and the rows it sees with their
`processed_at`. -/
structure Conn where
  clock : Nat → Int
  table : Table Int

/-- What the statements do. -/
def exec : (c : Statement json) → Conn → Answer json ε c × Conn
  | .utcNow, s => (s.clock 0, { s with clock := fun n => s.clock (n + 1) })
  | .claim consumer id processedAt, s =>
    let (inserted, table) := s.table.insertNew (consumer, id) processedAt
    (.ok inserted.toNat, { s with table })
  | .claimMany consumer processedAt ids, s =>
    let (fresh, table) := s.table.insertEach consumer processedAt (json.decode ids)
    (.ok fresh, { s with table })

end SqliteInbox

end Txbox
