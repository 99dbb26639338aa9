import Txbox.Consumer

/-!
# The SQL backends: what they share

`src/sql.rs`, the default `claim_many` of `src/store.rs`, and the inbox table as the three servers keep it: rows by their primary key,
the two strings `(consumer_id, message_id)`, compared byte for byte. The functions of the backends are programs over the statements
they send, so that what a statement does, and where a future is dropped, is said by whatever runs them.
-/

namespace Txbox

open Lib

/-! ## Tables -/

/-- The inbox table: the other columns of every row, by primary key. -/
abbrev Table (C : Type) : Type := String × String → Option C

namespace Table

variable {C : Type}

/-- The keys of the rows. -/
def keys (t : Table C) : Set (String × String) := { key | (t key).isSome }

/-- Insert a row unless its key is taken (`ON CONFLICT DO NOTHING`, a no-op `ON DUPLICATE KEY UPDATE`, `INSERT IGNORE`), and say
whether it was inserted. -/
def insertNew (t : Table C) (key : String × String) (columns : C) : Bool × Table C :=
  if (t key).isSome then (false, t) else (true, Function.update t key (some columns))

/-- `INSERT ... SELECT`: one row after another, with the ids of those that were inserted. -/
def insertEach (consumer : String) (columns : C) : Table C → List String → List String × Table C
  | t, [] => ([], t)
  | t, id :: ids =>
    match t.insertNew (consumer, id) columns with
    | (true, t') =>
      let (fresh, t'') := insertEach consumer columns t' ids
      (id :: fresh, t'')
    | (false, t') => insertEach consumer columns t' ids

end Table

/-- The ids in the order of their bytes (`ORDER BY id COLLATE "C"`). -/
def sortBytes (ids : List String) : List String := ids.insertionSort fun a b => bytes a ≤ bytes b

/-- The character that PostgreSQL's `text` cannot hold. -/
def hasNul (s : String) : Bool := s.toList.contains '\x00'

/-- How a list of ids travels in one bound value and is taken apart by the server: `serde_json` on this side, `json_each` or
`JSON_TABLE` on the other. -/
structure JsonCodec where
  Text : Type
  encode : List String → Text
  decode : Text → List String
  decode_encode : ∀ ids, (∀ id ∈ ids, hasNul id = false) → decode (encode ids) = ids

/-- The list itself as the text. -/
def JsonCodec.list : JsonCodec := ⟨List String, id, id, fun _ _ => rfl⟩

/-! ## Errors -/

/-- An error of sqlx: one the server reported, with its code, or any other. -/
inductive SqlxError (ε Code : Type) where
  | database (code : Code)
  | other (source : BoxError ε)

/-- `From<sqlx::Error> for InboxError`. -/
def SqlxError.into {ε Code : Type} [ToString Code] : SqlxError ε Code → InboxError ε
  | .database code => .backend (.text s!"error returned from database: {code}")
  | .other source => .backend source

/-! ## Claims -/

/-- `claims_from_fresh`: one claim per id, in order. -/
def claimsFromFresh (ids fresh : List String) : List Claim :=
  ids.map fun id => if fresh.contains id then .fresh else .duplicate

/-- What `rows_affected` of a claim says. -/
def claimOfAffected (affected : Nat) : Claim := if affected = 1 then .fresh else .duplicate

/-- The default `InboxStore::claim_many`: one claim after another, stopping at the first error. -/
def defaultClaimMany {Op : Type} {R : Op → Type} {ε : Type} (claim : ClaimRequest → Prog Op R (Except (InboxError ε) Claim))
    (consumer : ConsumerId) (lockTimeout : Option Duration) : List MessageId → List Claim →
    Prog Op R (Except (InboxError ε) (List Claim))
  | [], claims => return .ok claims
  | id :: ids, claims => do
    match ← claim { ClaimRequest.new consumer id with lockTimeout } with
    | .error e => return .error e
    | .ok answer => defaultClaimMany claim consumer lockTimeout ids (claims ++ [answer])

end Txbox
