import Txbox.Machine
import Txbox.Postgres
import Txbox.MySql
import Txbox.Sqlite

/-!
# Asking for a recorded message

`is_known_duplicate` of `src/consumer.rs`, `src/store.rs` and the three backends: one `SELECT EXISTS` on a connection of the pool,
outside every transaction, so it sees what is committed and nothing else.
-/

namespace Txbox

open Lib

/-- `KNOWN_DUPLICATE_SQL` with its bound strings. -/
structure KnownQuery where
  consumer : String
  id : String
  deriving DecidableEq

/-- A function that asks the server. -/
abbrev KnownProg (ε Code : Type) (α : Type) : Type := Prog KnownQuery (fun _ => Except (SqlxError ε Code) Bool) α

variable {ε Code C : Type}

/-- The three backends' `is_known_duplicate`: an error of the server is a backend failure, contention or not. -/
def Sql.isKnownDuplicate [ToString Code] (consumer : ConsumerId) (id : MessageId) :
    KnownProg ε Code (Except (InboxError ε) Bool) := do
  match ← Prog.perform (⟨consumer.asStr, id.asStr⟩ : KnownQuery) with
  | .error e => return .error e.into
  | .ok known => return .ok known

/-- The default `InboxStore::is_known_duplicate`: unknown. -/
def Store.isKnownDuplicate (_consumer : ConsumerId) (_id : MessageId) : KnownProg ε Code (Except (InboxError ε) Bool) :=
  return .ok false

/-- What the query answers on a table, where the strings do not raise an error. -/
def KnownQuery.answer (q : KnownQuery) (t : Table C) : Bool := (t (q.consumer, q.id)).isSome

namespace PgInbox

/-- `PgInbox::is_known_duplicate`. -/
def isKnownDuplicate (consumer : ConsumerId) (id : MessageId) : KnownProg ε String (Except (InboxError ε) Bool) :=
  Sql.isKnownDuplicate consumer id

/-- The query on PostgreSQL: a bound string with U+0000 raises `character_not_in_repertoire`. -/
def execKnown (q : KnownQuery) (t : Table C) : Except (SqlxError ε String) Bool × Table C :=
  if hasNul q.consumer || hasNul q.id then (.error (.database "22021"), t) else (.ok (q.answer t), t)

end PgInbox

namespace MySqlInbox

/-- `MySqlInbox::is_known_duplicate`. -/
def isKnownDuplicate (consumer : ConsumerId) (id : MessageId) : KnownProg ε Nat (Except (InboxError ε) Bool) :=
  Sql.isKnownDuplicate consumer id

/-- The query on MySQL: nothing is cut to the width of a column. -/
def execKnown (q : KnownQuery) (t : Table C) : Except (SqlxError ε Nat) Bool × Table C := (.ok (q.answer t), t)

end MySqlInbox

namespace SqliteInbox

/-- `SqliteInbox::is_known_duplicate`. -/
def isKnownDuplicate (consumer : ConsumerId) (id : MessageId) : KnownProg ε Nat (Except (InboxError ε) Bool) :=
  Sql.isKnownDuplicate consumer id

/-- The query on SQLite. -/
def execKnown (q : KnownQuery) (t : Table C) : Except (SqlxError ε Nat) Bool × Table C := (.ok (q.answer t), t)

end SqliteInbox

/-- The table holds the committed rows. -/
def State.Shows {T W : Type} (s : State ε T W) (t : Table C) : Prop :=
  ∀ key : Key, (t (key.1.asStr, key.2.asStr)).isSome = (s.rows key).isSome

end Txbox
