import Txbox.History
import Txbox.Testing

/-!
# The backends as stores

The methods of `PgInbox`, `MySqlInbox` and `SqliteInbox` on a pool of one connection, without contention, as the conformance suite
calls them: the claims are the backends' own statements, and a transaction that is dropped is rolled back when the connection is used
next.
-/

namespace Txbox

/-- A pool of one connection: the connection with its transaction, if one is open, and what the coming transactions will read. -/
structure Pool {ε : Type} (b : SqlBackend ε) where
  turn : Turn b Unit Unit Unit
  readings : Nat → Readings

namespace Pool

variable {ε α : Type} {b : SqlBackend ε}

/-- A pool without an open transaction. -/
def idle (t : Table b.Columns) (conn : b.Conn) (readings : Nat → Readings) : Pool b :=
  ⟨⟨⟨⟨t, fun _ => ()⟩, .ended⟩, conn, (), []⟩, readings⟩

/-- The rows that are committed. -/
def table (s : Pool b) : Table b.Columns := s.turn.link.committed.table

/-- The transaction is over, and this is committed. -/
def ended (contents : Contents b.Columns Unit) (s : Pool b) : Pool b := { s with turn.link := ⟨contents, .ended⟩ }

/-- A call on the connection. -/
def onTurn (f : Turn b Unit Unit Unit → α × Turn b Unit Unit Unit) (s : Pool b) : α × Pool b :=
  let (r, turn) := f s.turn
  (r, { s with turn })

/-- `begin`. -/
def begin (s : Pool b) : Pool b :=
  ⟨⟨Link.begin s.turn.link.committed, b.begin (s.readings 0) s.turn.conn, (), []⟩, fun n => s.readings (n + 1)⟩

/-- The methods. -/
def exec : (op : StoreOp) → Pool b → StoreReply ε op × Pool b
  | .begin, s => (.ok (), s.begin)
  | .commit, s => (.ok (), s.ended s.turn.link.commit)
  | .rollback, s => (.ok (), s.ended s.turn.link.committed)
  | .drop, s => ((), s.ended s.turn.link.committed)
  | .claim request, s => s.onTurn (Turn.claim (b.claim request))
  | .claimMany batch, s => s.onTurn (Turn.claim (b.claimMany batch))
  | .savepoint, s => s.onTurn (Turn.onLink Link.savepoint)
  | .releaseAndSavepoint, s => s.onTurn (Turn.onLink (Turn.releaseAndSavepoint b.fate))
  | .release, s => s.onTurn (Turn.onLink (Link.release b.fate))
  | .rollbackTo, s => s.onTurn (Turn.onLink (Link.rollbackTo b.fate))
  | .unclaim consumer id, s => s.onTurn (Turn.onLink (Link.statement b.fate (Turn.unclaim (consumer.asStr, id.asStr))))

/-- A transaction is open. -/
def busy (s : Pool b) : Bool :=
  match s.turn.link.tx with
  | .ended => false
  | _ => true

/-- The pool has its connection for the call: a transaction begins where none is open, and ends where one is. -/
def Serves (s : Pool b) : StoreOp → Prop
  | .begin => s.busy = false
  | .commit => s.busy = true
  | .rollback => s.busy = true
  | .drop => s.busy = true
  | _ => True

end Pool

end Txbox
