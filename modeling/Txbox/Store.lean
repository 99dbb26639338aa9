import Txbox.Types
import Txbox.Lib.Prog

/-!
# The store and the functions that use it

`src/store.rs`. The calls a function makes on a backend are a signature (`Call`); the functions of `Consumer` are programs over it
(`Lib.Prog`), so that one definition of each serves every backend, every failure and every interleaving. A transaction is owned:
a function that opened one ends by committing it, by rolling it back or by dropping it (`Finish`), and nothing can be called on it
after that.

A backend (`Backend`) interprets the calls. Its transactions roll back on drop and its commit is atomic: what is committed changes
only when a commit lands, and then to what `publish` says, whole. Everything else about it is arbitrary, the handler included.
-/

namespace Txbox

open Lib

/-- The calls made on the connection of an open transaction: the methods of `InboxStore` and `Savepoints`, and the user's
handler. -/
inductive Call where
  | claim (request : ClaimRequest)
  | claimMany (batch : ClaimBatch)
  | savepoint
  | releaseAndSavepoint
  | release
  | rollbackTo
  | unclaim (consumer : ConsumerId) (id : MessageId)
  | handler (id : MessageId)
  deriving DecidableEq

/-- What each call is answered with. -/
@[reducible] def Reply (ε T : Type) : Call → Type
  | .claim _ => Except (InboxError ε) Claim
  | .claimMany _ => Except (InboxError ε) (List Claim)
  | .savepoint => Except (InboxError ε) Unit
  | .releaseAndSavepoint => Except (InboxError ε) Unit
  | .release => Except (InboxError ε) Unit
  | .rollbackTo => Except (InboxError ε) Unit
  | .unclaim _ _ => Except (InboxError ε) Unit
  | .handler _ => Except (HandlerError ε) T

/-- A function that works on a connection. -/
abbrev ConnProg (ε T α : Type) : Type := Prog Call (Reply ε T) α

/-- What a function does with the transaction it owns when it ends: it returns and so drops it, or it gives it to `commit` or
`rollback` and returns what it makes of the answer. -/
inductive Finish (ε α : Type) where
  | drop (a : α)
  | commit (k : Except (InboxError ε) Unit → α)
  | rollback (k : Except (InboxError ε) Unit → α)

/-- A function that opens a transaction, or returns without one. `k` is what it returns when `begin` fails. -/
inductive Routine (ε T α : Type) where
  | ret (a : α)
  | begin (k : InboxError ε → α) (body : ConnProg ε T (Finish ε α))

namespace Finish

variable {ε α β : Type}

/-- Change the result. -/
def map (f : α → β) : Finish ε α → Finish ε β
  | .drop a => .drop (f a)
  | .commit k => .commit (f ∘ k)
  | .rollback k => .rollback (f ∘ k)

end Finish

namespace Store

variable {ε T : Type}

/-- `InboxStore::claim`. -/
def claim (request : ClaimRequest) : ConnProg ε T (Except (InboxError ε) Claim) := Prog.perform (Call.claim request)

/-- `InboxStore::claim_many`. -/
def claimMany (batch : ClaimBatch) : ConnProg ε T (Except (InboxError ε) (List Claim)) := Prog.perform (Call.claimMany batch)

/-- `Savepoints::savepoint`. -/
def savepoint : ConnProg ε T (Except (InboxError ε) Unit) := Prog.perform Call.savepoint

/-- `Savepoints::release_and_savepoint`. -/
def releaseAndSavepoint : ConnProg ε T (Except (InboxError ε) Unit) := Prog.perform Call.releaseAndSavepoint

/-- `Savepoints::release`. -/
def release : ConnProg ε T (Except (InboxError ε) Unit) := Prog.perform Call.release

/-- `Savepoints::rollback_to`. -/
def rollbackTo : ConnProg ε T (Except (InboxError ε) Unit) := Prog.perform Call.rollbackTo

/-- `Savepoints::unclaim`. -/
def unclaim (consumer : ConsumerId) (id : MessageId) : ConnProg ε T (Except (InboxError ε) Unit) :=
  Prog.perform (Call.unclaim consumer id)

/-- The user's handler, called with the connection and the message. -/
def handler (id : MessageId) : ConnProg ε T (Except (HandlerError ε) T) := Prog.perform (Call.handler id)

end Store

/-! ## Backends -/

/-- A backend together with the handler run on it. `Db` is what is committed, `Tx` one open transaction, `World` everything else
the answers may depend on (the network, the clock, the state the handler's closure captured). Only a commit can change what is
committed: it answers, and says whether it landed. -/
structure Backend (ε T World Db Tx : Type) where
  begin : World → Db → Except (InboxError ε) Tx × World
  call : (c : Call) → World → Db → Tx → Reply ε T c × World × Tx
  commit : World → Db → Tx → Except (InboxError ε) Unit × World × Bool
  rollback : World → Db → Tx → Except (InboxError ε) Unit × World
  publish : Tx → Db → Db

/-- Where the future a function returned is dropped: while `begin` is in flight, while the call after the first `n` calls on the
connection is, or while `commit` or `rollback` is. A commit in flight may have landed. -/
inductive Cut where
  | begin
  | call (n : Nat)
  | finish (landed : Bool)
  deriving DecidableEq, Repr

/-- The number of calls on the connection after which the future is dropped. -/
def Cut.calls : Cut → Option Nat
  | .call n => some n
  | _ => none

namespace Backend

variable {ε T World Db Tx α : Type} (b : Backend ε T World Db Tx)

/-- The calls on the connection, as an interpreter over the transaction. -/
def exec (db : Db) (c : Call) (s : World × Tx) : Reply ε T c × World × Tx := b.call c s.1 db s.2

/-- What is committed after a commit that landed or not. -/
def settle (landed : Bool) (tx : Tx) (db : Db) : Db := if landed then b.publish tx db else db

/-- The end of a function that owns a transaction. -/
def finish (cut : Option Cut) (f : Finish ε α) (w : World) (db : Db) (tx : Tx) : Prog.Ended α × World × Db :=
  match f, cut with
  | .drop a, _ => (.returned a, w, db)
  | .commit _, some (.finish landed) => (.dropped, w, b.settle landed tx db)
  | .commit k, _ =>
    let (r, w', landed) := b.commit w db tx
    (.returned (k r), w', b.settle landed tx db)
  | .rollback _, some (.finish _) => (.dropped, w, db)
  | .rollback k, _ =>
    let (r, w') := b.rollback w db tx
    (.returned (k r), w', db)

/-- Run a function against the backend, dropping its future at `cut` if it gets there. A function that ends in any way but a commit
leaves its transaction to be dropped, which rolls it back. -/
def run (cut : Option Cut) (r : Routine ε T α) (w : World) (db : Db) : Prog.Ended α × World × Db :=
  match r with
  | .ret a => (.returned a, w, db)
  | .begin k body =>
    if cut = some .begin then (.dropped, w, db)
    else
      match b.begin w db with
      | (.error e, w') => (.returned (k e), w', db)
      | (.ok tx, w') =>
        match Prog.run (b.exec db) (cut.bind Cut.calls) body (w', tx) with
        | (.returned f, w'', tx') => b.finish cut f w'' db tx'
        | (.panicked, w'', _) => (.panicked, w'', db)
        | (.dropped, w'', _) => (.dropped, w'', db)

variable {b}

/-- A function whose transaction opens and whose body returns ends as its body says. -/
theorem run_begin {k : InboxError ε → α} {body : ConnProg ε T (Finish ε α)} {f : Finish ε α} {w w' w'' : World} {db : Db}
    {tx tx' : Tx} (hb : b.begin w db = (.ok tx, w'))
    (h : Prog.run (b.exec db) none body (w', tx) = (.returned f, w'', tx')) :
    b.run none (.begin k body) w db = b.finish none f w'' db tx' := by
  simp only [run, hb, reduceCtorEq, if_false, Option.bind_none, h]

end Backend

end Txbox
