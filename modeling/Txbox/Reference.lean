import Txbox.Consumer
import Txbox.Lib.Nested
import Mathlib.Data.Finset.Image

/-!
# A reference backend

A store with nested savepoints, no failures and no other writer, and a handler that reads and writes business data only. The
closure state of the handler is not part of the database: a rollback does not undo it. Every handler call is recorded with the
data it saw and what it returned.
-/

namespace Txbox

open Lib

/-- What is committed: the inbox rows and the business data. -/
structure Database (D : Type) where
  rows : Finset Key
  data : D
  deriving DecidableEq

/-- One call of the handler: the message, the closure state and the business data it saw, and what it returned. -/
structure HandlerCall (ε T H D : Type) where
  id : MessageId
  closure : H
  data : D
  result : Except (HandlerError ε) T

/-- The handler's side: the state its closure captured, and its calls so far. -/
structure HandlerState (ε T H D : Type) where
  closure : H
  calls : List (HandlerCall ε T H D)

/-- A stateful handler: from the state of its closure, the business data and the message, its answer, the new state and the new
data. -/
abbrev Handler (ε T H D : Type) : Type := H → D → MessageId → Except (HandlerError ε) T × H × D

/-- The handler returned `Ok`. -/
def HandlerCall.succeeded {ε T H D : Type} (call : HandlerCall ε T H D) : Bool := call.result.isOk

/-- What a call of the handler writes, on the business data it is given. -/
def HandlerCall.write {ε T H D : Type} (handler : Handler ε T H D) (data : D) (call : HandlerCall ε T H D) : D :=
  (handler call.closure data call.id).2.2

/-- The closure a call of the handler leaves. -/
def HandlerCall.next {ε T H D : Type} (handler : Handler ε T H D) (call : HandlerCall ε T H D) : H :=
  (handler call.closure call.data call.id).2.1

/-- The closure after some calls, one after another. -/
def closureAfter {ε T H D : Type} (handler : Handler ε T H D) (closure : H) (calls : List (HandlerCall ε T H D)) : H :=
  calls.foldl (fun _ call => call.next handler) closure

/-- `InboxStore::claim` on a set of rows: the row is inserted unless it is there. -/
def claimRow (rows : Finset Key) (key : Key) : Claim × Finset Key :=
  if key ∈ rows then (.duplicate, rows) else (.fresh, insert key rows)

/-- The default `InboxStore::claim_many`: one claim per id, in order. -/
def claimEach (consumer : ConsumerId) : Finset Key → List MessageId → List Claim × Finset Key
  | rows, [] => ([], rows)
  | rows, id :: ids =>
    let (claim, rows') := claimRow rows (consumer, id)
    let (claims, rows'') := claimEach consumer rows' ids
    (claim :: claims, rows'')

namespace Reference

variable {ε T H D : Type}

/-- The error of a savepoint operation when no savepoint is open. -/
def noSavepoint : InboxError ε := .backend (.text "no such savepoint")

/-- A savepoint operation: it fails when no savepoint is open. -/
def onSavepoint (w : HandlerState ε T H D) (tx : Nested (Database D)) :
    Option (Nested (Database D)) → Except (InboxError ε) Unit × HandlerState ε T H D × Nested (Database D)
  | some tx' => (.ok (), w, tx')
  | none => (.error noSavepoint, w, tx)

/-- A run of the handler on business data: the call is recorded with what it saw. -/
def runHandler (handler : Handler ε T H D) (w : HandlerState ε T H D) (data : D) (id : MessageId) :
    Except (HandlerError ε) T × HandlerState ε T H D × D :=
  let (result, closure, data') := handler w.closure data id
  (result, ⟨closure, w.calls ++ [⟨id, w.closure, data, result⟩]⟩, data')

/-- The calls on an open transaction. -/
def call (handler : Handler ε T H D) (w : HandlerState ε T H D) (tx : Nested (Database D)) :
    (c : Call) → Reply ε T c × HandlerState ε T H D × Nested (Database D)
  | .claim request =>
    let (claim, rows) := claimRow tx.cur.rows (request.consumer, request.id)
    (.ok claim, w, tx.modify ({ · with rows }))
  | .claimMany batch =>
    let (claims, rows) := claimEach batch.consumer tx.cur.rows batch.ids
    (.ok claims, w, tx.modify ({ · with rows }))
  | .savepoint => (.ok (), w, tx.savepoint)
  | .releaseAndSavepoint => onSavepoint w tx (tx.release.map Nested.savepoint)
  | .release => onSavepoint w tx tx.release
  | .rollbackTo => onSavepoint w tx tx.rollbackTo
  | .unclaim consumer id => (.ok (), w, tx.modify (fun db => { db with rows := db.rows.erase (consumer, id) }))
  | .handler id =>
    let (result, w', data) := runHandler handler w tx.cur.data id
    (result, w', tx.modify ({ · with data }))

/-- The backend: a transaction works on a copy of what is committed, and a commit puts the copy in its place. -/
def backend (handler : Handler ε T H D) : Backend ε T (HandlerState ε T H D) (Database D) (Nested (Database D)) where
  begin w db := (.ok (Nested.start db), w)
  call c w _ tx := call handler w tx c
  commit w _ _ := (.ok (), w, true)
  rollback w _ _ := (.ok (), w)
  publish tx _ := tx.cur

end Reference

end Txbox
