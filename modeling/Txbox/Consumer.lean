import Txbox.Store
import Txbox.Lib.SortUniq
import Mathlib.Logic.Function.Basic

/-!
# The consumer

`src/consumer.rs`: `claim`, `claim_many`, `process` and `process_many`, as programs over the calls of the store. A `?` on a failed
call returns the error and so drops the transaction.
-/

namespace Txbox

open Lib

/-- One logical consumer of one stream. The store is whatever interprets its programs. -/
structure Consumer where
  id : ConsumerId
  lockTimeout : Option Duration
  deriving DecidableEq

namespace Consumer

variable {ε T : Type}

/-- `Consumer::claim`. -/
def claim (self : Consumer) (id : MessageId) : ConnProg ε T (Except (InboxError ε) Claim) :=
  Store.claim { ClaimRequest.new self.id id with lockTimeout := self.lockTimeout }

/-- The error `claim_many` returns when the backend answers with the wrong number of claims. -/
def lengthError (claims ids : Nat) : InboxError ε :=
  .backend (.text s!"claim_many returned {claims} claims for {ids} ids")

/-- `HashMap::insert` on the map from ids to answers. -/
def insertAnswer (answers : MessageId → Option Claim) (p : MessageId × Claim) : MessageId → Option Claim :=
  Function.update answers p.1 (some p.2)

/-- The map from ids to answers (`zip(claims).collect()`). -/
def collect (pairs : List (MessageId × Claim)) : MessageId → Option Claim := pairs.foldl insertAnswer (fun _ => none)

/-- Take the answer of every id in order, leaving `Duplicate` behind for its repeats; `none` is the `expect` that panics. -/
def takeAnswers (answers : MessageId → Option Claim) : List MessageId → Option (List Claim)
  | [] => some []
  | id :: ids => do
    let claim ← answers id
    let claims ← takeAnswers (insertAnswer answers (id, .duplicate)) ids
    return claim :: claims

/-- The batch `claim_many` sends to the backend: the ids sorted by bytes, each once. -/
def batch (self : Consumer) (ids : List MessageId) : ClaimBatch :=
  { ClaimBatch.new self.id (sortUniq ids) with lockTimeout := self.lockTimeout }

/-- What `claim_many` makes of the backend's claims for the ids it was sent: one claim for every id of the caller, in order. -/
def spreadClaims (unique ids : List MessageId) (claims : List Claim) :
    ConnProg ε T (Except (InboxError ε) (List Claim)) :=
  if claims.length ≠ unique.length then return .error (lengthError claims.length unique.length)
  else
    match takeAnswers (collect (unique.zip claims)) ids with
    | some claims => return .ok claims
    | none => .panic "every id was sent to the backend"

/-- `Consumer::claim_many`. -/
def claimMany (self : Consumer) (ids : List MessageId) : ConnProg ε T (Except (InboxError ε) (List Claim)) := do
  if ids.isEmpty then return .ok []
  match ← Store.claimMany (self.batch ids) with
  | .error e => return .error e
  | .ok claims => spreadClaims (self.batch ids).ids ids claims

/-- `process` on its transaction. -/
def processInTx (self : Consumer) (id : MessageId) :
    ConnProg ε T (Finish ε (Except (InboxError ε) (Outcome T))) := do
  match ← self.claim id with
  | .error e => return .drop (.error e)
  | .ok .duplicate => return .rollback (fun r => r.map fun _ => .duplicate)
  | .ok .fresh =>
    match ← Store.handler id with
    | .ok value => return .commit (fun r => r.map fun _ => .processed value)
    | .error e => return .rollback (fun _ => .error (.handler e))

/-- `process` on its transaction, written out: the claim, and the handler if it is fresh. -/
theorem processInTx_eq (self : Consumer) (id : MessageId) : (self.processInTx id : ConnProg ε T _) =
    .call (.claim { ClaimRequest.new self.id id with lockTimeout := self.lockTimeout }) fun
      | .error e => .ret (.drop (.error e))
      | .ok .duplicate => .ret (.rollback fun r => r.map fun _ => .duplicate)
      | .ok .fresh => .call (.handler id) fun
        | .ok value => .ret (.commit fun r => r.map fun _ => .processed value)
        | .error e => .ret (.rollback fun _ => .error (.handler e)) := by
  change Prog.call _ _ = Prog.call _ _
  congr 1
  funext r
  rcases r with e | claim
  · rfl
  · cases claim with
    | duplicate => rfl
    | fresh =>
      change Prog.call _ _ = Prog.call _ _
      congr 1
      funext r
      cases r <;> rfl

/-- `Consumer::process`. -/
def process (self : Consumer) (id : MessageId) : Routine ε T (Except (InboxError ε) (Outcome T)) :=
  .begin .error (self.processInTx id)

/-- What a repeat of an id whose handler failed reports. -/
def repeatError (id : MessageId) : HandlerError ε :=
  .text s!"an earlier delivery of `{id.asStr}` in this batch failed"

/-- One fresh message of `process_many`: run its handler; when it fails, undo its writes and delete its claim. -/
def handleFresh (self : Consumer) (id : MessageId) : ConnProg ε T (Except (InboxError ε) (ProcessResult ε T)) := do
  match ← Store.handler id with
  | .ok value => return .ok (.ok (.processed value))
  | .error e =>
    match ← Store.rollbackTo with
    | .error e => return .error e
    | .ok () =>
      match ← Store.unclaim self.id id with
      | .error e => return .error e
      | .ok () => return .ok (.error e)

/-- What follows a fresh message: the savepoint is released, and opened again while other fresh messages wait. -/
def nextSavepoint (pending : Nat) : ConnProg ε T (Except (InboxError ε) Unit) :=
  if pending > 0 then Store.releaseAndSavepoint else Store.release

/-- The ids whose handler failed, after one more message. -/
def noteFailure (id : MessageId) (result : ProcessResult ε T) (failed : List MessageId) : List MessageId :=
  match result with
  | .ok _ => failed
  | .error _ => id :: failed

/-- The loop of `process_many` over the ids and their claims: `pending` fresh claims are still to be handled, `failed` are the ids
whose handler failed. -/
def processLoop (self : Consumer) : List (MessageId × Claim) → (pending : Nat) → (results : List (ProcessResult ε T)) →
    (failed : List MessageId) → ConnProg ε T (Finish ε (Except (InboxError ε) (List (ProcessResult ε T))))
  | [], _, results, _ => return .commit (fun r => r.map fun _ => results)
  | (id, .duplicate) :: rest, pending, results, failed =>
    if failed.contains id then self.processLoop rest pending (results ++ [.error (repeatError id)]) failed
    else self.processLoop rest pending (results ++ [.ok .duplicate]) failed
  | (_, .fresh) :: _, 0, _, _ => .panic "attempt to subtract with overflow"
  | (id, .fresh) :: rest, pending + 1, results, failed => do
    match ← self.handleFresh id with
    | .error e => return .drop (.error e)
    | .ok result =>
      match ← nextSavepoint pending with
      | .error e => return .drop (.error e)
      | .ok () => self.processLoop rest pending (results ++ [result]) (noteFailure id result failed)

/-- `process_many` once its claims are taken: the first savepoint is opened if any message is fresh, and the loop runs. -/
def processClaimed (self : Consumer) (ids : List MessageId) (claims : List Claim) :
    ConnProg ε T (Finish ε (Except (InboxError ε) (List (ProcessResult ε T)))) := do
  let pending := claims.count .fresh
  if pending > 0 then
    match ← Store.savepoint with
    | .error e => return .drop (.error e)
    | .ok () => self.processLoop (ids.zip claims) pending [] []
  else self.processLoop (ids.zip claims) pending [] []

/-- `process_many` on its transaction. -/
def processBatch (self : Consumer) (ids : List MessageId) :
    ConnProg ε T (Finish ε (Except (InboxError ε) (List (ProcessResult ε T)))) := do
  match ← self.claimMany ids with
  | .error e => return .drop (.error e)
  | .ok claims => self.processClaimed ids claims

/-- `Consumer::process_many`. -/
def processMany (self : Consumer) (ids : List MessageId) :
    Routine ε T (Except (InboxError ε) (List (ProcessResult ε T))) :=
  if ids.isEmpty then .ret (.ok []) else .begin .error (self.processBatch ids)

end Consumer

end Txbox
