import Txbox.Consumer
import Txbox.Lib.Interp
import Txbox.Lib.Outcome
import Mathlib.Data.Finset.Image

/-!
# The conformance suite

`src/testing.rs`: the checks a backend runs against itself, as programs over the methods of a store. They open one transaction at a
time, so a call that needs one is made on the one that is open. A check that fails panics, and so does an `expect`; of a panic's text
the part that the suite wrote is kept.
-/

namespace Txbox

open Lib

/-- The methods of `InboxStore` and `Savepoints`, and what is not a method: the transaction is dropped. -/
inductive StoreOp where
  | begin
  | commit
  | rollback
  | drop
  | claim (request : ClaimRequest)
  | claimMany (batch : ClaimBatch)
  | savepoint
  | releaseAndSavepoint
  | release
  | rollbackTo
  | unclaim (consumer : ConsumerId) (id : MessageId)

/-- What they answer. -/
@[reducible] def StoreReply (ε : Type) : StoreOp → Type
  | .claim _ => Except (InboxError ε) Claim
  | .claimMany _ => Except (InboxError ε) (List Claim)
  | .drop => Unit
  | _ => Except (InboxError ε) Unit

/-- A function that uses a store. -/
abbrev StoreProg (ε α : Type) : Type := Prog StoreOp (StoreReply ε) α

/-- The method is one of `InboxStore`, or the transaction is dropped. -/
def StoreOp.IsInboxStore : StoreOp → Prop
  | .savepoint => False
  | .releaseAndSavepoint => False
  | .release => False
  | .rollbackTo => False
  | .unclaim _ _ => False
  | _ => True

namespace Testing

variable {ε T α : Type}

/-! ## The functions of `Consumer` on a store -/

/-- A handler that uses the store. -/
abbrev StoreHandler (ε T : Type) : Type := MessageId → StoreProg ε (Except (HandlerError ε) T)

/-- The calls on the open transaction. -/
def onConn (handler : StoreHandler ε T) : (c : Call) → StoreProg ε (Reply ε T c)
  | .claim request => Prog.perform (StoreOp.claim request)
  | .claimMany batch => Prog.perform (StoreOp.claimMany batch)
  | .savepoint => Prog.perform StoreOp.savepoint
  | .releaseAndSavepoint => Prog.perform StoreOp.releaseAndSavepoint
  | .release => Prog.perform StoreOp.release
  | .rollbackTo => Prog.perform StoreOp.rollbackTo
  | .unclaim consumer id => Prog.perform (StoreOp.unclaim consumer id)
  | .handler id => handler id

/-- The end of a function that owns the transaction. -/
def finish : Finish ε α → StoreProg ε α
  | .drop a => do
    let _ ← Prog.perform StoreOp.drop
    return a
  | .commit k => do
    let r ← Prog.perform StoreOp.commit
    return k r
  | .rollback k => do
    let r ← Prog.perform StoreOp.rollback
    return k r

/-- A function of `Consumer` that opens a transaction. -/
def routine (handler : StoreHandler ε T) : Routine ε T α → StoreProg ε α
  | .ret a => return a
  | .begin k body => do
    match ← Prog.perform StoreOp.begin with
    | .error e => return k e
    | .ok () => (body.interp (onConn handler)).bind finish

/-! ## Panics -/

/-- `Result::expect`. -/
def expect {E : Type} (message : String) : Except E α → StoreProg ε α
  | .ok a => return a
  | .error _ => .panic message

/-- `assert!` and `assert_eq!`. -/
def assert (condition : Bool) (message : String) : StoreProg ε Unit := if condition then return () else .panic message

/-! ## The run -/

/-- `{n:016x}`. -/
def hex (n : UInt64) : String := String.ofList ((List.range 16).map fun i => Nat.digitChar (n.toNat / 16 ^ (15 - i) % 16))

/-- One run of the suite: its random number. -/
structure Run where
  n : UInt64

/-- The text that makes its consumers its own. -/
def Run.nonce (run : Run) : String := hex run.n

/-- `Run::prefix`. -/
def Run.start (run : Run) : String := "conformance-" ++ run.nonce ++ "-"

/-- `Run::consumer`. -/
def Run.consumer (run : Run) (check : String) : StoreProg ε ConsumerId :=
  expect "valid consumer id" (StringNewtype.tryFrom (run.start ++ check))

/-- `message`. -/
def message (id : String) : StoreProg ε MessageId := expect "valid message id" (StringNewtype.tryFrom id)

/-- `str::repeat`. -/
def repeated (c : Char) (n : Nat) : String := String.ofList (List.replicate n c)

/-- U+1F600, a character of four bytes. -/
def wideChar : Char := Char.ofNat 0x1F600

/-- `store.consumer`: no lock timeout. -/
def consumerOf (id : ConsumerId) : Consumer := ⟨id, none⟩

/-- `claim_and_commit`. -/
def claimAndCommit (consumer : ConsumerId) (id : MessageId) : StoreProg ε Claim := do
  expect "begin" (← Prog.perform StoreOp.begin)
  let claim ← expect "claim" (← Prog.perform (StoreOp.claim (ClaimRequest.new consumer id)))
  expect "commit" (← Prog.perform StoreOp.commit)
  return claim

/-- `is_committed`. -/
def isCommitted (consumer : ConsumerId) (id : MessageId) : StoreProg ε Bool := do
  expect "begin" (← Prog.perform StoreOp.begin)
  let claim ← expect "claim" (← Prog.perform (StoreOp.claim (ClaimRequest.new consumer id)))
  expect "rollback" (← Prog.perform StoreOp.rollback)
  return claim == .duplicate

/-- `Consumer::begin`, `Consumer::claim` and then `rest`, in a transaction of the suite's own. -/
def claimInTx (consumer : ConsumerId) (id : MessageId) : StoreProg ε Unit := do
  expect "begin" (← Prog.perform StoreOp.begin)
  let _ ← expect "claim" (← ((consumerOf consumer).claim id : ConnProg ε Unit _).interp (onConn fun _ => .ret (.ok ())))
  return ()

/-! ## The checks -/

/-- `fresh_then_duplicate`. -/
def freshThenDuplicate (run : Run) : StoreProg ε Unit := do
  let consumer := consumerOf (← run.consumer "fresh")
  let id ← message "m"
  let first ← expect "first process" (← routine (fun _ => return .ok ()) (consumer.process id))
  let second ← expect "second process" (← routine (fun _ => return .ok ()) (consumer.process id))
  assert (first == .processed ()) "a new message must be processed"
  assert (second == .duplicate) "a redelivered message must be a duplicate"

/-- The handler of the next check: a claim under another consumer, and an error. `boxed` is what `?` makes of an error. -/
def failAfterClaim (boxed : InboxError ε → HandlerError ε) (consumer : ConsumerId) (id : MessageId) : StoreHandler ε Unit :=
  fun _ => do
    match ← Prog.perform (StoreOp.claim (ClaimRequest.new consumer id)) with
    | .error e => return .error (boxed e)
    | .ok _ => return .error (.text "deliberate handler failure")

/-- `matches!(result, Err(InboxError::Handler(_)))`. -/
def isHandlerError : Except (InboxError ε) α → Bool
  | .error (.handler _) => true
  | _ => false

/-- `handler_failure_rolls_back`. -/
def handlerFailureRollsBack (boxed : InboxError ε → HandlerError ε) (run : Run) : StoreProg ε Unit := do
  let inbox ← run.consumer "handler-failure"
  let effects ← run.consumer "handler-failure-effect"
  let id ← message "m"
  let result ← routine (failAfterClaim boxed effects id) ((consumerOf inbox).process id)
  assert (isHandlerError result) "a failing handler must surface as InboxError::Handler"
  assert (!(← isCommitted inbox id)) "a failed handler's claim must roll back"
  assert (!(← isCommitted effects id)) "a failed handler's effect must roll back with its claim"

/-- `explicit_rollback_discards`. -/
def explicitRollbackDiscards (run : Run) : StoreProg ε Unit := do
  let consumer ← run.consumer "rollback"
  let id ← message "m"
  claimInTx consumer id
  expect "rollback" (← Prog.perform StoreOp.rollback)
  assert (!(← isCommitted consumer id)) "InboxStore::rollback must discard the claim"

/-- What the next check panics with when a dropped transaction leaks. -/
def droppedMessage : String :=
  "a transaction dropped without commit must roll back; its claim was " ++
    "committed later, likely by the next transaction on the same pooled connection"

/-- `dropped_transaction_does_not_persist`. -/
def droppedTransactionDoesNotPersist (run : Run) : StoreProg ε Unit := do
  let consumer ← run.consumer "dropped"
  let dropped ← message "dropped"
  let later ← message "later"
  claimInTx consumer dropped
  Prog.perform StoreOp.drop
  claimInTx consumer later
  expect "commit" (← Prog.perform StoreOp.commit)
  assert (← isCommitted consumer later) "a committed claim must persist"
  assert (!(← isCommitted consumer dropped)) droppedMessage

/-- One pair of the next check. -/
def acceptsAndDeduplicates (consumer : ConsumerId) (id : MessageId) : StoreProg ε Unit := do
  assert ((← claimAndCommit consumer id) == .fresh) s!"a max-length id ({id.asStr.utf8ByteSize} bytes) must be accepted"
  assert ((← claimAndCommit consumer id) == .duplicate) "a max-length id must deduplicate"

/-- `max_length_ids_are_accepted`. -/
def maxLengthIdsAreAccepted (run : Run) : StoreProg ε Unit := do
  let room := 255 - run.start.utf8ByteSize
  let asciiConsumer ← expect "max consumer id" (StringNewtype.tryFrom (run.start ++ repeated 'x' room))
  let wideConsumer ← expect "max consumer id"
    (StringNewtype.tryFrom (run.start ++ repeated wideChar (room / 4) ++ repeated 'y' (room % 4)))
  let asciiId ← message (repeated 'm' 512)
  let wideId ← message (repeated wideChar (512 / 4))
  acceptsAndDeduplicates asciiConsumer asciiId
  acceptsAndDeduplicates wideConsumer wideId

/-- The ids of the next check. -/
def distinctIds : List String :=
  [repeated 'm' 511 ++ "a", repeated 'm' 511 ++ "b", "Order-1", "order-1", "caf\u00e9", "cafe"]

/-- What it panics with. Of a long id it shows the last 40 bytes. -/
def collisionMessage (id : String) : String :=
  let shown := if id.utf8ByteSize > 40 then String.ofList (id.toList.drop (id.length - 40)) else id
  "`" ++ shown ++ "` collided with an earlier, different id: ids must compare byte for " ++
    "byte (a truncating column or a case- or accent-insensitive collation " ++ "merges distinct messages)"

/-- Its loop. -/
def eachIsFresh (consumer : ConsumerId) : List String → StoreProg ε Unit
  | [] => return ()
  | id :: ids => do
    assert ((← claimAndCommit consumer (← message id)) == .fresh) (collisionMessage id)
    eachIsFresh consumer ids

/-- `ids_compare_byte_for_byte`. -/
def idsCompareByteForByte (run : Run) : StoreProg ε Unit := do
  let consumer ← run.consumer "bytes"
  eachIsFresh consumer distinctIds

/-- What the next check panics with. -/
def claimManyMessage : String :=
  "claim_many must answer like one claim per id, in input order, with repeats as duplicates"

/-- `claim_many_matches_single_claims`. -/
def claimManyMatchesSingleClaims (run : Run) : StoreProg ε Unit := do
  let consumer ← run.consumer "claim-many"
  let known ← message "b"
  assert ((← claimAndCommit consumer known) == .fresh) "assertion failed"
  let batch := [← message "c", ← message "b", ← message "a", ← message "c"]
  expect "begin" (← Prog.perform StoreOp.begin)
  let claims ← expect "claim_many"
    (← ((consumerOf consumer).claimMany batch : ConnProg ε Unit _).interp (onConn fun _ => .ret (.ok ())))
  expect "commit" (← Prog.perform StoreOp.commit)
  assert (claims == [.fresh, .duplicate, .fresh, .duplicate]) claimManyMessage
  assert (← isCommitted consumer (← message "a")) "claim_many's fresh claims must commit"
  assert (← isCommitted consumer (← message "c")) "claim_many's fresh claims must commit"

/-- `conformance`. -/
def conformance (boxed : InboxError ε → HandlerError ε) (run : Run) : StoreProg ε Unit := do
  freshThenDuplicate run
  handlerFailureRollsBack boxed run
  explicitRollbackDiscards run
  droppedTransactionDoesNotPersist run
  maxLengthIdsAreAccepted run
  idsCompareByteForByte run
  claimManyMatchesSingleClaims run

end Testing

/-! ## The store of `tests/it/conformance.rs` -/

/-- What is committed, what a dropped transaction left on the pooled connection, and the claims of the open transaction. -/
structure FakeStore where
  committed : Finset (String × String)
  leftover : Finset (String × String)
  pending : Option (Finset (String × String))

namespace FakeStore

variable {ε : Type} (fold : String → String) (leak : Bool)

/-- `FakeStore::key`. The store of the tests folds the case of an id or leaves it; here `fold` is any function. -/
def key (request : ClaimRequest) : String × String := (request.consumer.asStr, fold request.id.asStr)

/-- `claim`. A claim is made on an open transaction; one made without would commit alone. -/
def claim (request : ClaimRequest) (s : FakeStore) : Except (InboxError ε) Claim × FakeStore :=
  if key fold request ∈ s.committed ∨ key fold request ∈ s.pending.getD ∅ then (.ok .duplicate, s)
  else
    match s.pending with
    | some pending => (.ok .fresh, { s with pending := some (insert (key fold request) pending) })
    | none => (.ok .fresh, { s with committed := insert (key fold request) s.committed })

/-- The default `claim_many`. -/
def claimMany (consumer : ConsumerId) (lockTimeout : Option Duration) : List MessageId → FakeStore →
    Except (InboxError ε) (List Claim) × FakeStore
  | [], s => (.ok [], s)
  | id :: ids, s =>
    match claim fold { ClaimRequest.new consumer id with lockTimeout } s with
    | (.error e, s') => (.error e, s')
    | (.ok answer, s') =>
      let (r, s'') := claimMany consumer lockTimeout ids s'
      (r.map (answer :: ·), s'')

/-- The methods. With `leak` a dropped transaction stays open on its connection, and the next one inherits its claims. The store has
no savepoints. -/
def exec : (op : StoreOp) → FakeStore → StoreReply ε op × FakeStore
  | .begin, s => (.ok (), ⟨s.committed, ∅, some s.leftover⟩)
  | .commit, s => (.ok (), ⟨s.committed ∪ s.pending.getD ∅, s.leftover, none⟩)
  | .rollback, s => (.ok (), { s with pending := none })
  | .drop, s => ((), ⟨s.committed, if leak then s.leftover ∪ s.pending.getD ∅ else s.leftover, none⟩)
  | .claim request, s => claim fold request s
  | .claimMany batch, s => claimMany fold batch.consumer batch.lockTimeout batch.ids s
  | .savepoint, s => (.error (.backend (.text "no savepoints")), s)
  | .releaseAndSavepoint, s => (.error (.backend (.text "no savepoints")), s)
  | .release, s => (.error (.backend (.text "no savepoints")), s)
  | .rollbackTo, s => (.error (.backend (.text "no savepoints")), s)
  | .unclaim _ _, s => (.error (.backend (.text "no savepoints")), s)

end FakeStore

end Txbox
