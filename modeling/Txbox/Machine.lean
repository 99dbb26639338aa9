import Txbox.Consumer
import Txbox.Lib.Nested
import Txbox.Lib.System

/-!
# Workers on one database

Any number of workers run `process`, `process_many` or a `claim_many` of their own against one inbox table, one call at a time and
in any order. A claim of several keys takes them one by one, in the order of the batch; it waits for a key that another open
transaction has locked, and locks are held to the end of the transaction. Every call may fail, every future may be dropped at every
await point, and committed rows may be purged.

The history of what was committed and purged is a ghost: no step reads it.
-/

namespace Txbox

open Lib

/-! ## Transactions -/

/-- A row of the inbox table: its key, its `processed_at`, and the instants at which the claim statement started and at which it inserted
the row. -/
structure Row where
  key : Key
  processedAt : Int
  statementAt : Int
  claimedAt : Int
  deriving DecidableEq

/-- What a transaction has done so far: the rows it inserted, the committed rows it deleted, and the handler executions whose
effects it holds, each with whether the handler returned `Ok`. -/
structure Work where
  inserted : List Row
  deleted : List Key
  effects : List (Key × Bool)
  deriving DecidableEq

namespace Work

/-- Nothing done yet. -/
def empty : Work := ⟨[], [], []⟩

/-- The keys of the rows inserted. -/
def keys (work : Work) : List Key := work.inserted.map Row.key

/-- Insert a row. -/
def insert (row : Row) (work : Work) : Work := { work with inserted := work.inserted ++ [row] }

/-- `DELETE ... WHERE consumer_id = ? AND message_id = ?`: a row of this transaction, or a committed one. -/
def delete (key : Key) (work : Work) : Work :=
  if key ∈ work.keys then { work with inserted := work.inserted.filter (fun row => row.key ≠ key) }
  else { work with deleted := key :: work.deleted }

/-- The effects of a handler execution. -/
def apply (key : Key) (ok : Bool) (work : Work) : Work := { work with effects := work.effects ++ [(key, ok)] }

end Work

/-- An open transaction: the clock and the length of the history when it began, its work under its savepoints, the keys it has
locked, and the keys it was told are recorded already. After a failed call `failed` is set, and what a commit of the transaction
then does is not assumed. -/
structure Tx where
  started : Int
  mark : Nat
  work : Nested Work
  locks : List Key
  seen : List Key
  failed : Bool

/-- A transaction that has just begun. -/
def Tx.begin (now : Int) (mark : Nat) : Tx := ⟨now, mark, Nested.start Work.empty, [], [], false⟩

/-- The rows a transaction holds, those its savepoints would bring back included. -/
def Tx.rows (tx : Tx) : List Row := (tx.work.cur :: tx.work.saves).flatMap Work.inserted

/-! ## Jobs -/

/-- How a caller of `claim_many` ends its transaction. -/
inductive Ending where
  | commit
  | rollback
  | drop
  deriving DecidableEq, Repr

/-- What a worker does with one or several messages. -/
inductive Job where
  | process (self : Consumer) (id : MessageId)
  | processMany (self : Consumer) (ids : List MessageId)
  | claimMany (self : Consumer) (ids : List MessageId) (ending : Ending)
  deriving DecidableEq

/-- What a job returned. -/
inductive Answer (ε T : Type) where
  | one (r : Except (InboxError ε) (Outcome T))
  | many (r : Except (InboxError ε) (List (ProcessResult ε T)))
  | claims (r : Except (InboxError ε) (List Claim))

variable {ε T W : Type}

/-- Change the result of a function. -/
def Routine.map {α β : Type} (f : α → β) : Routine ε T α → Routine ε T β
  | .ret a => .ret (f a)
  | .begin k body => .begin (f ∘ k) (body.bind fun fin => .ret (fin.map f))

/-- The end of a transaction in which a caller took claims. -/
def Ending.finish (claims : List Claim) : Ending → Finish ε (Answer ε T)
  | .commit => .commit fun r => .claims (r.map fun _ => claims)
  | .rollback => .rollback fun r => .claims (r.map fun _ => claims)
  | .drop => .drop (.claims (.ok claims))

namespace Job

/-- The consumer a job works for. -/
def consumer : Job → ConsumerId
  | process self _ => self.id
  | processMany self _ => self.id
  | claimMany self _ _ => self.id

/-- The function a job runs. -/
def routine : Job → Routine ε T (Answer ε T)
  | process self id => (self.process id).map .one
  | processMany self ids => (self.processMany ids).map .many
  | claimMany self ids ending =>
    .begin (fun e => .claims (.error e)) ((self.claimMany ids).bind fun
      | .error e => .ret (.drop (.claims (.error e)))
      | .ok claims => .ret (ending.finish claims))

/-- The job runs a handler for what it claims. -/
def Runs : Job → Prop
  | process _ _ => True
  | processMany _ _ => True
  | claimMany _ _ _ => False

/-- The messages a job reports as `Processed` or `Duplicate`. -/
def settled : Job → Answer ε T → List MessageId
  | process _ id, .one (.ok _) => [id]
  | processMany _ ids, .many (.ok results) => ((ids.zip results).filter (fun p => p.2.isOk)).map Prod.fst
  | _, _ => []

end Job

/-! ## States -/

/-- What is left open about the database and the workers: the `processed_at` of a row claimed by a statement of a transaction, given
the clock at the start of the two; whether a claim keeps a lock on a key that was recorded already; which rows a purge may delete,
given the clock of its statement and their `processed_at`; and which jobs the workers take. -/
structure Config where
  stamp : (started statement : Int) → Int
  locksKnown : Bool
  mayPurge : (now processedAt : Int) → Prop
  jobs : Job → Prop

/-- The function a worker is in, and how far. While a claim is `claiming`, `todo` are the ids it has yet to take, in order. A
transaction that was dropped is `closing` until its rollback is through; the caller has its answer, if there is one, already. -/
inductive Phase (ε T : Type) where
  | idle
  | opening (job : Job)
  | running (job : Job) (tx : Tx) (prog : ConnProg ε T (Finish ε (Answer ε T)))
  | claiming (job : Job) (tx : Tx) (statement : Int) (consumer : ConsumerId) (todo : List MessageId) (claims : List Claim)
      (resume : Except (InboxError ε) (List Claim) → ConnProg ε T (Finish ε (Answer ε T)))
  | closing (job : Job) (tx : Tx) (answer : Option (Answer ε T))
  | returned (job : Job) (mark : Nat) (answer : Answer ε T)

namespace Phase

/-- The open transaction. -/
def tx : Phase ε T → Option Tx
  | running _ tx _ => some tx
  | claiming _ tx _ _ _ _ _ => some tx
  | closing _ tx _ => some tx
  | _ => none

/-- The keys the open transaction has locked. -/
def locks (p : Phase ε T) : List Key := (p.tx.map Tx.locks).getD []

/-- The rows the open transaction holds. -/
def rows (p : Phase ε T) : List Row := (p.tx.map Tx.rows).getD []

/-- The key the next step has to lock: the next of a claim, or the one of an `unclaim`. -/
def wants : Phase ε T → Option Key
  | claiming _ _ _ consumer (id :: _) _ _ => some (consumer, id)
  | running _ _ (.call (.unclaim consumer id) _) => some (consumer, id)
  | _ => none

/-- The keys the open transaction was told are recorded. -/
def seen (p : Phase ε T) : List Key := (p.tx.map Tx.seen).getD []

/-- The job whose answer the caller has, and the answer. -/
def answer : Phase ε T → Option (Job × Answer ε T)
  | closing job _ (some a) => some (job, a)
  | returned job _ a => some (job, a)
  | _ => none

/-- The length of the history when the transaction of the job began. -/
def mark : Phase ε T → Nat
  | running _ tx _ => tx.mark
  | claiming _ tx _ _ _ _ _ => tx.mark
  | closing _ tx _ => tx.mark
  | returned _ mark _ => mark
  | _ => 0

/-- The worker is between two jobs. -/
def Resting : Phase ε T → Prop
  | idle => True
  | returned _ _ _ => True
  | _ => False

end Phase

/-- What happened to the committed rows and effects. -/
inductive Event where
  | committed (work : Work)
  | purged (keys : List Key)

/-- The committed rows with their `processed_at`, the history (newest first), the clock of the database, and the workers. -/
structure State (ε T W : Type) where
  rows : Key → Option Int
  history : List Event
  now : Int
  phase : W → Phase ε T

namespace State

/-- A commit of a transaction's work. -/
def publish (s : State ε T W) (work : Work) : State ε T W :=
  { s with
    rows := fun key =>
      match work.inserted.find? (fun row => row.key = key) with
      | some row => some row.processedAt
      | none => if key ∈ work.deleted then none else s.rows key
    history := .committed work :: s.history }

/-- A purge of committed rows. -/
def purge (s : State ε T W) (keys : List Key) : State ε T W :=
  { s with
    rows := fun key => if key ∈ keys then none else s.rows key
    history := .purged keys :: s.history }

/-- One worker goes on. -/
def set [DecidableEq W] (s : State ε T W) (w : W) (p : Phase ε T) : State ε T W :=
  { s with phase := Function.update s.phase w p }

/-- No other worker's transaction has locked the key. -/
def Free (s : State ε T W) (w : W) (key : Key) : Prop := ∀ w', w' ≠ w → key ∉ (s.phase w').locks

/-- The row is committed, or was committed at some moment since the history had length `mark` and was purged afterwards: a purge
deletes only committed rows. -/
def Known (s : State ε T W) (mark : Nat) (key : Key) : Prop :=
  (s.rows key).isSome ∨
    ∃ newer keys older, s.history = newer ++ .purged keys :: older ∧ key ∈ keys ∧ mark ≤ older.length

/-- An empty inbox, and no worker doing anything. -/
def Initial (s : State ε T W) : Prop := s.rows = (fun _ => none) ∧ s.history = [] ∧ s.phase = fun _ => .idle

end State

/-! ## Steps -/

/-- A claim takes one key: a row the transaction inserted itself, or a committed row it did not delete, is a duplicate; any other key
is inserted. -/
def Tx.take (cfg : Config) (rows : Key → Option Int) (now statement : Int) (tx : Tx) (key : Key) : Claim × Tx :=
  if key ∈ tx.work.cur.keys then (.duplicate, tx)
  else if (rows key).isSome ∧ key ∉ tx.work.cur.deleted then
    (.duplicate, { tx with seen := key :: tx.seen, locks := if cfg.locksKnown then key :: tx.locks else tx.locks })
  else
    (.fresh, { tx with work := tx.work.modify (Work.insert ⟨key, cfg.stamp tx.started statement, statement, now⟩),
                       locks := key :: tx.locks })

/-- What the other calls on the connection do to the transaction when they do not fail. The handler may return anything. -/
inductive Tx.Answers (consumer : ConsumerId) (tx : Tx) : (c : Call) → Reply ε T c → Tx → Prop
  | savepoint : Answers consumer tx .savepoint (.ok ()) { tx with work := tx.work.savepoint }
  | releaseAndSavepoint {work : Nested Work} (h : tx.work.release = some work) :
      Answers consumer tx .releaseAndSavepoint (.ok ()) { tx with work := work.savepoint }
  | release {work : Nested Work} (h : tx.work.release = some work) :
      Answers consumer tx .release (.ok ()) { tx with work }
  | rollbackTo {work : Nested Work} (h : tx.work.rollbackTo = some work) :
      Answers consumer tx .rollbackTo (.ok ()) { tx with work }
  | unclaim {c : ConsumerId} {id : MessageId} :
      Answers consumer tx (.unclaim c id) (.ok ())
        { tx with work := tx.work.modify (Work.delete (c, id)), locks := (c, id) :: tx.locks }
  | handlerOk {id : MessageId} (value : T) :
      Answers consumer tx (.handler id) (.ok value) { tx with work := tx.work.modify (Work.apply (consumer, id) true) }
  | handlerErr {id : MessageId} (e : HandlerError ε) :
      Answers consumer tx (.handler id) (.error e) { tx with work := tx.work.modify (Work.apply (consumer, id) false) }

/-- The reply of a call that fails. A handler's error is its own and no failure. -/
def Call.fail (e : InboxError ε) : (c : Call) → Option (Reply ε T c)
  | .claim _ => some (.error e)
  | .claimMany _ => some (.error e)
  | .savepoint => some (.error e)
  | .releaseAndSavepoint => some (.error e)
  | .release => some (.error e)
  | .rollbackTo => some (.error e)
  | .unclaim _ _ => some (.error e)
  | .handler _ => none

section Steps

variable [DecidableEq W] (cfg : Config) (s : State ε T W)

/-- A step of a worker in which nothing fails. -/
inductive Advance (w : W) : State ε T W → Prop
  | skip {job : Job} {a : Answer ε T} (h : s.phase w = .opening job) (hr : job.routine = .ret a) :
      Advance w (s.set w (.returned job s.history.length a))
  | begin {job : Job} {k : InboxError ε → Answer ε T} {body : ConnProg ε T (Finish ε (Answer ε T))}
      (h : s.phase w = .opening job) (hr : job.routine = .begin k body) :
      Advance w (s.set w (.running job (Tx.begin s.now s.history.length) body))
  | call {job : Job} {tx tx' : Tx} {c : Call} {k : Reply ε T c → ConnProg ε T (Finish ε (Answer ε T))} {r : Reply ε T c}
      (h : s.phase w = .running job tx (.call c k)) (hfree : ∀ key, (s.phase w).wants = some key → s.Free w key)
      (hr : Tx.Answers job.consumer tx c r tx') :
      Advance w (s.set w (.running job tx' (k r)))
  | claim {job : Job} {tx : Tx} {request : ClaimRequest}
      {k : Reply ε T (.claim request) → ConnProg ε T (Finish ε (Answer ε T))}
      (h : s.phase w = .running job tx (.call (.claim request) k)) :
      Advance w (s.set w (.claiming job tx s.now request.consumer [request.id] []
        fun r => k (r.map fun claims => claims.headD .duplicate)))
  | claimMany {job : Job} {tx : Tx} {batch : ClaimBatch}
      {k : Reply ε T (.claimMany batch) → ConnProg ε T (Finish ε (Answer ε T))}
      (h : s.phase w = .running job tx (.call (.claimMany batch) k)) :
      Advance w (s.set w (.claiming job tx s.now batch.consumer batch.ids [] k))
  | take {job : Job} {tx : Tx} {statement : Int} {consumer : ConsumerId} {id : MessageId} {todo : List MessageId}
      {claims : List Claim} {resume : Except (InboxError ε) (List Claim) → ConnProg ε T (Finish ε (Answer ε T))}
      (h : s.phase w = .claiming job tx statement consumer (id :: todo) claims resume) (hfree : s.Free w (consumer, id)) :
      Advance w (s.set w (.claiming job (tx.take cfg s.rows s.now statement (consumer, id)).2 statement consumer todo
        (claims ++ [(tx.take cfg s.rows s.now statement (consumer, id)).1]) resume))
  | claimed {job : Job} {tx : Tx} {statement : Int} {consumer : ConsumerId} {claims : List Claim}
      {resume : Except (InboxError ε) (List Claim) → ConnProg ε T (Finish ε (Answer ε T))}
      (h : s.phase w = .claiming job tx statement consumer [] claims resume) :
      Advance w (s.set w (.running job tx (resume (.ok claims))))
  | drop {job : Job} {tx : Tx} {a : Answer ε T} (h : s.phase w = .running job tx (.ret (.drop a))) :
      Advance w (s.set w (.closing job tx (some a)))
  | rollback {job : Job} {tx : Tx} {k : Except (InboxError ε) Unit → Answer ε T}
      (h : s.phase w = .running job tx (.ret (.rollback k))) :
      Advance w (s.set w (.returned job tx.mark (k (.ok ()))))
  | commit {job : Job} {tx : Tx} {k : Except (InboxError ε) Unit → Answer ε T}
      (h : s.phase w = .running job tx (.ret (.commit k))) (hlive : tx.failed = false) :
      Advance w ((s.publish tx.work.cur).set w (.returned job tx.mark (k (.ok ()))))
  | closed {job : Job} {tx : Tx} {a : Answer ε T} (h : s.phase w = .closing job tx (some a)) :
      Advance w (s.set w (.returned job tx.mark a))
  | abandoned {job : Job} {tx : Tx} (h : s.phase w = .closing job tx none) : Advance w (s.set w .idle)

/-- A step in which a call of a worker fails, or its future is dropped, or the worker dies. A commit that fails or is dropped may have
landed; one that succeeds on a failed transaction may not have. -/
inductive Fault (w : W) : State ε T W → Prop
  | beginFails {job : Job} {k : InboxError ε → Answer ε T} {body : ConnProg ε T (Finish ε (Answer ε T))} (e : InboxError ε)
      (h : s.phase w = .opening job) (hr : job.routine = .begin k body) :
      Fault w (s.set w (.returned job s.history.length (k e)))
  | callFails {job : Job} {tx : Tx} {c : Call} {k : Reply ε T c → ConnProg ε T (Finish ε (Answer ε T))} {r : Reply ε T c}
      (e : InboxError ε) (h : s.phase w = .running job tx (.call c k)) (hr : c.fail e = some r) :
      Fault w (s.set w (.running job { tx with failed := true } (k r)))
  | claimFails {job : Job} {tx : Tx} {statement : Int} {consumer : ConsumerId} {todo : List MessageId} {claims : List Claim}
      {resume : Except (InboxError ε) (List Claim) → ConnProg ε T (Finish ε (Answer ε T))} (e : InboxError ε)
      (h : s.phase w = .claiming job tx statement consumer todo claims resume) :
      Fault w (s.set w (.running job { tx with failed := true } (resume (.error e))))
  | rollbackFails {job : Job} {tx : Tx} {k : Except (InboxError ε) Unit → Answer ε T} (e : InboxError ε)
      (h : s.phase w = .running job tx (.ret (.rollback k))) :
      Fault w (s.set w (.closing job tx (some (k (.error e)))))
  | commitFails {job : Job} {tx : Tx} {k : Except (InboxError ε) Unit → Answer ε T} (e : InboxError ε)
      (h : s.phase w = .running job tx (.ret (.commit k))) :
      Fault w (s.set w (.closing job tx (some (k (.error e)))))
  | commitLands {job : Job} {tx : Tx} {k : Except (InboxError ε) Unit → Answer ε T} (e : InboxError ε)
      (h : s.phase w = .running job tx (.ret (.commit k))) :
      Fault w ((s.publish tx.work.cur).set w (.returned job tx.mark (k (.error e))))
  | commitLost {job : Job} {tx : Tx} {k : Except (InboxError ε) Unit → Answer ε T}
      (h : s.phase w = .running job tx (.ret (.commit k))) (hfailed : tx.failed = true) :
      Fault w (s.set w (.closing job tx (some (k (.ok ())))))
  | dropOpening {job : Job} (h : s.phase w = .opening job) : Fault w (s.set w .idle)
  | dropRunning {job : Job} {tx : Tx} {prog : ConnProg ε T (Finish ε (Answer ε T))} (h : s.phase w = .running job tx prog) :
      Fault w (s.set w (.closing job tx none))
  | dropClaiming {job : Job} {tx : Tx} {statement : Int} {consumer : ConsumerId} {todo : List MessageId} {claims : List Claim}
      {resume : Except (InboxError ε) (List Claim) → ConnProg ε T (Finish ε (Answer ε T))}
      (h : s.phase w = .claiming job tx statement consumer todo claims resume) :
      Fault w (s.set w (.closing job tx none))
  | dropCommit {job : Job} {tx : Tx} {k : Except (InboxError ε) Unit → Answer ε T}
      (h : s.phase w = .running job tx (.ret (.commit k))) :
      Fault w ((s.publish tx.work.cur).set w .idle)

/-- A step of anything but a worker in a job: a worker is given one, the clock goes on, or a purge statement that read the clock at
`clock` deletes rows. -/
inductive Environment : State ε T W → Prop
  | start {w : W} {job : Job} (h : (s.phase w).Resting) (hj : cfg.jobs job) : Environment (s.set w (.opening job))
  | tick {now : Int} (h : s.now ≤ now) : Environment { s with now }
  | purge {keys : List Key} {clock : Int} (hclock : clock ≤ s.now)
      (h : ∀ key ∈ keys, ∃ processedAt, s.rows key = some processedAt ∧ cfg.mayPurge clock processedAt) :
      Environment (s.purge keys)

end Steps

/-- The workers and the database. -/
def machine [DecidableEq W] (cfg : Config) : System (State ε T W) where
  init := State.Initial
  step s s' := (∃ w, Advance cfg s w s') ∨ (∃ w, Fault s w s') ∨ Environment cfg s s'

end Txbox
