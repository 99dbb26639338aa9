import Txbox.Lemmas.ClaimMany
import Txbox.Lib.Traces

/-!
# The savepoint of a batch

`process_many` once its claims are taken, on a store whose calls do not fail: the one savepoint is open exactly while a handler runs
and its failure is cleaned up, a new one is opened only when the message before it is done with, and none is left when the batch is
committed. The claims are any vector of answers, whatever a database would give.

The counter of the loop is not visible in its calls. So the loop is written a second time with a mark at the head of every
iteration, and without the marks it is the loop.
-/

namespace Txbox

open Lib

/-! ## Calls and their replies -/

/-- The calls made on the connection so far, with their replies. -/
abbrev Calls (ε T : Type) : Type := List ((c : Call) × Reply ε T c)

/-- No store call failed. A handler may return what it likes. -/
def Call.Succeeded {ε T : Type} : (c : Call) → Reply ε T c → Prop
  | .claim _, r => r.isOk
  | .claimMany _, r => r.isOk
  | .savepoint, r => r.isOk
  | .releaseAndSavepoint, r => r.isOk
  | .release, r => r.isOk
  | .rollbackTo, r => r.isOk
  | .unclaim _ _, r => r.isOk
  | .handler _, _ => True

/-- The call opens, releases or rolls back to the savepoint. -/
def Call.IsSavepoint : Call → Prop
  | .savepoint => True
  | .releaseAndSavepoint => True
  | .release => True
  | .rollbackTo => True
  | _ => False

/-- The number of open savepoints after a call. -/
def Call.savepointsAfter (count : Nat) : Call → Nat
  | .savepoint => count + 1
  | .releaseAndSavepoint => count - 1 + 1
  | .release => count - 1
  | _ => count

namespace Calls

variable {ε T : Type}

/-- The number of savepoints that are open after some calls. -/
def openSavepoints (calls : Calls ε T) : Nat := calls.foldl (fun count e => e.1.savepointsAfter count) 0

/-- The last calls are those of one message that is done with: its handler succeeded, or it failed, its writes were rolled back and
its claim was deleted. -/
def EndsMessage (consumer : ConsumerId) (calls : Calls ε T) : Prop :=
  ∃ before id, (∃ value, calls = before ++ [⟨.handler id, .ok value⟩]) ∨
    ∃ e, calls = before ++ [⟨.handler id, .error e⟩, ⟨.rollbackTo, .ok ()⟩, ⟨.unclaim consumer id, .ok ()⟩]

/-- The last call opened the savepoint: nothing was called since the claims were taken, or the message before was done with. -/
def JustOpened (consumer : ConsumerId) (calls : Calls ε T) : Prop :=
  calls = [⟨.savepoint, .ok ()⟩] ∨ ∃ before, EndsMessage consumer before ∧ calls = before ++ [⟨.releaseAndSavepoint, .ok ()⟩]

end Calls

/-- The call may be made after the calls so far, in a batch with these claims. -/
def MayCall {ε T : Type} (consumer : ConsumerId) (pairs : List (MessageId × Claim)) (calls : Calls ε T) : Call → Prop
  | .claim _ => False
  | .claimMany _ => False
  | .savepoint => calls = [] ∧ ∃ id, (id, .fresh) ∈ pairs
  | .handler id => calls.openSavepoints = 1 ∧ calls.JustOpened consumer ∧ (id, .fresh) ∈ pairs
  | .rollbackTo => calls.openSavepoints = 1
  | .unclaim c id => c = consumer ∧ (id, .fresh) ∈ pairs ∧
      ∃ before e, calls = before ++ [⟨.handler id, .error e⟩, ⟨.rollbackTo, .ok ()⟩]
  | .releaseAndSavepoint => calls.openSavepoints = 1
  | .release => calls.openSavepoints = 1

/-! ## The counter -/

/-- A call on the connection, or the head of an iteration with what is left to do and the counter. -/
inductive LoopOp where
  | head (todo : List (MessageId × Claim)) (pending : Nat)
  | call (c : Call)

/-- What they are answered with. -/
@[reducible] def LoopReply (ε T : Type) : LoopOp → Type
  | .head _ _ => Unit
  | .call c => Reply ε T c

/-- A function that works on a connection, with marks. -/
abbrev MarkedProg (ε T α : Type) : Type := Prog LoopOp (LoopReply ε T) α

/-- A function without marks. -/
def unmarked {ε T α : Type} (p : ConnProg ε T α) : MarkedProg ε T α := p.interp fun c => Prog.perform (LoopOp.call c)

/-- Leave the marks out. -/
def LoopOp.erase {ε T : Type} : (op : LoopOp) → ConnProg ε T (LoopReply ε T op)
  | .head _ _ => .ret ()
  | .call c => Prog.perform c

/-- The counter at the head of an iteration is the number of fresh claims left to handle, a suffix of the batch. -/
def LoopOp.Counts (pairs : List (MessageId × Claim)) : LoopOp → Prop
  | .head todo pending => pending = (todo.map Prod.snd).count .fresh ∧ todo <:+ pairs
  | .call _ => True

namespace Consumer

variable {ε T : Type}

/-- `processLoop` with its marks. -/
def markedLoop (self : Consumer) : List (MessageId × Claim) → (pending : Nat) → (results : List (ProcessResult ε T)) →
    (failed : List MessageId) → MarkedProg ε T (Finish ε (Except (InboxError ε) (List (ProcessResult ε T))))
  | [], pending, results, _ => do
    let _ ← Prog.perform (LoopOp.head [] pending)
    return .commit (fun r => r.map fun _ => results)
  | (id, .duplicate) :: rest, pending, results, failed => do
    let _ ← Prog.perform (LoopOp.head ((id, .duplicate) :: rest) pending)
    if failed.contains id then self.markedLoop rest pending (results ++ [.error (repeatError id)]) failed
    else self.markedLoop rest pending (results ++ [.ok .duplicate]) failed
  | (id, .fresh) :: rest, 0, _, _ => do
    let _ ← Prog.perform (LoopOp.head ((id, .fresh) :: rest) 0)
    .panic "attempt to subtract with overflow"
  | (id, .fresh) :: rest, pending + 1, results, failed => do
    let _ ← Prog.perform (LoopOp.head ((id, .fresh) :: rest) (pending + 1))
    match ← unmarked (self.handleFresh id) with
    | .error e => return .drop (.error e)
    | .ok result =>
      match ← unmarked (nextSavepoint pending) with
      | .error e => return .drop (.error e)
      | .ok () => self.markedLoop rest pending (results ++ [result]) (noteFailure id result failed)

/-- `processClaimed` with the marks of its loop. -/
def markedClaimed (self : Consumer) (ids : List MessageId) (claims : List Claim) :
    MarkedProg ε T (Finish ε (Except (InboxError ε) (List (ProcessResult ε T)))) := do
  let pending := claims.count .fresh
  if pending > 0 then
    match ← unmarked Store.savepoint with
    | .error e => return .drop (.error e)
    | .ok () => self.markedLoop (ids.zip claims) pending [] []
  else self.markedLoop (ids.zip claims) pending [] []

end Consumer

/-! ## The discipline -/

/-- No store call of a run failed. -/
def Calls.Succeeded {ε T : Type} (calls : Calls ε T) : Prop := ∀ e ∈ calls, e.1.Succeeded e.2

/-- `process_many` from its claims on, whatever the claims are, at every point of every run in which no store call failed so far. -/
structure SavepointDiscipline (ε T : Type) (consumer : Consumer) (ids : List MessageId) (claims : List Claim) : Prop where
  /-- The loop with its marks is the loop. -/
  marks : (consumer.markedClaimed ids claims).interp LoopOp.erase = (consumer.processClaimed ids claims : ConnProg ε T _)
  /-- At every iteration the counter is the number of fresh claims left. -/
  counter : Prog.Only (LoopOp.Counts (ids.zip claims)) (consumer.markedClaimed ids claims : MarkedProg ε T _)
  /-- The counter does not underflow. -/
  noUnderflow : ∀ (calls : Calls ε T) message, calls.Succeeded →
    ¬ Prog.Becomes (consumer.processClaimed ids claims) calls (.panic message)
  /-- Every call is made where it may be. -/
  allowed : ∀ (calls : Calls ε T) c k, calls.Succeeded → Prog.Becomes (consumer.processClaimed ids claims) calls (.call c k) →
    MayCall consumer.id (ids.zip claims) calls c
  /-- The batch ends by committing, and then no savepoint is open. -/
  committed : ∀ (calls : Calls ε T) finish, calls.Succeeded →
    Prog.Becomes (consumer.processClaimed ids claims) calls (.ret finish) → (∃ k, finish = .commit k) ∧ calls.openSavepoints = 0
  /-- Without a fresh claim there is no savepoint operation, whatever the replies. -/
  unused : .fresh ∉ claims → Prog.Only (fun c => ¬ c.IsSavepoint) (consumer.processClaimed ids claims : ConnProg ε T _)

/-- The call takes the claims of a batch. -/
def Call.IsClaimMany : Call → Prop
  | .claimMany _ => True
  | _ => False

/-- The claims are not taken: `claim_many` is all that was called or is called next, and an end here is an error that drops the
transaction. -/
def BeforeClaims {ε T α : Type} (calls : Calls ε T) (rest : ConnProg ε T (Finish ε (Except (InboxError ε) α))) : Prop :=
  (∀ e ∈ calls, e.1.IsClaimMany) ∧ (∀ c k, rest = .call c k → c.IsClaimMany) ∧
    ∀ finish, rest = .ret finish → ∃ e, finish = .drop (.error e)

namespace SavepointsAux

variable {ε T : Type} {self : Consumer} {pairs : List (MessageId × Claim)} {calls : Calls ε T}

/-! ## The calls -/

/-- The number of open savepoints after one more call. -/
@[simp] theorem openSavepoints_append (calls : Calls ε T) (e : (c : Call) × Reply ε T c) :
    Calls.openSavepoints (calls ++ [e]) = e.1.savepointsAfter calls.openSavepoints := by
  simp [Calls.openSavepoints]

/-- A reply that is no failure is `Ok`. -/
theorem exists_of_isOk {E α : Type} {r : Except E α} (h : r.isOk = true) : ∃ a, r = .ok a := by
  cases r with
  | error e => cases h
  | ok a => exact ⟨a, rfl⟩

/-- The contract of the calls of a batch. -/
abbrev batchContract (ε T : Type) (self : Consumer) (pairs : List (MessageId × Claim)) :
    Prog.Contract Call (Reply ε T) (Calls ε T) :=
  Prog.history Call.Succeeded (MayCall self.id pairs)

/-- Where the loop stands at the head of an iteration: with fresh messages to come the savepoint was just opened, and without any
none is open. -/
def Ready (consumer : ConsumerId) (pending : Nat) (calls : Calls ε T) : Prop :=
  if pending > 0 then calls.openSavepoints = 1 ∧ calls.JustOpened consumer else calls.openSavepoints = 0

/-- One fresh message: its handler is called in the savepoint, and afterwards it is done with and the savepoint is still open. -/
theorem wp_handleFresh {id : MessageId} {Q : Except (InboxError ε) (ProcessResult ε T) → Calls ε T → Prop}
    (hopen : calls.openSavepoints = 1) (hjust : calls.JustOpened self.id) (hmem : (id, .fresh) ∈ pairs)
    (hQ : ∀ result calls', Calls.openSavepoints calls' = 1 → Calls.EndsMessage self.id calls' → Q (.ok result) calls') :
    Prog.wp (batchContract ε T self pairs) Q (self.handleFresh id) calls := by
  refine Prog.wp_history_call ⟨hopen, hjust, hmem⟩ ?_
  intro r _
  cases r with
  | ok value =>
    refine hQ _ _ ?_ ⟨calls, id, Or.inl ⟨value, rfl⟩⟩
    simpa [Call.savepointsAfter] using hopen
  | error e =>
    have hfailed : Calls.openSavepoints (calls ++ [⟨.handler id, .error e⟩]) = 1 := by
      simpa [Call.savepointsAfter] using hopen
    refine Prog.wp_history_call hfailed ?_
    intro r hr
    obtain ⟨u, rfl⟩ := exists_of_isOk hr
    refine Prog.wp_history_call ⟨rfl, hmem, calls, e, by simp⟩ ?_
    intro r hr
    obtain ⟨u, rfl⟩ := exists_of_isOk hr
    refine hQ _ _ ?_ ⟨calls, id, Or.inr ⟨e, by simp⟩⟩
    rw [openSavepoints_append, openSavepoints_append]
    exact hfailed

/-- What follows a fresh message makes the loop ready for the next. -/
theorem wp_nextSavepoint {pending : Nat} {Q : Except (InboxError ε) Unit → Calls ε T → Prop}
    (hopen : calls.openSavepoints = 1) (hends : calls.EndsMessage self.id)
    (hQ : ∀ calls', Ready self.id pending calls' → Q (.ok ()) calls') :
    Prog.wp (batchContract ε T self pairs) Q (Consumer.nextSavepoint pending) calls := by
  unfold Consumer.nextSavepoint
  by_cases hpending : pending > 0
  · rw [if_pos hpending]
    refine Prog.wp_history_perform hopen ?_
    intro r hr
    obtain ⟨u, rfl⟩ := exists_of_isOk hr
    refine hQ _ ?_
    rw [Ready, if_pos hpending]
    refine ⟨?_, Or.inr ⟨calls, hends, rfl⟩⟩
    simp [Call.savepointsAfter, hopen]
  · rw [if_neg hpending]
    refine Prog.wp_history_perform hopen ?_
    intro r hr
    obtain ⟨u, rfl⟩ := exists_of_isOk hr
    refine hQ _ ?_
    rw [Ready, if_neg hpending]
    simp [Call.savepointsAfter, hopen]

/-- The batch ends by committing, with no savepoint open. -/
def Committed (finish : Finish ε (Except (InboxError ε) (List (ProcessResult ε T)))) (calls : Calls ε T) : Prop :=
  (∃ k, finish = .commit k) ∧ calls.openSavepoints = 0

/-- The loop from the head of any iteration: it is ready there, and the counter is the number of fresh claims left. -/
theorem wp_processLoop {todo : List (MessageId × Claim)} {pending : Nat} {results : List (ProcessResult ε T)}
    {failed : List MessageId} (hready : Ready self.id pending calls) (hpending : pending = (todo.map Prod.snd).count .fresh)
    (hpairs : ∀ p ∈ todo, p ∈ pairs) :
    Prog.wp (batchContract ε T self pairs) Committed (self.processLoop todo pending results failed) calls := by
  induction todo generalizing pending results failed calls with
  | nil =>
    subst hpending
    exact ⟨⟨_, rfl⟩, hready⟩
  | cons p rest ih =>
    obtain ⟨id, claim⟩ := p
    have hrest : ∀ p ∈ rest, p ∈ pairs := fun p hp => hpairs p (List.mem_cons_of_mem _ hp)
    cases claim with
    | duplicate =>
      have hcount : pending = (rest.map Prod.snd).count .fresh := by simpa using hpending
      unfold Consumer.processLoop
      split
      · exact ih hready hcount hrest
      · exact ih hready hcount hrest
    | fresh =>
      obtain ⟨left, rfl⟩ : ∃ left, pending = left + 1 := ⟨_, by simpa using hpending⟩
      have hcount : left = (rest.map Prod.snd).count .fresh := by simpa using hpending
      rw [Ready, if_pos (Nat.succ_pos left)] at hready
      -- the handler runs in the savepoint, then the savepoint is released or opened again: the loop is ready for the rest
      refine Prog.wp_bind (wp_handleFresh hready.1 hready.2 (hpairs _ List.mem_cons_self) ?_)
      intro result calls' hopen hends
      refine Prog.wp_bind (wp_nextSavepoint hopen hends ?_)
      intro calls'' hready'
      exact ih hready' hcount hrest

/-- The fresh claims of a batch, counted in the claims or with their ids. -/
theorem count_fresh_zip {ids : List MessageId} {claims : List Claim} (hlength : claims.length = ids.length) :
    claims.count .fresh = ((ids.zip claims).map Prod.snd).count .fresh := by
  rw [List.map_snd_zip (by omega)]

/-- A batch with any claims, from the first savepoint on. -/
theorem wp_processClaimed {ids : List MessageId} {claims : List Claim} (hlength : claims.length = ids.length) :
    Prog.wp (batchContract ε T self (ids.zip claims)) Committed (self.processClaimed ids claims) [] := by
  have hcount := count_fresh_zip hlength
  unfold Consumer.processClaimed
  by_cases hpending : claims.count .fresh > 0
  · have hfresh : ∃ id, (id, Claim.fresh) ∈ ids.zip claims := by
      rw [hcount] at hpending
      obtain ⟨p, hp, hsnd⟩ := List.mem_map.1 (List.count_pos_iff.1 hpending)
      exact ⟨p.1, by rw [← hsnd]; exact hp⟩
    simp only [if_pos hpending]
    refine Prog.wp_history_call ⟨rfl, hfresh⟩ ?_
    intro r hr
    obtain ⟨u, rfl⟩ := exists_of_isOk hr
    refine wp_processLoop ?_ hcount (fun p hp => hp)
    rw [Ready, if_pos hpending]
    exact ⟨rfl, Or.inl rfl⟩
  · simp only [if_neg hpending]
    refine wp_processLoop ?_ hcount (fun p hp => hp)
    rw [Ready, if_neg hpending]
    rfl

/-! ## The marks -/

/-- A function followed by something, without the marks. -/
theorem erase_bind {α β : Type} (p : ConnProg ε T α) {f : α → MarkedProg ε T β} {g : α → ConnProg ε T β}
    (h : ∀ a, (f a).interp LoopOp.erase = g a) : ((unmarked p).bind f).interp LoopOp.erase = p.bind g := by
  have herase : (unmarked p).interp LoopOp.erase = p := Prog.interp_interp_eq (fun c => rfl) p
  have hcontinue : (fun a => (f a).interp LoopOp.erase) = g := funext h
  rw [Prog.interp_bind, herase, hcontinue]

/-- Without its marks the marked loop is the loop. -/
theorem markedLoop_erase (todo : List (MessageId × Claim)) (pending : Nat) (results : List (ProcessResult ε T))
    (failed : List MessageId) :
    (self.markedLoop todo pending results failed).interp LoopOp.erase = self.processLoop todo pending results failed := by
  induction todo generalizing pending results failed with
  | nil => rfl
  | cons p rest ih =>
    obtain ⟨id, claim⟩ := p
    cases claim with
    | duplicate =>
      refine (Prog.interp_bind _ _ _).trans ?_
      unfold Consumer.processLoop
      change Prog.interp _ (if _ then _ else _) = _
      split
      · exact ih _ _ _
      · exact ih _ _ _
    | fresh =>
      cases pending with
      | zero => rfl
      | succ left =>
        refine (Prog.interp_bind _ _ _).trans ?_
        refine erase_bind (self.handleFresh id) ?_
        intro r
        cases r with
        | error e => rfl
        | ok result =>
          refine erase_bind (Consumer.nextSavepoint left) ?_
          intro r
          cases r with
          | error e => rfl
          | ok u => exact ih _ _ _

/-- Without the marks of its loop the marked batch is the batch. -/
theorem markedClaimed_erase (ids : List MessageId) (claims : List Claim) :
    (self.markedClaimed ids claims).interp LoopOp.erase = (self.processClaimed ids claims : ConnProg ε T _) := by
  unfold Consumer.markedClaimed Consumer.processClaimed
  by_cases hpending : claims.count .fresh > 0
  · simp only [if_pos hpending]
    refine erase_bind Store.savepoint ?_
    intro r
    cases r with
    | error e => rfl
    | ok u => exact markedLoop_erase _ _ _ _
  · simp only [if_neg hpending]
    exact markedLoop_erase _ _ _ _

/-- A function without marks has no mark to be wrong at. -/
theorem only_unmarked {α : Type} (p : ConnProg ε T α) : Prog.Only (LoopOp.Counts pairs) (unmarked p) := by
  refine Prog.only_interp ?_ p
  intro c
  exact ⟨trivial, fun _ => trivial⟩

/-- At every head the counter is the number of fresh claims left, whatever the replies. -/
theorem only_markedLoop {todo : List (MessageId × Claim)} {pending : Nat} {results : List (ProcessResult ε T)}
    {failed : List MessageId} (hpending : pending = (todo.map Prod.snd).count .fresh) (hsuffix : todo <:+ pairs) :
    Prog.Only (LoopOp.Counts pairs) (self.markedLoop todo pending results failed) := by
  induction todo generalizing pending results failed with
  | nil => exact Prog.only_bind (Prog.only_perform ⟨hpending, hsuffix⟩) (fun _ => trivial)
  | cons p rest ih =>
    obtain ⟨id, claim⟩ := p
    have hrest : rest <:+ pairs := (List.suffix_cons _ _).trans hsuffix
    cases claim with
    | duplicate =>
      have hcount : pending = (rest.map Prod.snd).count .fresh := by simpa using hpending
      refine Prog.only_bind (Prog.only_perform ⟨hpending, hsuffix⟩) ?_
      intro _
      split
      · exact ih hcount hrest
      · exact ih hcount hrest
    | fresh =>
      obtain ⟨left, rfl⟩ : ∃ left, pending = left + 1 := ⟨_, by simpa using hpending⟩
      have hcount : left = (rest.map Prod.snd).count .fresh := by simpa using hpending
      refine Prog.only_bind (Prog.only_perform ⟨hpending, hsuffix⟩) ?_
      intro _
      refine Prog.only_try (only_unmarked _) (fun _ => trivial) ?_
      intro result
      exact Prog.only_try (only_unmarked _) (fun _ => trivial) (fun _ => ih hcount hrest)

/-- So it is in the whole batch. -/
theorem only_markedClaimed {ids : List MessageId} {claims : List Claim} (hlength : claims.length = ids.length) :
    Prog.Only (LoopOp.Counts (ids.zip claims)) (self.markedClaimed ids claims : MarkedProg ε T _) := by
  have hcount := count_fresh_zip hlength
  unfold Consumer.markedClaimed
  by_cases hpending : claims.count .fresh > 0
  · simp only [if_pos hpending]
    exact Prog.only_try (only_unmarked _) (fun _ => trivial) (fun _ => only_markedLoop hcount (List.suffix_refl _))
  · simp only [if_neg hpending]
    exact only_markedLoop hcount (List.suffix_refl _)

/-! ## Batches without a fresh message -/

/-- A loop over duplicates makes no call. -/
theorem only_processLoop_duplicates {P : Call → Prop} {todo : List (MessageId × Claim)} {pending : Nat}
    {results : List (ProcessResult ε T)} {failed : List MessageId} (h : .fresh ∉ todo.map Prod.snd) :
    Prog.Only P (self.processLoop todo pending results failed) := by
  induction todo generalizing results with
  | nil => trivial
  | cons p rest ih =>
    obtain ⟨id, claim⟩ := p
    rw [List.map_cons, List.mem_cons, not_or] at h
    cases claim with
    | fresh => exact absurd rfl h.1
    | duplicate =>
      unfold Consumer.processLoop
      split
      · exact ih h.2
      · exact ih h.2

/-- Without a fresh claim the batch makes no call. -/
theorem only_processClaimed_duplicates {P : Call → Prop} {ids : List MessageId} {claims : List Claim} (h : .fresh ∉ claims) :
    Prog.Only P (self.processClaimed ids claims : ConnProg ε T _) := by
  have hpending : ¬ claims.count .fresh > 0 := by simpa [List.count_eq_zero] using h
  have hzip : Claim.fresh ∉ (ids.zip claims).map Prod.snd := by
    intro hmem
    obtain ⟨p, hp, hsnd⟩ := List.mem_map.1 hmem
    rw [← hsnd] at h
    exact h (List.of_mem_zip hp).2
  unfold Consumer.processClaimed
  simp only [if_neg hpending]
  exact only_processLoop_duplicates hzip

/-! ## The claims of a batch -/

/-- What `claim_many` makes of a reply: an error, or a claim for every id. -/
theorem spreadClaims_cases (self : Consumer) (ids : List MessageId) (claims : List Claim) :
    (∃ e, (Consumer.spreadClaims (self.batch ids).ids ids claims : ConnProg ε T _) = .ret (.error e)) ∨
      ∃ answers, answers.length = ids.length ∧
        (Consumer.spreadClaims (self.batch ids).ids ids claims : ConnProg ε T _) = .ret (.ok answers) := by
  by_cases hlength : claims.length = (self.batch ids).ids.length
  · obtain ⟨f, rfl⟩ := exists_map_of_length (self.nodup_batch ids) hlength
    refine Or.inr ⟨_, firstAnswers_length f [] ids, spreadClaims_map f ?_⟩
    intro id hid
    exact (self.mem_batch ids id).2 hid
  · exact Or.inl ⟨_, spreadClaims_of_length_ne hlength⟩

/-- A batch is still at its claims, or has taken them and goes on with them. -/
theorem becomes_processBatch {ids : List MessageId} (hids : ids ≠ []) {rest : ConnProg ε T _}
    (h : Prog.Becomes (self.processBatch ids) calls rest) :
    BeforeClaims calls rest ∨ ∃ first since claims, calls = first ++ since ∧ (∀ e ∈ first, e.1.IsClaimMany) ∧
      claims.length = ids.length ∧ Prog.Becomes (self.processClaimed ids claims) since rest := by
  change Prog.Becomes ((self.claimMany ids).bind _) calls rest at h
  rw [self.claimMany_eq hids, Prog.bind] at h
  cases h with
  | refl =>
    refine Or.inl ⟨by simp, ?_, by simp⟩
    rintro c k hcall
    cases hcall
    trivial
  | @call _ _ reply since _ h =>
    have hfirst : ∀ e ∈ [(⟨.claimMany (self.batch ids), reply⟩ : (c : Call) × Reply ε T c)], e.1.IsClaimMany := by
      simp [Call.IsClaimMany]
    cases reply with
    | error e =>
      cases h
      exact Or.inl ⟨hfirst, by simp [Prog.bind], fun finish hfinish => ⟨e, by cases hfinish; rfl⟩⟩
    | ok claims =>
      rcases spreadClaims_cases (ε := ε) (T := T) self ids claims with ⟨e, heq⟩ | ⟨answers, hlength, heq⟩
      · simp only [heq] at h
        cases h
        exact Or.inl ⟨hfirst, by simp [Prog.bind], fun finish hfinish => ⟨e, by cases hfinish; rfl⟩⟩
      · simp only [heq] at h
        exact Or.inr ⟨_, since, answers, rfl, hfirst, hlength, h⟩

end SavepointsAux

open SavepointsAux

/-- The savepoint discipline of `process_many`, in two parts.
1. With any claims, one for every id, the loop and the savepoint before it keep the discipline.
2. The transaction of `process_many` takes its claims first, and then is at a point of the loop with these claims. -/
theorem processMany_savepoints (ε T : Type) (self : Consumer) (ids : List MessageId) :
    (∀ claims : List Claim, claims.length = ids.length → SavepointDiscipline ε T self ids claims) ∧
    ∀ k body, (self.processMany ids : Routine ε T _) = .begin k body → ∀ calls rest, Prog.Becomes body calls rest →
      BeforeClaims calls rest ∨ ∃ first since claims, calls = first ++ since ∧ (∀ e ∈ first, e.1.IsClaimMany) ∧
        claims.length = ids.length ∧ Prog.Becomes (self.processClaimed ids claims) since rest := by
  constructor
  · intro claims hlength
    -- what the weakest precondition of the batch says at the point a run has come to
    have hpoint : ∀ (calls : Calls ε T) rest, calls.Succeeded → Prog.Becomes (self.processClaimed ids claims) calls rest →
        Prog.wp (batchContract ε T self (ids.zip claims)) Committed rest calls := by
      intro calls rest hcalls hbecomes
      exact Prog.wp_of_becomes (wp_processClaimed hlength) hbecomes hcalls
    exact {
      marks := markedClaimed_erase ids claims
      counter := only_markedClaimed hlength
      noUnderflow := fun calls message hcalls hbecomes => hpoint calls _ hcalls hbecomes
      allowed := fun calls c k hcalls hbecomes => (hpoint calls _ hcalls hbecomes).1
      committed := fun calls finish hcalls hbecomes => hpoint calls _ hcalls hbecomes
      unused := only_processClaimed_duplicates }
  · intro k body hbody calls rest hbecomes
    by_cases hids : ids = []
    · subst hids
      cases hbody
    · have hempty : ids.isEmpty = false := by simpa using hids
      rw [Consumer.processMany, hempty] at hbody
      cases hbody
      exact becomes_processBatch hids hbecomes

/-- A consumer. -/
def courier : Consumer := ⟨⟨"courier", by decide⟩, none⟩

/-- A message. -/
def crate : MessageId := ⟨"crate-1", by decide⟩

/-- The calls up to the second handler of a batch in which the message is delivered twice and both deliveries are claimed fresh. The
first handler fails. -/
def crateCalls : Calls Unit Unit :=
  [⟨.savepoint, .ok ()⟩, ⟨.handler crate, .error (.text "crate lost")⟩, ⟨.rollbackTo, .ok ()⟩, ⟨.unclaim courier.id crate, .ok ()⟩,
    ⟨.releaseAndSavepoint, .ok ()⟩]

/-- A repeat that is claimed fresh, which no database would answer: its handler runs in a savepoint of its own, and the batch
commits. A batch of one message is in the loop after its claims. -/
theorem processMany_savepoints_repeat :
    (∃ k, Prog.Becomes (courier.processClaimed [crate, crate] [.fresh, .fresh]) crateCalls (.call (.handler crate) k) ∧
      MayCall courier.id [(crate, .fresh), (crate, .fresh)] crateCalls (.handler crate)) ∧
    (∃ finish, Prog.Becomes (courier.processClaimed [crate, crate] [.fresh, .fresh])
        (crateCalls ++ [⟨.handler crate, .ok ()⟩, ⟨.release, .ok ()⟩]) (.ret finish) ∧ ∃ k, finish = .commit k) ∧
    ∃ first since claims, [⟨.claimMany (courier.batch [crate]), .ok [.fresh]⟩, ⟨.savepoint, .ok ()⟩] = first ++ since ∧
      (∀ e ∈ first, e.1.IsClaimMany) ∧ claims.length = 1 ∧
      ∃ k, Prog.Becomes (courier.processClaimed [crate] claims : ConnProg Unit Unit _) since (.call (.handler crate) k) := by
  have hrepeat := (processMany_savepoints Unit Unit courier [crate, crate]).1 [.fresh, .fresh] rfl
  have hsucceeded : crateCalls.Succeeded := by
    simp [Calls.Succeeded, crateCalls, Call.Succeeded, Except.isOk, Except.toBool]
  have hsucceeded' : Calls.Succeeded (crateCalls ++ [⟨.handler crate, .ok ()⟩, ⟨.release, .ok ()⟩]) := by
    simp [Calls.Succeeded, crateCalls, Call.Succeeded, Except.isOk, Except.toBool]
  have hhandler : ∃ k, Prog.Becomes (courier.processClaimed [crate, crate] [.fresh, .fresh]) crateCalls
      (.call (.handler crate) k) :=
    ⟨_, .call (.call (.call (.call (.call (.refl _)))))⟩
  have hcommit : ∃ finish, Prog.Becomes (courier.processClaimed [crate, crate] [.fresh, .fresh])
      (crateCalls ++ [⟨.handler crate, .ok ()⟩, ⟨.release, .ok ()⟩]) (.ret finish) :=
    ⟨_, .call (.call (.call (.call (.call (.call (.call (.refl _)))))))⟩
  have hbatch : ∃ k, Prog.Becomes (courier.processBatch [crate] : ConnProg Unit Unit _)
      [⟨.claimMany (courier.batch [crate]), .ok [.fresh]⟩, ⟨.savepoint, .ok ()⟩] (.call (.handler crate) k) :=
    ⟨_, .call (.call (.refl _))⟩
  obtain ⟨k, hk⟩ := hhandler
  obtain ⟨finish, hfinish⟩ := hcommit
  obtain ⟨k', hk'⟩ := hbatch
  refine ⟨⟨k, hk, hrepeat.allowed _ _ _ hsucceeded hk⟩, ⟨finish, hfinish, (hrepeat.committed _ _ hsucceeded' hfinish).1⟩, ?_⟩
  rcases (processMany_savepoints Unit Unit courier [crate]).2 _ _ rfl _ _ hk' with hbefore | hafter
  · exact (hbefore.1 ⟨.savepoint, .ok ()⟩ (by simp)).elim
  · obtain ⟨first, since, claims, hcalls, hfirst, hlength, hsince⟩ := hafter
    exact ⟨first, since, claims, hcalls, hfirst, hlength, k', hsince⟩

end Txbox
