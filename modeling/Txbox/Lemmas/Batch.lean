import Txbox.Lemmas.ClaimMany

/-!
# The batch without its savepoints

On the reference backend, `process_many` is a loop in which a failed handler changes nothing but the closure state and the claim
of its message (`batchLoop`): the savepoints, their releases and the counter of pending messages are gone. `run_processMany` is
that simulation, and `run_process` the same for one message.
-/

namespace Txbox

open Lib Reference

variable {ε T H D : Type}

/-- The loop of a batch, message by message, on the rows that the batch has claimed. -/
def batchLoop (handler : Handler ε T H D) (consumer : ConsumerId) : List (MessageId × Claim) → (failed : List MessageId) →
    HandlerState ε T H D → Database D → List (ProcessResult ε T) × HandlerState ε T H D × Database D
  | [], _, w, db => ([], w, db)
  | (id, .duplicate) :: rest, failed, w, db =>
    let (results, w', db') := batchLoop handler consumer rest failed w db
    ((if failed.contains id then .error (Consumer.repeatError id) else .ok .duplicate) :: results, w', db')
  | (id, .fresh) :: rest, failed, w, db =>
    match runHandler handler w db.data id with
    | (.ok value, w', data) =>
      let (results, w'', db') := batchLoop handler consumer rest failed w' { db with data }
      (.ok (.processed value) :: results, w'', db')
    | (.error e, w', _) =>
      let (results, w'', db') :=
        batchLoop handler consumer rest (id :: failed) w' { db with rows := db.rows.erase (consumer, id) }
      (.error e :: results, w'', db')

/-- A batch: claim every id, in input order, and run the loop. -/
def batchRun (handler : Handler ε T H D) (consumer : ConsumerId) (ids : List MessageId) (w : HandlerState ε T H D)
    (db : Database D) : List (ProcessResult ε T) × HandlerState ε T H D × Database D :=
  let (claims, rows) := claimEach consumer db.rows ids
  batchLoop handler consumer (ids.zip claims) [] w { db with rows }

/-- One message: a recorded one is skipped, a new one is recorded with its effects when its handler succeeds, and leaves no trace
but the closure state when it fails. -/
def processOne (handler : Handler ε T H D) (consumer : ConsumerId) (id : MessageId) (w : HandlerState ε T H D)
    (db : Database D) : Except (InboxError ε) (Outcome T) × HandlerState ε T H D × Database D :=
  if (consumer, id) ∈ db.rows then (.ok .duplicate, w, db)
  else
    match runHandler handler w db.data id with
    | (.ok value, w', data) => (.ok (.processed value), w', ⟨insert (consumer, id) db.rows, data⟩)
    | (.error e, w', _) => (.error (.handler e), w', db)

namespace BatchAux

variable (handler : Handler ε T H D) (db₀ : Database D)

/-- A handler that succeeds leaves its writes over the savepoint; one that fails leaves what the savepoint saved, less the
claim. -/
theorem run_handleFresh (self : Consumer) (id : MessageId) (w : HandlerState ε T H D) (cur : Database D) :
    Prog.run ((backend handler).exec db₀) none (self.handleFresh id) (w, ⟨cur, [cur]⟩) =
      match runHandler handler w cur.data id with
      | (.ok value, w', data) => (.returned (.ok (.ok (.processed value))), w', ⟨{ cur with data }, [cur]⟩)
      | (.error e, w', _) =>
        (.returned (.ok (.error e)), w', ⟨{ cur with rows := cur.rows.erase (self.id, id) }, [cur]⟩) := by
  have hcall : (backend handler).exec db₀ (.handler id) (w, ⟨cur, [cur]⟩) =
      ((runHandler handler w cur.data id).1, (runHandler handler w cur.data id).2.1,
        ⟨{ cur with data := (runHandler handler w cur.data id).2.2 }, [cur]⟩) := rfl
  generalize runHandler handler w cur.data id = out at hcall ⊢
  obtain ⟨r, w', data⟩ := out
  cases r with
  | ok value =>
    change Prog.run _ none (Prog.call _ _) _ = _
    rw [Prog.run_call, hcall]
    rfl
  | error e =>
    change Prog.run _ none (Prog.call _ _) _ = _
    rw [Prog.run_call, hcall]
    rfl

/-- After a fresh message the savepoint is closed, and opened again on the state as it stands while others wait. -/
theorem run_nextSavepoint (pending : Nat) (w : HandlerState ε T H D) (cur saved : Database D) :
    Prog.run ((backend handler).exec db₀) none (Consumer.nextSavepoint pending) (w, ⟨cur, [saved]⟩) =
      (.returned (.ok ()), w, ⟨cur, if 0 < pending then [cur] else []⟩) := by
  unfold Consumer.nextSavepoint
  by_cases hp : pending > 0
  · rw [if_pos hp, if_pos hp]
    rfl
  · rw [if_neg hp, if_neg hp]
    rfl

/-- The number of fresh claims of a list of messages and claims. -/
def freshCount (rest : List (MessageId × Claim)) : Nat := (rest.map (·.2)).count .fresh

theorem freshCount_duplicate (id : MessageId) (rest : List (MessageId × Claim)) :
    freshCount ((id, .duplicate) :: rest) = freshCount rest := by
  simp [freshCount]

theorem freshCount_fresh (id : MessageId) (rest : List (MessageId × Claim)) :
    freshCount ((id, .fresh) :: rest) = freshCount rest + 1 := by
  simp [freshCount]

/-- The loop of `process_many`, with one savepoint open on the state as it stands while fresh messages wait and none
otherwise, is the loop without savepoints. -/
theorem run_processLoop (self : Consumer) (rest : List (MessageId × Claim)) :
    ∀ (results : List (ProcessResult ε T)) (failed : List MessageId) (w : HandlerState ε T H D) (cur : Database D),
      Prog.run ((backend handler).exec db₀) none (self.processLoop rest (freshCount rest) results failed)
          (w, ⟨cur, if 0 < freshCount rest then [cur] else []⟩) =
        (.returned (.commit fun r => r.map fun _ => results ++ (batchLoop handler self.id rest failed w cur).1),
          (batchLoop handler self.id rest failed w cur).2.1, ⟨(batchLoop handler self.id rest failed w cur).2.2, []⟩) := by
  induction rest with
  | nil =>
    intro results failed w cur
    simp [freshCount, Consumer.processLoop, batchLoop, pure]
  | cons p rest ih =>
    intro results failed w cur
    obtain ⟨id, claim⟩ := p
    cases claim with
    | duplicate =>
      rw [freshCount_duplicate]
      simp only [Consumer.processLoop, batchLoop]
      by_cases hf : failed.contains id
      · rw [if_pos hf, if_pos hf, ih]
        simp only [List.append_assoc, List.singleton_append]
      · rw [if_neg hf, if_neg hf, ih]
        simp only [List.append_assoc, List.singleton_append]
    | fresh =>
      rw [freshCount_fresh, if_pos (Nat.succ_pos _)]
      simp only [Consumer.processLoop, batchLoop]
      have hh := run_handleFresh handler db₀ self id w cur
      generalize runHandler handler w cur.data id = out at hh ⊢
      obtain ⟨r, w', data⟩ := out
      cases r with
      | ok value =>
        refine (Prog.run_bind _ hh).trans ?_
        refine (Prog.run_bind _ (run_nextSavepoint handler db₀ _ w' _ cur)).trans ?_
        refine (ih _ _ _ _).trans ?_
        simp only [List.append_assoc, List.singleton_append, Consumer.noteFailure]
      | error e =>
        refine (Prog.run_bind _ hh).trans ?_
        refine (Prog.run_bind _ (run_nextSavepoint handler db₀ _ w' _ cur)).trans ?_
        refine (ih _ _ _ _).trans ?_
        simp only [List.append_assoc, List.singleton_append, Consumer.noteFailure]

/-- `claim_many` answers like one claim per id in input order, and leaves every id claimed. -/
theorem run_claimMany (self : Consumer) {ids : List MessageId} (h : ids ≠ []) (w : HandlerState ε T H D)
    (db : Database D) :
    Prog.run ((backend handler).exec db₀) none (self.claimMany ids) (w, Nested.start db) =
      (.returned (.ok (claimEach self.id db.rows ids).1), w,
        Nested.start { db with rows := (claimEach self.id db.rows ids).2 }) := by
  have hcall : (backend handler).exec db₀ (.claimMany (self.batch ids)) (w, Nested.start db) =
      (.ok (claimEach self.id db.rows (self.batch ids).ids).1, w,
        Nested.start { db with rows := (claimEach self.id db.rows (self.batch ids).ids).2 }) := rfl
  have hkeys : keysOf self.id (self.batch ids).ids = keysOf self.id ids := by
    ext key
    rw [mem_keysOf, mem_keysOf, Consumer.mem_batch]
  rw [claimEach_rows, hkeys, firstAnswers_of_nodup (self.nodup_batch ids) (by simp)] at hcall
  rw [Consumer.claimMany_eq self h, Prog.run_call, hcall, claimEach_rows]
  simp only [spreadClaims_map _ (fun id hid => (self.mem_batch ids id).2 hid), Prog.run_ret]

end BatchAux

open BatchAux

/-- `process_many` on the reference backend is the batch without savepoints: it returns, and what it returns, the handler's side
and what is committed are the batch's. -/
theorem run_processMany (handler : Handler ε T H D) (self : Consumer) (ids : List MessageId)
    (w : HandlerState ε T H D) (db : Database D) :
    (backend handler).run none (self.processMany ids) w db =
      (.returned (.ok (batchRun handler self.id ids w db).1), (batchRun handler self.id ids w db).2) := by
  by_cases hids : ids = []
  · subst hids
    rfl
  · have hclaims : ((claimEach self.id db.rows ids).1).length = ids.length := by
      rw [claimEach_rows, firstAnswers_length]
    have hcount : (claimEach self.id db.rows ids).1.count .fresh =
        freshCount (ids.zip (claimEach self.id db.rows ids).1) := by
      rw [freshCount, List.map_snd_zip hclaims.le]
    have hclaimed : Prog.run ((backend handler).exec db) none
        (self.processClaimed ids (claimEach self.id db.rows ids).1)
        (w, Nested.start { db with rows := (claimEach self.id db.rows ids).2 }) =
          (.returned (.commit fun r => r.map fun _ => (batchRun handler self.id ids w db).1),
            (batchRun handler self.id ids w db).2.1, ⟨(batchRun handler self.id ids w db).2.2, []⟩) := by
      have hloop := run_processLoop handler db self (ids.zip (claimEach self.id db.rows ids).1) [] [] w
        { db with rows := (claimEach self.id db.rows ids).2 }
      unfold Consumer.processClaimed
      simp only [hcount]
      by_cases hp : 0 < freshCount (ids.zip (claimEach self.id db.rows ids).1)
      · rw [if_pos hp] at hloop
        rw [if_pos hp]
        exact hloop
      · rw [if_neg hp] at hloop
        rw [if_neg hp]
        exact hloop
    have hbody : Prog.run ((backend handler).exec db) none (self.processBatch ids) (w, Nested.start db) =
        (.returned (.commit fun r => r.map fun _ => (batchRun handler self.id ids w db).1),
          (batchRun handler self.id ids w db).2.1, ⟨(batchRun handler self.id ids w db).2.2, []⟩) :=
      (Prog.run_bind _ (run_claimMany handler db self hids w db)).trans hclaimed
    unfold Consumer.processMany
    rw [if_neg (by simpa using hids)]
    exact Backend.run_begin rfl hbody

/-- `process` on the reference backend is the one message without savepoints or transaction. -/
theorem run_process (handler : Handler ε T H D) (self : Consumer) (id : MessageId) (w : HandlerState ε T H D)
    (db : Database D) :
    (backend handler).run none (self.process id) w db =
      (.returned (processOne handler self.id id w db).1, (processOne handler self.id id w db).2) := by
  have hbody : Prog.run ((backend handler).exec db) none (self.processInTx id) (w, Nested.start db) =
      if (self.id, id) ∈ db.rows then (.returned (.rollback fun r => r.map fun _ => .duplicate), w, Nested.start db)
      else
        match runHandler handler w db.data id with
        | (.ok value, w', data) =>
          (.returned (.commit fun r => r.map fun _ => .processed value), w',
            Nested.start ⟨insert (self.id, id) db.rows, data⟩)
        | (.error e, w', data) =>
          (.returned (.rollback fun _ => .error (.handler e)), w', Nested.start ⟨insert (self.id, id) db.rows, data⟩) := by
    have hclaim : (backend handler).exec db (.claim { ClaimRequest.new self.id id with lockTimeout := self.lockTimeout })
        (w, Nested.start db) = (.ok (claimRow db.rows (self.id, id)).1, w,
          Nested.start { db with rows := (claimRow db.rows (self.id, id)).2 }) := rfl
    change Prog.run _ none (Prog.call _ _) _ = _
    rw [Prog.run_call, hclaim]
    unfold claimRow
    by_cases hr : (self.id, id) ∈ db.rows
    · rw [if_pos hr, if_pos hr]
      rfl
    · rw [if_neg hr, if_neg hr]
      have hcall : (backend handler).exec db (.handler id) (w, Nested.start ⟨insert (self.id, id) db.rows, db.data⟩) =
          ((runHandler handler w db.data id).1, (runHandler handler w db.data id).2.1,
            Nested.start ⟨insert (self.id, id) db.rows, (runHandler handler w db.data id).2.2⟩) := rfl
      change Prog.run _ none (Prog.call _ _) _ = _
      rw [Prog.run_call, hcall]
      generalize runHandler handler w db.data id = out
      obtain ⟨r, w', data⟩ := out
      cases r <;> rfl
  unfold processOne
  by_cases hr : (self.id, id) ∈ db.rows
  · rw [if_pos hr] at hbody ⊢
    exact Backend.run_begin rfl hbody
  · rw [if_neg hr] at hbody ⊢
    generalize runHandler handler w db.data id = out at hbody ⊢
    obtain ⟨r, w', data⟩ := out
    cases r <;> exact Backend.run_begin rfl hbody

end Txbox
