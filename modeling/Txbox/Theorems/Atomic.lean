import Txbox.Lemmas.ClaimMany

/-!
# All or nothing

For every backend, whatever its calls answer: a store call that fails, or a future dropped before its commit is reached, leaves
what is committed as it was, and a commit that fails or is dropped leaves the old state or the whole new one. The functions stop at
the first store call that fails and return its error (`StopsAtFailure`); `process` alone reports its handler's error over that of a
failing rollback.
-/

namespace Txbox

open Lib

variable {ε T α β World Db Tx : Type}

/-! ## Failures -/

/-- One call of the store in a run, with its answer. -/
inductive StoreEvent (ε T : Type) where
  | begin (r : Except (InboxError ε) Unit)
  | call (c : Call) (r : Reply ε T c)
  | commit (r : Except (InboxError ε) Unit)
  | rollback (r : Except (InboxError ε) Unit)

/-- The error of an answer, if it is one. -/
def errorOf {γ : Type} : Except (InboxError ε) γ → Option (InboxError ε)
  | .ok _ => none
  | .error e => some e

/-- The error a call on the connection fails with. A reply of `claim_many` with the wrong number of claims is a failure; an error of
the handler is not a failure of the store. -/
def Call.failure : (c : Call) → Reply ε T c → Option (InboxError ε)
  | .claim _, r => errorOf r
  | .claimMany _, .error e => some e
  | .claimMany batch, .ok claims =>
    if claims.length ≠ batch.ids.length then some (Consumer.lengthError claims.length batch.ids.length) else none
  | .savepoint, r => errorOf r
  | .releaseAndSavepoint, r => errorOf r
  | .release, r => errorOf r
  | .rollbackTo, r => errorOf r
  | .unclaim _ _, r => errorOf r
  | .handler _, _ => none

/-- The error a store call other than a commit fails with. -/
def StoreEvent.failure : StoreEvent ε T → Option (InboxError ε)
  | .begin r => errorOf r
  | .call c r => c.failure r
  | .commit _ => none
  | .rollback r => errorOf r

namespace Backend

variable (b : Backend ε T World Db Tx)

/-- The last store call of a function that owns a transaction. A drop is none. -/
def finishEvents (f : Finish ε α) (w : World) (db : Db) (tx : Tx) : List (StoreEvent ε T) :=
  match f with
  | .drop _ => []
  | .commit _ => [.commit (b.commit w db tx).1]
  | .rollback _ => [.rollback (b.rollback w db tx).1]

/-- The store calls of a run that is not cut, with their answers, in order. -/
def events (r : Routine ε T α) (w : World) (db : Db) : List (StoreEvent ε T) :=
  match r with
  | .ret _ => []
  | .begin _ body =>
    match b.begin w db with
    | (.error e, _) => [.begin (.error e)]
    | (.ok tx, w') =>
      .begin (.ok ()) :: (Prog.trace (b.exec db) body (w', tx)).map (fun ev => .call ev.1 ev.2) ++
        match Prog.run (b.exec db) none body (w', tx) with
        | (.returned f, w'', tx') => b.finishEvents f w'' db tx'
        | _ => []

/-- The complete new state: what a commit of the whole run publishes. None when the run does not get to a commit. -/
def completed (r : Routine ε T α) (w : World) (db : Db) : Option Db :=
  match r with
  | .ret _ => none
  | .begin _ body =>
    match b.begin w db with
    | (.error _, _) => none
    | (.ok tx, w') =>
      match Prog.run (b.exec db) none body (w', tx) with
      | (.returned (.commit _), _, tx') => some (b.publish tx' db)
      | _ => none

end Backend

/-- All or nothing, for one function on one backend from one state. `reported` is the error the function returns when a store call
fails with an error, given all the calls of the run. -/
structure AllOrNothing (b : Backend ε T World Db Tx) (r : Routine ε T (Except (InboxError ε) α))
    (reported : List (StoreEvent ε T) → InboxError ε → InboxError ε) (w : World) (db : Db) : Prop where
  /-- A store call that fails, wherever it stands: nothing is committed, and the function returns an error. -/
  failure : ∀ ev ∈ b.events r w db, ∀ e, ev.failure = some e →
    (b.run none r w db).1 = .returned (.error (reported (b.events r w db) e)) ∧ (b.run none r w db).2.2 = db
  /-- A commit that fails: the function returns its error. -/
  commit : ∀ e, .commit (.error e) ∈ b.events r w db → (b.run none r w db).1 = .returned (.error e)
  /-- A future dropped before a commit is reached, while `begin`, a call on the connection or a rollback is in flight: nothing is
  committed. -/
  dropped : ∀ cut, (∀ landed, cut = .finish landed → b.completed r w db = none) → (b.run (some cut) r w db).1 = .dropped →
    (b.run (some cut) r w db).2.2 = db
  /-- However the run ends, cut anywhere or nowhere, its commit answering anything or nothing: the old state or the whole new
  one. -/
  whole : ∀ cut, (b.run cut r w db).2.2 = db ∨ b.completed r w db = some (b.run cut r w db).2.2

/-- The error a failed handler call answered. -/
def StoreEvent.handlerError : StoreEvent ε T → Option (HandlerError ε)
  | .call (.handler _) (.error e) => some e
  | _ => none

/-- The error `process` returns when a store call fails with `e`: the handler's own if the handler failed. -/
def reportedByProcess (events : List (StoreEvent ε T)) (e : InboxError ε) : InboxError ε :=
  match events.findSome? StoreEvent.handlerError with
  | some he => .handler he
  | none => e

namespace AtomicAux

/-! ## Stopping at the first failure -/

/-- The program stops at the first store call that fails, with what `onError` makes of its error, and otherwise ends in `leaf`. -/
def StopsAtFailure (onError : InboxError ε → β) (leaf : β → Prop) : ConnProg ε T β → Prop
  | .ret b => leaf b
  | .panic _ => True
  | .call c k => ∀ r, (∀ e, c.failure r = some e → k r = .ret (onError e)) ∧
      (c.failure r = none → StopsAtFailure onError leaf (k r))

/-- Composition: the second part stops where the first did, and is run where it did not. -/
theorem StopsAtFailure.bind {γ : Type} {onError : InboxError ε → β} {leaf : β → Prop} {onError' : InboxError ε → γ}
    {leaf' : γ → Prop} {p : ConnProg ε T β} {f : β → ConnProg ε T γ} (h : StopsAtFailure onError leaf p)
    (he : ∀ e, f (onError e) = .ret (onError' e)) (hf : ∀ b, leaf b → StopsAtFailure onError' leaf' (f b)) :
    StopsAtFailure onError' leaf' (p.bind f) := by
  induction p with
  | ret b => exact hf b h
  | panic m => trivial
  | call c k ih =>
    intro r
    refine ⟨fun e hr => ?_, fun hr => ih r ((h r).2 hr)⟩
    change (k r).bind f = _
    rw [(h r).1 e hr]
    exact he e

/-- A failed call in a run of a program that stops at failures: the run returned what the failure asks for. -/
theorem StopsAtFailure.run_eq {σ : Type} {onError : InboxError ε → β} {leaf : β → Prop} {p : ConnProg ε T β}
    (h : StopsAtFailure onError leaf p) (exec : (c : Call) → σ → Reply ε T c × σ) {s : σ} {ev : (c : Call) × Reply ε T c}
    (hev : ev ∈ Prog.trace exec p s) {e : InboxError ε} (he : ev.1.failure ev.2 = some e) :
    ∃ s', Prog.run exec none p s = (.returned (onError e), s') := by
  induction p generalizing s with
  | ret b => exact absurd hev List.not_mem_nil
  | panic m => exact absurd hev List.not_mem_nil
  | call c k ih =>
    obtain ⟨hstop, hgo⟩ := h (exec c s).1
    rw [Prog.run_call]
    cases hc : c.failure (exec c s).1 with
    | some e' =>
      have hk := hstop e' hc
      rw [Prog.trace, hk, Prog.trace, List.mem_singleton] at hev
      subst hev
      rw [hc] at he
      cases he
      rw [hk]
      exact ⟨_, Prog.run_ret exec none _ _⟩
    | none =>
      rw [Prog.trace] at hev
      rcases List.mem_cons.1 hev with rfl | hev
      · rw [hc] at he
        cases he
      · exact ih _ (hgo hc) hev

/-- A run of a program that stops at failures and meets none ends in a leaf. -/
theorem StopsAtFailure.leaf_of_run {σ : Type} {onError : InboxError ε → β} {leaf : β → Prop} {p : ConnProg ε T β}
    (h : StopsAtFailure onError leaf p) (exec : (c : Call) → σ → Reply ε T c × σ) {s s' : σ} {b : β}
    (hr : Prog.run exec none p s = (.returned b, s')) : leaf b ∨ ∃ e, b = onError e := by
  induction p generalizing s with
  | ret b' =>
    rw [Prog.run_ret] at hr
    cases hr
    exact Or.inl h
  | panic m =>
    rw [Prog.run_panic] at hr
    nomatch hr
  | call c k ih =>
    obtain ⟨hstop, hgo⟩ := h (exec c s).1
    rw [Prog.run_call] at hr
    cases hc : c.failure (exec c s).1 with
    | some e =>
      rw [hstop e hc, Prog.run_ret] at hr
      cases hr
      exact Or.inr ⟨e, rfl⟩
    | none => exact ih _ (hgo hc) hr

/-! ## The functions of the consumer stop at the first failure -/

/-- A program that does not panic where it stops, as a leaf: it returned a value and not an error. -/
def Answered {γ : Type} (r : Except (InboxError ε) γ) : Prop := ∃ a, r = .ok a

/-- `claim_many` stops at a failed call and at a reply of the wrong length. -/
theorem claimMany_stops (self : Consumer) (ids : List MessageId) :
    StopsAtFailure (T := T) (ε := ε) .error Answered (self.claimMany ids) := by
  unfold Consumer.claimMany
  by_cases h : ids.isEmpty
  · rw [if_pos h]
    exact ⟨[], rfl⟩
  rw [if_neg h]
  intro r
  cases r with
  | error e =>
    refine ⟨fun e' he => ?_, (nomatch ·)⟩
    cases he
    rfl
  | ok claims =>
    simp only [Call.failure]
    by_cases hl : claims.length ≠ (self.batch ids).ids.length
    · rw [if_pos hl]
      refine ⟨fun e' he => ?_, (nomatch ·)⟩
      cases he
      exact spreadClaims_of_length_ne hl
    · rw [if_neg hl]
      refine ⟨fun e' => (nomatch ·), fun _ => ?_⟩
      change StopsAtFailure _ _ (Consumer.spreadClaims _ _ _)
      rw [Consumer.spreadClaims, if_neg hl]
      split
      · exact ⟨_, rfl⟩
      · trivial

/-- A store call on its own: it answers, or it fails with the error it answers. -/
theorem answer_stops {γ : Type} (r : Except (InboxError ε) γ) :
    (∀ e, errorOf r = some e → (.ret r : ConnProg ε T (Except (InboxError ε) γ)) = .ret (.error e)) ∧
      (errorOf r = none → StopsAtFailure (T := T) .error Answered (.ret r)) := by
  cases r with
  | ok a => exact ⟨fun e => (nomatch ·), fun _ => ⟨a, rfl⟩⟩
  | error e =>
    refine ⟨fun e' he => ?_, (nomatch ·)⟩
    cases he
    rfl

/-- A fresh message stops at a failed `rollback_to` or `unclaim`; its handler's error is a result. -/
theorem handleFresh_stops (self : Consumer) (id : MessageId) :
    StopsAtFailure (T := T) (ε := ε) .error Answered (self.handleFresh id) := by
  have hrollback : StopsAtFailure (T := T) (ε := ε) .error Answered Store.rollbackTo := fun r => answer_stops r
  have hunclaim : StopsAtFailure (T := T) (ε := ε) .error Answered (Store.unclaim self.id id) := fun r => answer_stops r
  intro r
  refine ⟨fun e => (nomatch ·), fun _ => ?_⟩
  cases r with
  | ok value => exact ⟨_, rfl⟩
  | error he =>
    refine hrollback.bind (fun e => rfl) ?_
    rintro _ ⟨⟨⟩, rfl⟩
    refine hunclaim.bind (fun e => rfl) ?_
    rintro _ ⟨⟨⟩, rfl⟩
    exact ⟨_, rfl⟩

/-- The savepoint after a fresh message stops at its failure. -/
theorem nextSavepoint_stops (pending : Nat) :
    StopsAtFailure (T := T) (ε := ε) .error Answered (Consumer.nextSavepoint pending) := by
  unfold Consumer.nextSavepoint
  split
  · exact fun r => answer_stops r
  · exact fun r => answer_stops r

/-- The transaction is committed, and an error of the commit is returned. -/
def Commits (f : Finish ε (Except (InboxError ε) α)) : Prop := ∃ k, f = .commit k ∧ ∀ e, k (.error e) = .error e

/-- The loop stops at the first failure, dropping the transaction, and otherwise commits. -/
theorem processLoop_stops (self : Consumer) (pairs : List (MessageId × Claim)) (pending : Nat)
    (results : List (ProcessResult ε T)) (failed : List MessageId) :
    StopsAtFailure (fun e => .drop (.error e)) Commits (self.processLoop pairs pending results failed) := by
  induction pairs generalizing pending results failed with
  | nil => exact ⟨_, rfl, fun e => rfl⟩
  | cons p rest ih =>
    obtain ⟨id, claim⟩ := p
    cases claim with
    | duplicate =>
      unfold Consumer.processLoop
      split
      · exact ih _ _ _
      · exact ih _ _ _
    | fresh =>
      cases pending with
      | zero => trivial
      | succ pending =>
        refine (handleFresh_stops self id).bind (fun e => rfl) ?_
        rintro r ⟨result, rfl⟩
        refine (nextSavepoint_stops pending).bind (fun e => rfl) ?_
        rintro r ⟨⟨⟩, rfl⟩
        exact ih _ _ _

/-- `process_many` stops at the first failure, dropping its transaction, and otherwise commits. -/
theorem processBatch_stops (self : Consumer) (ids : List MessageId) :
    StopsAtFailure (T := T) (ε := ε) (fun e => .drop (.error e)) Commits (self.processBatch ids) := by
  refine (claimMany_stops self ids).bind (fun e => rfl) ?_
  rintro r ⟨claims, rfl⟩
  have hsavepoint : StopsAtFailure (T := T) (ε := ε) .error Answered Store.savepoint := fun r => answer_stops r
  change StopsAtFailure _ _ (self.processClaimed ids claims)
  simp only [Consumer.processClaimed]
  split
  · refine hsavepoint.bind (fun e => rfl) ?_
    rintro _ ⟨⟨⟩, rfl⟩
    exact processLoop_stops self _ _ _ _
  · exact processLoop_stops self _ _ _ _

/-! ## Runs that are cut -/

section Runs

variable {b : Backend ε T World Db Tx} {w : World} {db : Db}

/-- The end of a function leaves what is committed as it was, unless it is a commit that lands. -/
theorem finish_whole (cut : Option Cut) (f : Finish ε α) (w : World) (tx : Tx) :
    (b.finish cut f w db tx).2.2 = db ∨ (∃ k, f = .commit k) ∧ (b.finish cut f w db tx).2.2 = b.publish tx db := by
  have hsettle : ∀ landed, b.settle landed tx db = db ∨ b.settle landed tx db = b.publish tx db := by
    intro landed
    cases landed with
    | false => exact Or.inl rfl
    | true => exact Or.inr rfl
  unfold Backend.finish
  split
  · exact Or.inl rfl
  · exact (hsettle _).imp id fun h => ⟨⟨_, rfl⟩, h⟩
  · exact (hsettle _).imp id fun h => ⟨⟨_, rfl⟩, h⟩
  · exact Or.inl rfl
  · exact Or.inl rfl

/-- A function cut before its end does not get as far as being dropped there. -/
theorem finish_not_dropped {cut : Cut} (hcut : ∀ landed, cut ≠ .finish landed) (f : Finish ε α) (w : World) (tx : Tx) :
    (b.finish (some cut) f w db tx).1 ≠ .dropped := by
  unfold Backend.finish
  split
  · exact (nomatch ·)
  · next h => exact absurd (Option.some.inj h) (hcut _)
  · exact (nomatch ·)
  · next h => exact absurd (Option.some.inj h) (hcut _)
  · exact (nomatch ·)

/-- A future dropped before the end of its function has committed nothing. -/
theorem run_dropped_early (r : Routine ε T α) (w : World) (db : Db) (cut : Cut) (hcut : ∀ landed, cut ≠ .finish landed)
    (h : (b.run (some cut) r w db).1 = .dropped) : (b.run (some cut) r w db).2.2 = db := by
  cases r with
  | ret a => rfl
  | begin k body =>
    unfold Backend.run at h ⊢
    dsimp only at h ⊢
    split at h
    · next hc => rw [if_pos hc]
    · next hc =>
      rw [if_neg hc]
      split at h
      · nomatch h
      · split at h
        · exact absurd h (finish_not_dropped hcut _ _ _)
        · rfl
        · rfl

/-- A run that gets to its commit publishes its transaction. -/
theorem completed_of_commit {r : InboxError ε → α} {body : ConnProg ε T (Finish ε α)} {w w' w'' : World} {db : Db} {tx tx' : Tx}
    {k : Except (InboxError ε) Unit → α} (hb : b.begin w db = (.ok tx, w'))
    (hn : Prog.run (b.exec db) none body (w', tx) = (.returned (.commit k), w'', tx')) :
    b.completed (.begin r body) w db = some (b.publish tx' db) := by
  unfold Backend.completed
  dsimp only
  rw [hb]
  dsimp only
  rw [hn]

/-- However a run ends, it leaves the old state or the whole new one. -/
theorem run_whole (r : Routine ε T α) (w : World) (db : Db) (cut : Option Cut) :
    (b.run cut r w db).2.2 = db ∨ b.completed r w db = some (b.run cut r w db).2.2 := by
  cases r with
  | ret a => exact Or.inl rfl
  | begin k body =>
    unfold Backend.run
    dsimp only
    split
    · exact Or.inl rfl
    · split
      · exact Or.inl rfl
      · next tx w' hb =>
        split
        · next f w'' tx' hr =>
          have hn := Prog.run_none_of_returned _ hr
          rcases finish_whole cut f w'' tx' with h | ⟨⟨k', rfl⟩, h⟩
          · exact Or.inl h
          · right
            rw [h]
            exact completed_of_commit hb hn
        · exact Or.inl rfl
        · exact Or.inl rfl

/-- A future dropped before a commit is reached has committed nothing. -/
theorem run_dropped (r : Routine ε T α) (w : World) (db : Db) (cut : Cut)
    (hcut : ∀ landed, cut = .finish landed → b.completed r w db = none) (h : (b.run (some cut) r w db).1 = .dropped) :
    (b.run (some cut) r w db).2.2 = db := by
  by_cases hf : ∃ landed, cut = .finish landed
  · obtain ⟨landed, hf⟩ := hf
    rcases run_whole r w db (some cut) with h | h
    · exact h
    · rw [hcut landed hf] at h
      nomatch h
  · exact run_dropped_early r w db cut (fun landed hl => hf ⟨landed, hl⟩) h

/-- What a run whose transaction did not open did. -/
theorem events_of_begin_error (k : InboxError ε → α) (body : ConnProg ε T (Finish ε α)) {e : InboxError ε} {w' : World}
    (hb : b.begin w db = (.error e, w')) :
    b.events (.begin k body) w db = [.begin (.error e)] ∧ b.run none (.begin k body) w db = (.returned (k e), w', db) := by
  simp only [Backend.events, Backend.run, hb, reduceCtorEq, if_false, and_self]

/-- What a run whose transaction opened did: the calls of its body, and its end if the body returned. -/
theorem mem_events {k : InboxError ε → α} {body : ConnProg ε T (Finish ε α)} {tx : Tx} {w' : World}
    (hb : b.begin w db = (.ok tx, w')) {ev : StoreEvent ε T} (hev : ev ∈ b.events (.begin k body) w db) :
    ev = .begin (.ok ()) ∨ (∃ c r, ev = .call c r ∧ ⟨c, r⟩ ∈ Prog.trace (b.exec db) body (w', tx)) ∨
      ∃ f w'' tx', Prog.run (b.exec db) none body (w', tx) = (.returned f, w'', tx') ∧ ev ∈ b.finishEvents f w'' db tx' := by
  simp only [Backend.events, hb, List.cons_append, List.mem_cons, List.mem_append, List.mem_map] at hev
  rcases hev with h | ⟨⟨c, r⟩, hmem, rfl⟩ | h
  · exact Or.inl h
  · exact Or.inr (Or.inl ⟨c, r, rfl, hmem⟩)
  · split at h
    · next f w'' tx' hr => exact Or.inr (Or.inr ⟨f, w'', tx', hr, h⟩)
    · exact absurd h List.not_mem_nil

/-- A body that stops at the first failure and otherwise commits makes its function all or nothing. -/
theorem allOrNothing_of_stops {body : ConnProg ε T (Finish ε (Except (InboxError ε) α))}
    (h : StopsAtFailure (fun e => .drop (.error e)) Commits body) :
    AllOrNothing b (.begin .error body) (fun _ e => e) w db := by
  refine ⟨fun ev hev e he => ?_, fun e hev => ?_, fun cut => run_dropped _ w db cut, fun cut => run_whole _ w db cut⟩
  · rcases hb : b.begin w db with ⟨e' | tx, w'⟩
    · obtain ⟨hevents, hrun⟩ := events_of_begin_error .error body hb
      rw [hevents, List.mem_singleton] at hev
      subst hev
      cases he
      rw [hrun]
      exact ⟨rfl, rfl⟩
    · rcases mem_events hb hev with rfl | ⟨c, r, rfl, hmem⟩ | ⟨f, w'', tx', hr, hmem⟩
      · nomatch he
      · obtain ⟨⟨w'', tx'⟩, hrun⟩ := h.run_eq (b.exec db) hmem he
        rw [Backend.run_begin hb hrun]
        exact ⟨rfl, rfl⟩
      · rcases h.leaf_of_run (b.exec db) hr with ⟨k, rfl, _⟩ | ⟨e', rfl⟩
        · rw [Backend.finishEvents, List.mem_singleton] at hmem
          subst hmem
          nomatch he
        · exact absurd hmem List.not_mem_nil
  · rcases hb : b.begin w db with ⟨e' | tx, w'⟩
    · rw [(events_of_begin_error _ _ hb).1, List.mem_singleton] at hev
      nomatch hev
    · rcases mem_events hb hev with hev | ⟨c, r, hev, _⟩ | ⟨f, w'', tx', hr, hmem⟩
      · nomatch hev
      · nomatch hev
      · rcases h.leaf_of_run (b.exec db) hr with ⟨k, rfl, hk⟩ | ⟨e', rfl⟩
        · rw [Backend.finishEvents, List.mem_singleton] at hmem
          rw [Backend.run_begin hb hr]
          change Prog.Ended.returned (k (b.commit w'' db tx').1) = _
          rw [← StoreEvent.commit.inj hmem, hk]
        · exact absurd hmem List.not_mem_nil

/-- The four ways `process` goes on its transaction, with the calls it made. -/
theorem processInTx_cases {σ : Type} (exec : (c : Call) → σ → Reply ε T c × σ) (self : Consumer) (id : MessageId) (s : σ) :
    ∃ request s',
      (∃ e, Prog.run exec none (self.processInTx id) s = (.returned (.drop (.error e)), s') ∧
        Prog.trace exec (self.processInTx id) s = [⟨.claim request, .error e⟩]) ∨
      (Prog.run exec none (self.processInTx id) s = (.returned (.rollback fun r => r.map fun _ => .duplicate), s') ∧
        Prog.trace exec (self.processInTx id) s = [⟨.claim request, .ok .duplicate⟩]) ∨
      (∃ value, Prog.run exec none (self.processInTx id) s =
          (.returned (.commit fun r => r.map fun _ => .processed value), s') ∧
        Prog.trace exec (self.processInTx id) s = [⟨.claim request, .ok .fresh⟩, ⟨.handler id, .ok value⟩]) ∨
      ∃ he, Prog.run exec none (self.processInTx id) s = (.returned (.rollback fun _ => .error (.handler he)), s') ∧
        Prog.trace exec (self.processInTx id) s = [⟨.claim request, .ok .fresh⟩, ⟨.handler id, .error he⟩] := by
  rw [Consumer.processInTx_eq]
  generalize ({ ClaimRequest.new self.id id with lockTimeout := self.lockTimeout } : ClaimRequest) = request
  rcases hclaim : exec (.claim request) s with ⟨e | claim, s₁⟩
  · exact ⟨request, s₁, Or.inl ⟨e, by rw [Prog.run_call, hclaim, Prog.run_ret], by rw [Prog.trace, hclaim, Prog.trace]⟩⟩
  cases claim with
  | duplicate =>
    exact ⟨request, s₁, Or.inr (Or.inl
      ⟨by rw [Prog.run_call, hclaim, Prog.run_ret], by rw [Prog.trace, hclaim, Prog.trace]⟩)⟩
  | fresh =>
    rcases hhandler : exec (.handler id) s₁ with ⟨he | value, s₂⟩
    · exact ⟨request, s₂, Or.inr (Or.inr (Or.inr ⟨he,
        by rw [Prog.run_call, hclaim, Prog.run_call, hhandler, Prog.run_ret],
        by rw [Prog.trace, hclaim, Prog.trace, hhandler, Prog.trace]⟩))⟩
    · exact ⟨request, s₂, Or.inr (Or.inr (Or.inl ⟨value,
        by rw [Prog.run_call, hclaim, Prog.run_call, hhandler, Prog.run_ret],
        by rw [Prog.trace, hclaim, Prog.trace, hhandler, Prog.trace]⟩))⟩

/-- The calls of a run whose transaction opened and whose body returned. -/
theorem events_of_run {k : InboxError ε → α} {body : ConnProg ε T (Finish ε α)} {f : Finish ε α} {w' w'' : World} {tx tx' : Tx}
    {calls : List ((c : Call) × Reply ε T c)} (hb : b.begin w db = (.ok tx, w'))
    (hr : Prog.run (b.exec db) none body (w', tx) = (.returned f, w'', tx'))
    (ht : Prog.trace (b.exec db) body (w', tx) = calls) :
    b.events (.begin k body) w db =
      .begin (.ok ()) :: calls.map (fun ev => .call ev.1 ev.2) ++ b.finishEvents f w'' db tx' := by
  simp only [Backend.events, hb, hr, ht]

/-- A failed store call of `process`: nothing is committed, and the handler's error goes before that of the rollback. -/
theorem process_failure (self : Consumer) (id : MessageId) (ev : StoreEvent ε T)
    (hev : ev ∈ b.events (self.process id) w db) (e : InboxError ε) (he : ev.failure = some e) :
    (b.run none (self.process id) w db).1 = .returned (.error (reportedByProcess (b.events (self.process id) w db) e)) ∧
      (b.run none (self.process id) w db).2.2 = db := by
  unfold Consumer.process at hev ⊢
  rcases hb : b.begin w db with ⟨e' | tx, w'⟩
  · obtain ⟨hevents, hrun⟩ := events_of_begin_error .error (self.processInTx id) hb
    rw [hevents] at hev ⊢
    rw [List.mem_singleton] at hev
    subst hev
    cases he
    rw [hrun]
    exact ⟨rfl, rfl⟩
  obtain ⟨request, ⟨w'', tx'⟩, h⟩ := processInTx_cases (b.exec db) self id (w', tx)
  rcases h with ⟨e', hr, ht⟩ | ⟨hr, ht⟩ | ⟨value, hr, ht⟩ | ⟨he', hr, ht⟩ <;>
    rw [events_of_run hb hr ht] at hev ⊢ <;> rw [Backend.run_begin hb hr] <;>
    simp only [List.map_cons, List.map_nil, Backend.finishEvents, List.cons_append, List.nil_append, List.append_nil,
      List.mem_cons, List.not_mem_nil, or_false] at hev
  · rcases hev with rfl | rfl
    · nomatch he
    · cases he
      exact ⟨rfl, rfl⟩
  · rcases hev with rfl | rfl | rfl
    · nomatch he
    · nomatch he
    · change errorOf (b.rollback w'' db tx').1 = some e at he
      refine ⟨?_, rfl⟩
      change Prog.Ended.returned ((b.rollback w'' db tx').1.map fun _ => Outcome.duplicate) = _
      cases hrb : (b.rollback w'' db tx').1 with
      | ok u =>
        rw [hrb] at he
        nomatch he
      | error e' =>
        rw [hrb] at he
        cases he
        rfl
  · rcases hev with rfl | rfl | rfl | rfl
    · nomatch he
    · nomatch he
    · nomatch he
    · nomatch he
  · exact ⟨rfl, rfl⟩

/-- A failed commit of `process` is its error. -/
theorem process_commit (self : Consumer) (id : MessageId) (e : InboxError ε)
    (hev : .commit (.error e) ∈ b.events (self.process id) w db) :
    (b.run none (self.process id) w db).1 = .returned (.error e) := by
  unfold Consumer.process at hev ⊢
  rcases hb : b.begin w db with ⟨e' | tx, w'⟩
  · rw [(events_of_begin_error _ _ hb).1, List.mem_singleton] at hev
    nomatch hev
  obtain ⟨request, ⟨w'', tx'⟩, h⟩ := processInTx_cases (b.exec db) self id (w', tx)
  rcases h with ⟨e', hr, ht⟩ | ⟨hr, ht⟩ | ⟨value, hr, ht⟩ | ⟨he', hr, ht⟩ <;>
    rw [events_of_run hb hr ht] at hev <;> rw [Backend.run_begin hb hr] <;>
    simp only [List.map_cons, List.map_nil, Backend.finishEvents, List.cons_append, List.nil_append, List.append_nil,
      List.mem_cons, List.not_mem_nil, or_false, reduceCtorEq, false_or] at hev
  change Prog.Ended.returned ((b.commit w'' db tx').1.map fun _ => Outcome.processed value) = _
  rw [← StoreEvent.commit.inj hev]
  rfl

end Runs

end AtomicAux

open AtomicAux in
/-- All or nothing: `process` and `process_many`, on any backend, with any handler, from any state. -/
theorem process_allOrNothing (b : Backend ε T World Db Tx) (self : Consumer) (w : World) (db : Db) :
    (∀ id, AllOrNothing b (self.process id) reportedByProcess w db) ∧
      ∀ ids, AllOrNothing b (self.processMany ids) (fun _ e => e) w db := by
  refine ⟨fun id => ?_, fun ids => ?_⟩
  · exact ⟨process_failure self id, process_commit self id, fun cut => run_dropped _ w db cut,
      fun cut => run_whole _ w db cut⟩
  · unfold Consumer.processMany
    split
    · exact ⟨fun ev hev => absurd hev List.not_mem_nil, fun e hev => absurd hev List.not_mem_nil,
        fun cut => run_dropped _ w db cut, fun cut => run_whole _ w db cut⟩
    · exact allOrNothing_of_stops (processBatch_stops self ids)

end Txbox
