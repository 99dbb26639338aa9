import Txbox.Lemmas.Runs
import Txbox.Lib.LockOrder

/-!
# Batches never deadlock

A claim takes its keys in the order of the batch, and the batch is strictly increasing by bytes; the only other call that locks a key,
`unclaim`, locks one the transaction has already. So no workers wait for each other in a circle, and while any worker is in a job,
some worker can go on.
-/

namespace Txbox

open Lib InvariantAux

variable {ε T W : Type} {cfg : Config}

/-- `w` has to lock a key that the transaction of `w'` has locked. -/
def State.WaitsFor (s : State ε T W) : W → W → Prop :=
  Blocked (fun w => (s.phase w).wants) (fun w key => key ∈ (s.phase w).locks)

namespace DeadlockAux

/-- The next key of a claim. -/
def next : Phase ε T → Option Key
  | .claiming _ _ _ consumer (id :: _) _ _ => some (consumer, id)
  | _ => none

/-- A worker with a next key is in a claim. -/
theorem claiming_of_next {p : Phase ε T} {key : Key} (h : next p = some key) :
    ∃ job tx statement todo claims resume, p = .claiming job tx statement key.1 (key.2 :: todo) claims resume := by
  cases p with
  | claiming job tx statement consumer todo claims resume =>
    cases todo with
    | nil => nomatch h
    | cons id todo =>
      cases h
      exact ⟨job, tx, statement, todo, claims, resume, rfl⟩
  | idle => nomatch h
  | opening job => nomatch h
  | running job tx prog => nomatch h
  | closing job tx answer => nomatch h
  | returned job mark answer => nomatch h

/-- A worker that has to lock a key is in a claim, or about to make an `unclaim`. -/
theorem wants_cases {p : Phase ε T} {key : Key} (h : p.wants = some key) :
    next p = some key ∨ ∃ job tx k, p = .running job tx (.call (.unclaim key.1 key.2) k) := by
  cases p with
  | claiming job tx statement consumer todo claims resume =>
    cases todo with
    | nil => nomatch h
    | cons id todo => exact Or.inl h
  | running job tx prog =>
    cases prog with
    | ret f => nomatch h
    | panic m => nomatch h
    | call c k =>
      cases c with
      | unclaim consumer id =>
        cases h
        exact Or.inr ⟨job, tx, k, rfl⟩
      | claim request => nomatch h
      | claimMany batch => nomatch h
      | savepoint => nomatch h
      | releaseAndSavepoint => nomatch h
      | release => nomatch h
      | rollbackTo => nomatch h
      | handler id => nomatch h
  | idle => nomatch h
  | opening job => nomatch h
  | closing job tx answer => nomatch h
  | returned job mark answer => nomatch h

/-- A claim has locked only smaller ids than the one it takes next. -/
theorem orderedLocking {s : State ε T W} (hI : Inv cfg s) :
    OrderedLocking Prod.snd (fun w => next (s.phase w)) (fun w key => key ∈ (s.phase w).locks) := by
  intro w key hnext held hheld
  have hsound := hI.sound w
  obtain ⟨job, tx, statement, todo, claims, resume, hp⟩ := claiming_of_next hnext
  rw [hp] at hheld hsound
  exact hsound.2.2.2.1 held hheld key.2 List.mem_cons_self

/-- An `unclaim` has its key already. -/
theorem free_of_unclaim {s : State ε T W} (hI : Inv cfg s) {w : W} {job : Job} {tx : Tx} {consumer : ConsumerId} {id : MessageId}
    {k : Reply ε T (.unclaim consumer id) → ConnProg ε T (Finish ε (Answer ε T))}
    (h : s.phase w = .running job tx (.call (.unclaim consumer id) k)) : s.Free w (consumer, id) := by
  have hsound := hI.sound w
  have hlocked := hI.locked w
  rw [h] at hsound hlocked
  obtain ⟨row, hrow, hkey⟩ := List.mem_map.1 hsound.2.1
  have hlock := hlocked row (List.mem_append_left _ hrow)
  rw [hkey] at hlock
  intro w' hne
  refine hI.exclusive w w' (Ne.symm hne) (consumer, id) ?_
  rw [h]
  exact hlock

/-- Only claims wait. -/
theorem blocked_next_of_waitsFor {s : State ε T W} (hI : Inv cfg s) {w w' : W} (h : s.WaitsFor w w') :
    Blocked (fun w => next (s.phase w)) (fun w key => key ∈ (s.phase w).locks) w w' := by
  obtain ⟨hne, key, hwants, hheld⟩ := h
  rcases wants_cases hwants with hnext | ⟨job, tx, k, hp⟩
  · exact ⟨hne, key, hnext, hheld⟩
  · exact absurd hheld (free_of_unclaim hI hp w' (Ne.symm hne))

section Progress

variable [DecidableEq W] {s : State ε T W} {w : W}

/-- A worker that runs its function can make the next call, or end. -/
theorem running_advances (hI : Inv cfg s) {job : Job} {tx : Tx} {prog : ConnProg ε T (Finish ε (Answer ε T))}
    (h : s.phase w = .running job tx prog) : ∃ s', Advance cfg s w s' := by
  have hsound := hI.sound w
  rw [h] at hsound
  obtain ⟨_, hwp⟩ := hsound
  have hnone : ∀ {c : Call} {k : Reply ε T c → ConnProg ε T (Finish ε (Answer ε T))}, prog = .call c k →
      (s.phase w).wants = none → ∀ key, (s.phase w).wants = some key → s.Free w key := by
    intro c k _ hw key hkey
    rw [hw] at hkey
    nomatch hkey
  cases prog with
  | panic m => exact hwp.elim
  | ret f =>
    cases f with
    | drop a => exact ⟨_, .drop h⟩
    | rollback k => exact ⟨_, .rollback h⟩
    | commit k => exact ⟨_, .commit h hwp.1⟩
  | call c k =>
    have hpre := hwp.1
    cases c with
    | claim request => exact ⟨_, .claim h⟩
    | claimMany batch => exact ⟨_, .claimMany h⟩
    | savepoint => exact ⟨_, .call h (hnone rfl (by rw [h]; rfl)) .savepoint⟩
    | releaseAndSavepoint =>
      obtain ⟨work, hwork⟩ := Nested.exists_release hpre
      exact ⟨_, .call h (hnone rfl (by rw [h]; rfl)) (.releaseAndSavepoint hwork)⟩
    | release =>
      obtain ⟨work, hwork⟩ := Nested.exists_release hpre
      exact ⟨_, .call h (hnone rfl (by rw [h]; rfl)) (.release hwork)⟩
    | rollbackTo =>
      obtain ⟨work, hwork⟩ := Nested.exists_rollbackTo hpre
      exact ⟨_, .call h (hnone rfl (by rw [h]; rfl)) (.rollbackTo hwork)⟩
    | unclaim consumer id =>
      refine ⟨_, .call h ?_ .unclaim⟩
      intro key hkey
      rw [h] at hkey
      cases hkey
      exact free_of_unclaim hI h
    | handler id => exact ⟨_, .call h (hnone rfl (by rw [h]; rfl)) (.handlerErr (.text ""))⟩

/-- A worker in a job can go on, or waits for another that is in a job. -/
theorem advances_or_waits (hI : Inv cfg s) (hw : ¬(s.phase w).Resting) :
    (∃ s', Advance cfg s w s') ∨ ∃ w', ¬(s.phase w').Resting ∧ s.WaitsFor w w' := by
  cases hp : s.phase w with
  | idle =>
    rw [hp] at hw
    exact absurd trivial hw
  | returned job mark a =>
    rw [hp] at hw
    exact absurd trivial hw
  | opening job =>
    cases hr : (job.routine : Routine ε T (Answer ε T)) with
    | ret a => exact Or.inl ⟨_, .skip hp hr⟩
    | begin k body => exact Or.inl ⟨_, .begin hp hr⟩
  | running job tx prog => exact Or.inl (running_advances hI hp)
  | closing job tx answer =>
    cases answer with
    | none => exact Or.inl ⟨_, .abandoned hp⟩
    | some a => exact Or.inl ⟨_, .closed hp⟩
  | claiming job tx statement consumer todo claims resume =>
    cases todo with
    | nil => exact Or.inl ⟨_, .claimed hp⟩
    | cons id todo =>
      by_cases hfree : s.Free w (consumer, id)
      · exact Or.inl ⟨_, .take hp hfree⟩
      · unfold State.Free at hfree
        push Not at hfree
        obtain ⟨w', hne, hheld⟩ := hfree
        refine Or.inr ⟨w', ?_, Ne.symm hne, (consumer, id), by dsimp only; rw [hp]; rfl, hheld⟩
        intro hrest
        rw [locks_of_resting hrest] at hheld
        exact absurd hheld List.not_mem_nil

end Progress

end DeadlockAux

open DeadlockAux in
/-- No circle of workers that wait for each other can be reached, and while a worker is in a job some worker in a job can take a step
in which nothing fails. -/
theorem claimMany_deadlockFree [DecidableEq W] [Finite W] {s : State ε T W} (h : (machine cfg).Reachable s) :
    (∀ w, ¬Relation.TransGen s.WaitsFor w w) ∧
      ∀ w, ¬(s.phase w).Resting → ∃ w' s', ¬(s.phase w').Resting ∧ Advance cfg s w' s' := by
  have hI := inv_of_reachable h
  have hord := orderedLocking hI
  have hmono : ∀ w w', s.WaitsFor w w' →
      Blocked (fun w => next (s.phase w)) (fun w key => key ∈ (s.phase w).locks) w w' :=
    fun w w' => blocked_next_of_waitsFor hI
  refine ⟨fun w hcycle => hord.acyclic w (Relation.TransGen.mono hmono _ _ hcycle), fun w hw => ?_⟩
  obtain ⟨w', hw', s', hs'⟩ := hord.exists_free (P := fun w => ¬(s.phase w).Resting)
    (fun w hw => (advances_or_waits hI hw).imp id fun ⟨w', hw', hb⟩ => ⟨w', hw', hmono w w' hb⟩) hw
  exact ⟨w', s', hw', hs'⟩

/-- Two batches that begin with the same id: the second waits for the first. -/
theorem exists_waiting [DecidableEq W] (cfg : Config) {s : State ε T W} (h : s.Initial) {w w' : W} (hne : w' ≠ w) (self : Consumer)
    {x y id : MessageId} {xs ys rest rest' : List MessageId} (hx : sortUniq (x :: xs) = id :: rest)
    (hy : sortUniq (y :: ys) = id :: rest') (hjobs : ∀ ids, cfg.jobs (.processMany self ids)) :
    ∃ s' : State ε T W, (machine cfg).Reachable s' ∧ s'.WaitsFor w' w ∧ ¬(s'.phase w').Resting := by
  have hbatch : (self.batch (x :: xs)).ids = id :: rest := hx
  have hbatch' : (self.batch (y :: ys)).ids = id :: rest' := hy
  have hidle : ∀ v, (s.phase v).Resting := by
    intro v
    rw [h.2.2]
    trivial
  have h0 : (machine cfg).Reachable s := .init h
  have h1 := h0.step (Or.inr (Or.inr (.start (hidle w) (hjobs (x :: xs)))))
  have h2 := reachable_advance h1 (.begin (phase_set_self ..) rfl)
  have h3 := reachable_advance h2 (.claimMany (phase_set_self ..))
  rw [hbatch] at h3
  have h4 := reachable_advance h3 (.take (phase_set_self ..) (free_of_resting hidle w _ _))
  have hlock : (self.id, id) ∈ ((Tx.begin s.now s.history.length).take cfg s.rows s.now s.now (self.id, id)).2.locks := by
    unfold Tx.take
    rw [h.1]
    exact List.mem_cons_self
  generalize hp : Phase.claiming _ _ _ _ _ _ _ = p at h4
  have hheld : (self.id, id) ∈ p.locks := by
    rw [← hp]
    exact hlock
  have hrest : ((s.set w p).phase w').Resting := by
    rw [phase_set_of_ne hne]
    exact hidle w'
  have h5 := h4.step (Or.inr (Or.inr (.start hrest (hjobs (y :: ys)))))
  have h6 := reachable_advance h5 (.begin (phase_set_self ..) rfl)
  have h7 := reachable_advance h6 (.claimMany (phase_set_self ..))
  rw [hbatch'] at h7
  refine ⟨_, h7, ⟨hne, (self.id, id), ?_, ?_⟩, ?_⟩
  · dsimp only
    rw [phase_set_self]
    rfl
  · dsimp only
    rw [phase_set_of_ne hne.symm, phase_set_self]
    exact hheld
  · rw [phase_set_self]
    exact fun hrest => hrest

/-- Two workers with crossed batches: one waits for the other, and one can go on. -/
theorem claimMany_deadlockFree_crossed :
    ∃ s : State String Nat Bool, (machine ⟨fun _ statement => statement, true, fun _ _ => True, fun _ => True⟩).Reachable s ∧
      s.WaitsFor false true ∧ ¬Relation.TransGen s.WaitsFor false false ∧
      ∃ w' s', ¬(s.phase w').Resting ∧
        Advance ⟨fun _ statement => statement, true, fun _ _ => True, fun _ => True⟩ s w' s' := by
  have hinit : State.Initial (⟨fun _ => none, [], 0, fun _ => .idle⟩ : State String Nat Bool) := ⟨rfl, rfl, rfl⟩
  have hba : sortUniq ([⟨"b", by decide⟩, ⟨"a", by decide⟩] : List MessageId) = [⟨"a", by decide⟩, ⟨"b", by decide⟩] := by decide
  have hab : sortUniq ([⟨"a", by decide⟩, ⟨"b", by decide⟩] : List MessageId) = [⟨"a", by decide⟩, ⟨"b", by decide⟩] := by decide
  obtain ⟨s, hs, hwaits, hw⟩ := exists_waiting ⟨fun _ statement => statement, true, fun _ _ => True, fun _ => True⟩ hinit
    Bool.false_ne_true ⟨⟨"orders", by decide⟩, none⟩ hba hab fun _ => trivial
  have hfree := claimMany_deadlockFree hs
  exact ⟨s, hs, hwaits, hfree.1 false, hfree.2 false hw⟩

end Txbox
