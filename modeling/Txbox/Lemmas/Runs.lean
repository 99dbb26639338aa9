import Txbox.Lemmas.Invariant

/-!
# Runs

That what the theorems about whole runs speak of does happen: a worker that is alone processes a message that is not recorded, from
its start to its commit.
-/

namespace Txbox

open Lib InvariantAux

variable {ε T W : Type} {cfg : Config} [DecidableEq W]

/-- The history only grows. -/
theorem history_of_moved {s s' : State ε T W} (hm : Moved cfg s s') : ∃ newer, s'.history = newer ++ s.history := by
  cases hm with
  | change hc => exact ⟨[], rfl⟩
  | tick h => exact ⟨[], rfl⟩
  | @commit w p job tx k hw hjob hleaf hp => exact ⟨[.committed tx.work.cur], rfl⟩
  | @purge keys clock hclock h => exact ⟨[.purged keys], rfl⟩

/-- One more step of a worker whose state was set last. -/
theorem reachable_advance {s : State ε T W} {w : W} {p q : Phase ε T} (h : (machine cfg).Reachable (s.set w p))
    (ha : Advance cfg (s.set w p) w ((s.set w p).set w q)) : (machine cfg).Reachable (s.set w q) := by
  have hset : (s.set w p).set w q = s.set w q := by simp only [State.set, Function.update_idem]
  rw [← hset]
  exact h.step (Or.inl ⟨w, ha⟩)

/-- What one worker leaves when it has processed a message at one instant, alone. -/
structure Processed (cfg : Config) (s : State ε T W) (key : Key) (s' : State ε T W) : Prop where
  rows : s'.rows = Function.update s.rows key (some (cfg.stamp s.now s.now))
  history : s'.history = .committed ⟨[⟨key, cfg.stamp s.now s.now, s.now, s.now⟩], [], [(key, true)]⟩ :: s.history
  now : s'.now = s.now
  resting : ∀ w, (s'.phase w).Resting

/-- A worker between two jobs holds no lock. -/
theorem locks_of_resting {p : Phase ε T} (h : p.Resting) : p.locks = [] := by
  cases p with
  | idle => rfl
  | returned job mark a => rfl
  | opening job => exact h.elim
  | running job tx prog => exact h.elim
  | claiming job tx statement consumer todo claims resume => exact h.elim
  | closing job tx answer => exact h.elim

/-- No lock is held while all workers rest. -/
theorem free_of_resting {s : State ε T W} (h : ∀ w, (s.phase w).Resting) (w : W) (p : Phase ε T) (key : Key) :
    (s.set w p).Free w key := by
  intro w' hne
  rw [phase_set_of_ne hne, locks_of_resting (h w')]
  exact List.not_mem_nil

/-- A worker that is alone processes a message that is not recorded. -/
theorem exists_processed {s : State ε T W} (h0 : (machine cfg).Reachable s) (hrest : ∀ w, (s.phase w).Resting) (w : W)
    (self : Consumer) (id : MessageId) (value : T) (hnone : s.rows (self.id, id) = none) (hjob : cfg.jobs (.process self id)) :
    ∃ s' : State ε T W, (machine cfg).Reachable s' ∧ Processed cfg s (self.id, id) s' := by
  have hfree := free_of_resting hrest w
  have htake : (Tx.begin s.now s.history.length).take cfg s.rows s.now s.now (self.id, id) =
      (.fresh, { Tx.begin s.now s.history.length with
        work := Nested.start ⟨[⟨(self.id, id), cfg.stamp s.now s.now, s.now, s.now⟩], [], []⟩, locks := [(self.id, id)] }) := by
    unfold Tx.take
    rw [hnone]
    rfl
  have h1 := h0.step (Or.inr (Or.inr (.start (hrest w) hjob)))
  have h2 := reachable_advance h1 (.begin (phase_set_self ..) rfl)
  have h3 := reachable_advance h2 (.claim (phase_set_self ..))
  have h4 := reachable_advance h3 (.take (phase_set_self ..) (hfree _ _))
  simp only [rows_set, now_set, history_set] at h4
  dsimp only [ClaimRequest.new] at h4
  rw [htake] at h4
  have h5 := reachable_advance h4 (.claimed (phase_set_self ..))
  have h6 := reachable_advance h5 (.call (phase_set_self ..) (fun _ _ => hfree _ _) (.handlerOk value))
  have h7 := h6.step (Or.inl ⟨w, .commit (phase_set_self ..) rfl⟩)
  refine ⟨_, h7, ?_, rfl, rfl, ?_⟩
  · funext key
    by_cases hk : key = (self.id, id)
    · subst hk
      simp [State.publish, Nested.start, Work.apply]
    · rw [Function.update_of_ne hk]
      simp [State.publish, Nested.start, Work.apply, Ne.symm hk]
  · intro v
    by_cases hv : v = w
    · subst hv
      rw [phase_set_self]
      trivial
    · rw [phase_set_of_ne hv]
      change ((s.set w _).phase v).Resting
      rw [phase_set_of_ne hv]
      exact hrest v

end Txbox
