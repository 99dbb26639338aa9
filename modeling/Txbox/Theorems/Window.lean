import Txbox.Lemmas.Runs
import Txbox.Retention

/-!
# The retention window

When every purge keeps at least the rows of the last `window` microseconds, two executions of the same message are committed only
if the claim of the second inserted its row more than `window` after the `processed_at` of the first. A row is stamped with the clock at
the start of its transaction on PostgreSQL and of its claim statement on MySQL, both no later than the insertion. The statement itself
may have started within the window: one for several keys can wait for another key while the row is purged.
-/

namespace Txbox

open Lib InvariantAux

variable {ε T W : Type}

/-- Workers on PostgreSQL: `processed_at` is `now()`, the start of the transaction. -/
def PgInbox.config (locksKnown : Bool) (policies : RetentionPolicy → Prop) : Config where
  stamp started _ := started
  locksKnown := locksKnown
  mayPurge now processedAt := ∃ policy, policies policy ∧ PgInbox.purges policy now processedAt
  jobs := Job.Runs

/-- Workers on MySQL: `processed_at` is `UTC_TIMESTAMP(6)`, the start of the statement. -/
def MySqlInbox.config (locksKnown : Bool) (policies : RetentionPolicy → Prop) : Config where
  stamp _ statement := statement
  locksKnown := locksKnown
  mayPurge now processedAt := ∃ policy, policies policy ∧ MySqlInbox.purges policy now processedAt
  jobs := Job.Runs

/-- The successful handler executions of a commit, each with the row its claim inserted in the same commit. -/
def Work.executed (work : Work) : List (Key × Option Row) :=
  (work.effects.filter Prod.snd).map fun e => (e.1, work.inserted.find? fun row => row.key = e.1)

/-- The successful handler executions of an event. -/
def Event.executed : Event → List (Key × Option Row)
  | .committed work => work.executed
  | .purged _ => []

/-- Any two committed executions of one key are more than `window` apart: from the `processed_at` of the earlier to an instant of the
later one's claim. -/
def State.Apart (instant : Row → Int) (window : Nat) (s : State ε T W) : Prop :=
  (s.history.flatMap Event.executed).Pairwise fun later earlier => later.1 = earlier.1 →
    ∃ row old : Row, later.2 = some row ∧ earlier.2 = some old ∧ old.processedAt + window < instant row

/-- They are, up to the instant at which the later claim inserts its row. -/
def State.Deduplicated (window : Nat) (s : State ε T W) : Prop := s.Apart Row.claimedAt window

namespace WindowAux

/-- The invariant behind it: a committed row is still there with its stamp, or its window is over; and the window of every committed
row was over when an open transaction took its key. -/
structure WindowInv (window : Nat) (s : State ε T W) : Prop where
  sound : ∀ work, .committed work ∈ s.history → work.Clean ∧ work.Balanced
  past : ∀ work, .committed work ∈ s.history → ∀ row ∈ work.inserted,
    s.rows row.key = some row.processedAt ∨ row.processedAt + window < s.now
  claimed : ∀ w, ∀ row ∈ (s.phase w).rows, ∀ work, .committed work ∈ s.history → ∀ old ∈ work.inserted, old.key = row.key →
    old.processedAt + window < row.claimedAt
  deduplicated : s.Deduplicated window

/-- The row of an execution of balanced work. -/
theorem executed_row {work : Work} (hb : work.Balanced) {e : Key × Option Row} (he : e ∈ work.executed) :
    ∃ row ∈ work.inserted, row.key = e.1 ∧ e.2 = some row := by
  obtain ⟨⟨key, ok⟩, hmem, rfl⟩ := List.mem_map.1 he
  obtain ⟨hmem, _⟩ := List.mem_filter.1 hmem
  obtain ⟨key', hkey', heq⟩ := List.mem_map.1 (hb.mem_iff.1 hmem)
  cases heq
  exact find_of_mem_keys hkey'

/-- Balanced work executes no key twice. -/
theorem executed_pairwise {work : Work} (hc : work.Clean) (hb : work.Balanced) :
    work.executed.Pairwise fun later earlier => later.1 ≠ earlier.1 := by
  have hkeys : (work.effects.map Prod.fst).Perm work.keys := by
    have := hb.map Prod.fst
    rw [List.map_map] at this
    have hid : work.keys.map (Prod.fst ∘ fun key => (key, true)) = work.keys := List.map_id'' (fun _ => rfl) _
    rwa [hid] at this
  have hnodup : (work.effects.map Prod.fst).Nodup := hkeys.nodup_iff.2 hc.nodup
  unfold Work.executed
  rw [List.pairwise_map]
  have hsub : ((work.effects.filter Prod.snd).map Prod.fst).Nodup := hnodup.sublist (List.filter_sublist.map _)
  rw [List.Nodup, List.pairwise_map] at hsub
  exact hsub

/-- The stamp a commit gives to a row of clean work. -/
theorem publish_rows_of_row {s : State ε T W} {work : Work} (hc : work.Clean) {row : Row} (hrow : row ∈ work.inserted) :
    (s.publish work).rows row.key = some row.processedAt := by
  obtain ⟨row', hrow', hkey, h⟩ := publish_rows_of_mem (s := s) (List.mem_map_of_mem (f := Row.key) hrow)
  have heq : row' = row := List.inj_on_of_nodup_map hc.nodup hrow' hrow hkey
  rw [h, heq]

/-- A commit in the history after a purge was in it before. -/
theorem mem_history_of_purge {s : State ε T W} {keys : List Key} {work : Work} (h : .committed work ∈ (s.purge keys).history) :
    .committed work ∈ s.history := by
  rcases List.mem_cons.1 h with h | h
  · nomatch h
  · exact h

/-- A purge takes only rows that have left the window. -/
theorem windowInv_purge {window : Nat} {s : State ε T W} (h : WindowInv window s) {keys : List Key}
    (hkeys : ∀ key ∈ keys, ∃ processedAt, s.rows key = some processedAt ∧ processedAt + window < s.now) :
    WindowInv window (s.purge keys) := by
  refine ⟨?_, ?_, ?_, h.deduplicated⟩
  · intro work hwork
    exact h.sound work (mem_history_of_purge hwork)
  · intro work hwork row hrow
    rcases h.past work (mem_history_of_purge hwork) row hrow with hrec | hover
    · by_cases hk : row.key ∈ keys
      · obtain ⟨processedAt, hrow', hover⟩ := hkeys row.key hk
        rw [hrec] at hrow'
        cases hrow'
        exact Or.inr hover
      · refine Or.inl ?_
        simp only [State.purge, if_neg hk]
        exact hrec
    · exact Or.inr hover
  · intro w row hrow work hwork
    exact h.claimed w row hrow work (mem_history_of_purge hwork)

variable [DecidableEq W] {cfg : Config} {window : Nat} {s s' : State ε T W}

/-- What a commit adds. -/
theorem windowInv_commit (hI : Inv cfg s) (h : WindowInv window s) {w : W} {p : Phase ε T} {tx : Tx}
    (htx : (s.phase w).tx = some tx) (hc : tx.work.cur.Clean) (hb : tx.work.cur.Balanced) (hp : p.rows = []) :
    WindowInv window ((s.publish tx.work.cur).set w p) := by
  have hown : ∀ row ∈ tx.work.cur.inserted, row ∈ (s.phase w).rows := by
    intro row hrow
    simp only [Phase.rows, htx, Option.map_some, Option.getD_some, Tx.rows, List.flatMap_cons, List.mem_append]
    exact Or.inl hrow
  refine ⟨?_, ?_, ?_, ?_⟩
  · intro work hwork
    rcases List.mem_cons.1 hwork with hwork | hwork
    · cases hwork
      exact ⟨hc, hb⟩
    · exact h.sound work hwork
  · intro work hwork row hrow
    rcases List.mem_cons.1 hwork with hwork | hwork
    · cases hwork
      exact Or.inl (publish_rows_of_row (s := s) hc hrow)
    · rcases h.past work hwork row hrow with hrec | hover
      · refine Or.inl ?_
        have hk : row.key ∉ tx.work.cur.keys := by
          intro hmem
          obtain ⟨new, hnew, hkey⟩ := List.mem_map.1 hmem
          have hnone := hI.unrecorded w new (hown new hnew)
          rw [hkey, hrec] at hnone
          cases hnone
        exact (publish_rows_of_notMem (s := s) hc.deleted hk).trans hrec
      · exact Or.inr hover
  · refine forall_set (s := s.publish tx.work.cur) (P := fun _ q => ∀ row ∈ q.rows, ∀ work,
      .committed work ∈ (s.publish tx.work.cur).history → ∀ old ∈ work.inserted, old.key = row.key →
        old.processedAt + window < row.claimedAt) ?_ ?_
    · simp only [hp, List.not_mem_nil, false_implies, implies_true]
    · intro w' hne row hrow work hwork old hold hkey
      rcases List.mem_cons.1 hwork with hwork | hwork
      · cases hwork
        have hfree := notMem_keys_of_exclusive hI htx w' hne row.key (hI.locked w' row hrow)
        rw [← hkey] at hfree
        exact absurd (List.mem_map_of_mem hold) hfree
      · exact h.claimed w' row hrow work hwork old hold hkey
  · change ((tx.work.cur.executed ++ s.history.flatMap Event.executed).Pairwise _)
    rw [List.pairwise_append]
    refine ⟨(executed_pairwise hc hb).imp fun hne heq => absurd heq hne, h.deduplicated, ?_⟩
    intro later hlater earlier hearlier heq
    obtain ⟨row, hrow, hkey, hsome⟩ := executed_row hb hlater
    obtain ⟨ev, hev, hin⟩ := List.mem_flatMap.1 hearlier
    cases ev with
    | purged keys => exact absurd hin List.not_mem_nil
    | committed work =>
      obtain ⟨old, hold, hkey', hsome'⟩ := executed_row (h.sound work hev).2 hin
      have hsame : old.key = row.key := by rw [hkey, hkey', heq]
      exact ⟨row, old, hsome, hsome', h.claimed w row (hown row hrow) work hev old hold hsame⟩

/-- What a worker does on its own claims a row only where none is recorded, so the commits of its key are over. -/
theorem windowInv_change (h : WindowInv window s) {w : W} {p : Phase ε T} (hc : Change cfg s w p) :
    WindowInv window (s.set w p) := by
  refine ⟨h.sound, h.past, ?_, h.deduplicated⟩
  refine forall_set (P := fun _ q => ∀ row ∈ q.rows, ∀ work, .committed work ∈ s.history → ∀ old ∈ work.inserted,
    old.key = row.key → old.processedAt + window < row.claimedAt) ?_ fun w' _ => h.claimed w'
  intro row hrow work hwork old hold hkey
  obtain ⟨_, hnone, hrow | hnow⟩ := hc.rows row hrow
  · exact h.claimed w row hrow work hwork old hold hkey
  · rcases h.past work hwork old hold with hrec | hover
    · rw [hkey, hnone] at hrec
      nomatch hrec
    · rw [hnow]
      exact hover

/-- The invariant is kept by everything a step can do, if purges leave the window. -/
theorem windowInv_of_moved (hjobs : ∀ job, cfg.jobs job → job.Runs)
    (hpurge : ∀ now processedAt, cfg.mayPurge now processedAt → processedAt + window < now) (hI : Inv cfg s)
    (hm : Moved cfg s s') (h : WindowInv window s) : WindowInv window s' := by
  cases hm with
  | change hc => exact windowInv_change h hc
  | @commit w p job tx k hw hjob hleaf hp =>
    obtain ⟨_, hclean, hbal, _⟩ := hleaf
    refine windowInv_commit hI h (by rw [hw]; rfl) hclean (hbal (hjobs job hjob)) ?_
    rcases hp with rfl | ⟨r, rfl⟩
    · rfl
    · rfl
  | tick hnow =>
    refine ⟨h.sound, ?_, h.claimed, h.deduplicated⟩
    intro work hwork row hrow
    rcases h.past work hwork row hrow with hrec | hover
    · exact Or.inl hrec
    · exact Or.inr (by dsimp only; omega)
  | @purge keys clock hclock hkeys =>
    refine windowInv_purge h ?_
    intro key hkey
    obtain ⟨processedAt, hrow, hmay⟩ := hkeys key hkey
    have hover := hpurge _ _ hmay
    exact ⟨processedAt, hrow, by omega⟩

/-- Deduplication over the window, on any database whose purges leave it. -/
theorem deduplicated_of_reachable (hjobs : ∀ job, cfg.jobs job → job.Runs)
    (hpurge : ∀ now processedAt, cfg.mayPurge now processedAt → processedAt + window < now)
    (h : (machine cfg).Reachable s) : s.Deduplicated window := by
  have hinv : WindowInv window s := by
    refine h.invariant (I := WindowInv window) ?_ ?_
    · intro s hinit
      obtain ⟨_, hhist, hphase⟩ := hinit
      refine ⟨?_, ?_, ?_, ?_⟩
      · simp only [hhist, List.not_mem_nil, false_implies, implies_true]
      · simp only [hhist, List.not_mem_nil, false_implies, implies_true]
      · simp only [hhist, List.not_mem_nil, false_implies, implies_true]
      · rw [State.Deduplicated, State.Apart, hhist]
        exact List.Pairwise.nil
    · intro s s' hr ih hs
      have hI := inv_of_reachable hr
      exact windowInv_of_moved hjobs hpurge hI (moved_of_step hI hs) ih
  exact hinv.deduplicated

end WindowAux

open WindowAux in
/-- Deduplication over the retention window, on PostgreSQL and on MySQL: every purge is of a policy that keeps at least `window`
microseconds, and on MySQL fewer than 2^63. -/
theorem process_deduplicated [DecidableEq W] (locksKnown : Bool) (window : Nat) (policies : RetentionPolicy → Prop)
    (hp : ∀ policy, policies policy → window * 1000 ≤ policy.maxAge.asNanos) :
    (∀ s : State ε T W, (machine (PgInbox.config locksKnown policies)).Reachable s → s.Deduplicated window) ∧
      ((∀ policy, policies policy → policy.maxAge.asMicros < 2 ^ 63) →
        ∀ s : State ε T W, (machine (MySqlInbox.config locksKnown policies)).Reachable s → s.Deduplicated window) := by
  refine ⟨fun s hs => ?_, fun hbound s hs => ?_⟩
  · refine deduplicated_of_reachable (fun _ h => h) ?_ hs
    rintro now processedAt ⟨policy, hpolicy, h⟩
    exact PgInbox.lt_of_purges (hp policy hpolicy) h
  · refine deduplicated_of_reachable (fun _ h => h) ?_ hs
    rintro now processedAt ⟨policy, hpolicy, h⟩
    exact MySqlInbox.lt_of_purges (hp policy hpolicy) (hbound policy hpolicy) h

/-- A message processed, purged, and processed again. -/
theorem WindowAux.exists_again (cfg : Config) (hjobs : ∀ job, job.Runs → cfg.jobs job) (hpurge : cfg.mayPurge 100 (cfg.stamp 0 0)) :
    ∃ s : State String Nat Bool, (machine cfg).Reachable s ∧ (s.history.flatMap Event.executed).length = 2 := by
  have h0 : (machine cfg).Reachable (⟨fun _ => none, [], 0, fun _ => .idle⟩ : State String Nat Bool) := .init ⟨rfl, rfl, rfl⟩
  obtain ⟨s₁, h1, p₁⟩ := exists_processed h0 (fun _ => trivial) true ⟨⟨"orders", by decide⟩, none⟩ ⟨"m1", by decide⟩ 7 rfl
    (hjobs _ trivial)
  have h2 := h1.step (Or.inr (Or.inr (.tick (show s₁.now ≤ 100 by rw [p₁.now]; decide))))
  have hrow : s₁.rows (⟨"orders", by decide⟩, ⟨"m1", by decide⟩) = some (cfg.stamp 0 0) := by
    rw [p₁.rows, Function.update_self]
  have h3 := h2.step (Or.inr (Or.inr (.purge (show (100 : Int) ≤ 100 from le_rfl) (show ∀ key ∈
    [((⟨"orders", by decide⟩, ⟨"m1", by decide⟩) : Key)], ∃ processedAt, s₁.rows key = some processedAt ∧
      cfg.mayPurge 100 processedAt by simpa using ⟨_, hrow, hpurge⟩))))
  obtain ⟨s₄, h4, p₄⟩ := exists_processed h3 p₁.resting false ⟨⟨"orders", by decide⟩, none⟩ ⟨"m1", by decide⟩ 7
    (if_pos List.mem_cons_self) (hjobs _ trivial)
  refine ⟨s₄, h4, ?_⟩
  rw [p₄.history]
  simp only [State.purge, p₁.history]
  rfl

open WindowAux in
/-- With a window of five microseconds, on both databases: two executions, and they are apart. -/
theorem process_deduplicated_again :
    (∃ s : State String Nat Bool, (machine (PgInbox.config false fun policy => policy = .new ⟨5000, by decide⟩)).Reachable s ∧
      (s.history.flatMap Event.executed).length = 2 ∧ s.Deduplicated 5) ∧
    ∃ s : State String Nat Bool, (machine (MySqlInbox.config true fun policy => policy = .new ⟨5000, by decide⟩)).Reachable s ∧
      (s.history.flatMap Event.executed).length = 2 ∧ s.Deduplicated 5 := by
  have hpolicy : ∀ policy, policy = RetentionPolicy.new ⟨5000, by decide⟩ → 5 * 1000 ≤ policy.maxAge.asNanos := by
    rintro policy rfl
    decide
  have hbound : ∀ policy, policy = RetentionPolicy.new ⟨5000, by decide⟩ → policy.maxAge.asMicros < 2 ^ 63 := by
    rintro policy rfl
    decide
  obtain ⟨s, hs, htwo⟩ := exists_again (PgInbox.config false fun policy => policy = .new ⟨5000, by decide⟩)
    (fun _ h => h) ⟨_, rfl, by decide⟩
  obtain ⟨t, ht, htwo'⟩ := exists_again (MySqlInbox.config true fun policy => policy = .new ⟨5000, by decide⟩)
    (fun _ h => h) ⟨_, rfl, by decide⟩
  exact ⟨⟨s, hs, htwo, (process_deduplicated false 5 _ hpolicy).1 s hs⟩,
    ⟨t, ht, htwo', (process_deduplicated true 5 _ hpolicy).2 hbound t ht⟩⟩

/-! ## The start of the statement -/

namespace WindowAux

/-- The consumer of the run. -/
def buyer : Consumer := ⟨⟨"orders", by decide⟩, none⟩

/-- A message that stands first in a batch, -/
def firstId : MessageId := ⟨"m0", by decide⟩

/-- and the one that is processed twice. -/
def secondId : MessageId := ⟨"m1", by decide⟩

/-- The job whose claim waits. -/
def waiter : Job := .processMany buyer [firstId, secondId]

/-- Worker 2 has begun the claim of its batch at time 1 and taken nothing yet. It is time 100, the row of the second message, which was
processed at time 0, has been purged, and no one else is doing anything. -/
structure Waited (cfg : Config) (resume : Except (InboxError String) (List Claim) → ConnProg String Nat (Finish String (Answer String Nat)))
    (s : State String Nat (Fin 3)) : Prop where
  phase : s.phase 2 = .claiming waiter (Tx.begin 1 1) 1 buyer.id [firstId, secondId] [] resume
  resting : ∀ w, w ≠ 2 → (s.phase w).Resting
  now : s.now = 100
  rows : s.rows (buyer.id, firstId) = none ∧ s.rows (buyer.id, secondId) = none
  history : s.history = [.purged [(buyer.id, secondId)],
    .committed ⟨[⟨(buyer.id, secondId), cfg.stamp 0 0, 0, 0⟩], [], [((buyer.id, secondId), true)]⟩]

/-- A worker that begins to process a message while no lock is held, up to where its claim has taken the key. -/
theorem exists_claiming {cfg : Config} {s : State String Nat (Fin 3)} (h : (machine cfg).Reachable s) (hrest : ∀ w, (s.phase w).Resting)
    (w : Fin 3) (self : Consumer) (id : MessageId) (hjob : cfg.jobs (.process self id)) :
    ∃ tx claims resume, (machine cfg).Reachable (s.set w (.claiming (.process self id) tx s.now self.id [] claims resume)) := by
  have h1 := h.step (Or.inr (Or.inr (.start (hrest w) hjob)))
  have h2 := reachable_advance h1 (.begin (phase_set_self ..) rfl)
  have h3 := reachable_advance h2 (.claim (phase_set_self ..))
  exact ⟨_, _, _, reachable_advance h3 (.take (phase_set_self ..) (free_of_resting hrest w _ _))⟩

/-- Worker 0 processes the second message; worker 1 claims the first and holds it; worker 2 claims both and waits; the row of the second
message is purged; worker 1 goes away. -/
theorem exists_waited {cfg : Config} (hjobs : ∀ job, job.Runs → cfg.jobs job) (hpurge : cfg.mayPurge 100 (cfg.stamp 0 0)) :
    ∃ k resume s, waiter.routine = .begin k (.call (.claimMany (buyer.batch [firstId, secondId])) resume) ∧
      (machine cfg).Reachable s ∧ Waited cfg resume s := by
  have h0 : (machine cfg).Reachable (⟨fun _ => none, [], 0, fun _ => .idle⟩ : State String Nat (Fin 3)) := .init ⟨rfl, rfl, rfl⟩
  obtain ⟨⟨rows, history, now, phase⟩, h1, ⟨hrows, hhistory, hnow, hrest⟩⟩ :=
    exists_processed h0 (fun _ => trivial) 0 buyer secondId 7 rfl (hjobs _ trivial)
  dsimp only at hrows hhistory hnow hrest
  subst hrows hhistory hnow
  have h2 := h1.step (Or.inr (Or.inr (.tick (show (0 : Int) ≤ 1 by decide))))
  obtain ⟨tx, claims, resume, h3⟩ := exists_claiming h2 hrest 1 buyer firstId (hjobs _ trivial)
  have h4 := h3.step (Or.inr (Or.inr (.start (show (State.phase _ 2).Resting from hrest 2) (hjobs waiter trivial))))
  have h5 := reachable_advance h4 (.begin (phase_set_self ..) rfl)
  have h6 := reachable_advance h5 (.claimMany (phase_set_self ..))
  have h7 := h6.step (Or.inr (Or.inr (.tick (show (1 : Int) ≤ 100 by decide))))
  have h8 := h7.step (Or.inr (Or.inr (.purge (show (100 : Int) ≤ 100 from le_rfl) (show ∀ key ∈ [(buyer.id, secondId)],
    ∃ processedAt, State.rows _ key = some processedAt ∧ cfg.mayPurge 100 processedAt by simpa using hpurge))))
  have h9 := h8.step (Or.inr (Or.inl ⟨1, .dropClaiming
    (show State.phase _ 1 = .claiming (.process buyer firstId) tx 1 buyer.id [] claims resume from rfl)⟩))
  have h10 := reachable_advance h9 (.abandoned (phase_set_self ..))
  refine ⟨_, _, _, rfl, h10, rfl, ?_, rfl, ⟨rfl, rfl⟩, rfl⟩
  intro w hw
  match w, hw with
  | 0, _ => exact hrest 0
  | 1, _ => trivial
  | 2, hw => exact absurd rfl hw

/-- Worker 2 goes on: it inserts both rows at time 100, runs both handlers and commits. -/
theorem exists_apart_not {cfg : Config} (hjobs : ∀ job, job.Runs → cfg.jobs job) (hstamp : ∀ now, cfg.stamp now now = now)
    (hpurge : cfg.mayPurge 100 0) : ∃ s : State String Nat (Fin 3), (machine cfg).Reachable s ∧ ¬s.Apart Row.statementAt 5 := by
  rw [← hstamp 0] at hpurge
  obtain ⟨k, resume, s, hbody, h, hphase, hrest, hnow, ⟨hfirst, hsecond⟩, hhistory⟩ := exists_waited hjobs hpurge
  cases hbody
  have hfree : ∀ p key, (s.set 2 p).Free 2 key := by
    intro p key w hw
    rw [phase_set_of_ne hw, locks_of_resting (hrest w hw)]
    exact List.not_mem_nil
  have hself : s = s.set 2 (s.phase 2) := by simp [State.set]
  rw [hself, hphase] at h
  have hfresh : (Tx.begin 1 1).take cfg s.rows 100 1 (buyer.id, firstId) =
      (.fresh, { Tx.begin 1 1 with work := Nested.start ⟨[⟨(buyer.id, firstId), cfg.stamp 1 1, 1, 100⟩], [], []⟩,
                                   locks := [(buyer.id, firstId)] }) := by
    unfold Tx.take
    rw [hfirst]
    rfl
  have h1 := reachable_advance h (.take (phase_set_self ..) (hfree _ _))
  simp only [rows_set, now_set, hnow, hfresh] at h1
  have hfresh' : ({ Tx.begin 1 1 with work := Nested.start ⟨[⟨(buyer.id, firstId), cfg.stamp 1 1, 1, 100⟩], [], []⟩,
                                      locks := [(buyer.id, firstId)] } : Tx).take cfg s.rows 100 1 (buyer.id, secondId) =
      (.fresh, { Tx.begin 1 1 with
        work := Nested.start ⟨[⟨(buyer.id, firstId), cfg.stamp 1 1, 1, 100⟩, ⟨(buyer.id, secondId), cfg.stamp 1 1, 1, 100⟩], [], []⟩,
        locks := [(buyer.id, secondId), (buyer.id, firstId)] }) := by
    unfold Tx.take
    rw [hsecond]
    rfl
  have h2 := reachable_advance h1 (.take (phase_set_self ..) (hfree _ _))
  simp only [rows_set, now_set, hnow, hfresh'] at h2
  have h3 := reachable_advance h2 (.claimed (phase_set_self ..))
  have h4 := reachable_advance h3 (.call (phase_set_self ..) (fun _ _ => hfree _ _) .savepoint)
  have h5 := reachable_advance h4 (.call (phase_set_self ..) (fun _ _ => hfree _ _) (.handlerOk 7))
  have h6 := reachable_advance h5 (.call (phase_set_self ..) (fun _ _ => hfree _ _) (.releaseAndSavepoint rfl))
  have h7 := reachable_advance h6 (.call (phase_set_self ..) (fun _ _ => hfree _ _) (.handlerOk 7))
  have h8 := reachable_advance h7 (.call (phase_set_self ..) (fun _ _ => hfree _ _) (.release rfl))
  have h9 := h8.step (Or.inl ⟨2, .commit (phase_set_self ..) rfl⟩)
  refine ⟨_, h9, ?_⟩
  -- The second message was executed at time 0 and again in a statement of time 1.
  intro hapart
  simp only [State.Apart, history_set, State.publish, hhistory] at hapart
  change List.Pairwise _ [
    ((buyer.id, firstId), some (⟨(buyer.id, firstId), cfg.stamp 1 1, 1, 100⟩ : Row)),
    ((buyer.id, secondId), some ⟨(buyer.id, secondId), cfg.stamp 1 1, 1, 100⟩),
    ((buyer.id, secondId), some ⟨(buyer.id, secondId), cfg.stamp 0 0, 0, 0⟩)] at hapart
  simp only [List.pairwise_cons] at hapart
  obtain ⟨row, old, hrow, hold, hlt⟩ := hapart.2.1 _ List.mem_cons_self rfl
  cases hrow
  cases hold
  rw [hstamp] at hlt
  dsimp only at hlt
  omega

end WindowAux

open WindowAux in
/-- On both databases, with purges of rows older than five microseconds only: the second of two executions of one message may come from
a claim statement that started one microsecond after the `processed_at` of the first. It waited for another key of its batch while the
row was purged. -/
theorem process_not_apart_waiting :
    (∃ s : State String Nat (Fin 3), (machine (PgInbox.config false fun policy => policy = .new ⟨5000, by decide⟩)).Reachable s ∧
      ¬s.Apart Row.statementAt 5) ∧
    ∃ s : State String Nat (Fin 3), (machine (MySqlInbox.config true fun policy => policy = .new ⟨5000, by decide⟩)).Reachable s ∧
      ¬s.Apart Row.statementAt 5 := by
  refine ⟨exists_apart_not (fun _ h => h) (fun _ => rfl) ⟨_, rfl, ?_⟩, exists_apart_not (fun _ h => h) (fun _ => rfl) ⟨_, rfl, ?_⟩⟩
  · decide
  · decide

end Txbox
