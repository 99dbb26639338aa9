import Txbox.Lemmas.Runs

/-!
# Exactly once

Workers that run `process` and `process_many`, interleaved in any way, failing and dying anywhere, with purges in between: a row is
committed exactly when one successful execution of its handler has been committed since the row was last purged, and there is never
more than one. What a worker reports as processed or duplicate was committed while it worked.
-/

namespace Txbox

open Lib InvariantAux

variable {ε T W : Type} {cfg : Config}

/-- The successful handler executions of a key whose effects were committed since its row was last purged. -/
def executions (key : Key) : List Event → Nat
  | [] => 0
  | .purged keys :: older => if keys.contains key then 0 else executions key older
  | .committed work :: older => work.effects.count (key, true) + executions key older

/-- The row is committed exactly when one successful execution is, and never more than one is. -/
def State.Once (s : State ε T W) (key : Key) : Prop :=
  ((s.rows key).isSome ↔ executions key s.history = 1) ∧ executions key s.history ≤ 1

/-- Only executions whose handler returned `Ok` have been committed. -/
def State.OnlyOk (s : State ε T W) : Prop := ∀ work, .committed work ∈ s.history → ∀ e ∈ work.effects, e.2 = true

namespace ExactlyOnceAux

/-- The executions of a key in a balanced commit: one if its row is there. -/
theorem count_of_balanced {work : Work} (hn : work.keys.Nodup) (hb : work.Balanced) (key : Key) :
    work.effects.count (key, true) = if key ∈ work.keys then 1 else 0 := by
  have hinj : Function.Injective fun k : Key => (k, true) := fun a b h => (Prod.mk.inj h).1
  rw [hb.count_eq, List.count_map_of_injective _ _ hinj]
  by_cases hk : key ∈ work.keys
  · rw [if_pos hk, List.count_eq_one_of_mem hn hk]
  · rw [if_neg hk, List.count_eq_zero_of_not_mem hk]

/-- A commit of balanced work over rows that are not recorded. -/
theorem once_publish {s : State ε T W} {work : Work} {key : Key} (hclean : work.Clean) (hb : work.Balanced)
    (hnone : key ∈ work.keys → s.rows key = none) (h : s.Once key) : (s.publish work).Once key := by
  obtain ⟨hiff, hle⟩ := h
  have hcount : executions key (s.publish work).history =
      (if key ∈ work.keys then 1 else 0) + executions key s.history := by
    simp only [State.publish, executions, count_of_balanced hclean.nodup hb]
  by_cases hk : key ∈ work.keys
  · have hzero : executions key s.history = 0 := by
      rw [hnone hk] at hiff
      have hne : executions key s.history ≠ 1 := by
        intro h1
        cases hiff.2 h1
      omega
    obtain ⟨row, _, _, hrow⟩ := publish_rows_of_mem (s := s) hk
    refine ⟨?_, ?_⟩
    · rw [hrow, hcount, if_pos hk, hzero]
      simp
    · rw [hcount, if_pos hk, hzero]
  · refine ⟨?_, ?_⟩
    · rw [publish_rows_of_notMem hclean.deleted hk, hcount, if_neg hk, Nat.zero_add]
      exact hiff
    · rw [hcount, if_neg hk, Nat.zero_add]
      exact hle

/-- A purge. -/
theorem once_purge {s : State ε T W} {keys : List Key} {key : Key} (h : s.Once key) : (s.purge keys).Once key := by
  unfold State.Once
  simp only [State.purge, executions, List.contains_iff_mem]
  by_cases hk : key ∈ keys
  · simp [hk]
  · simp only [if_neg hk]
    exact h

variable [DecidableEq W]

/-- Both properties are kept by everything a step can do. -/
theorem once_of_moved {s s' : State ε T W} (hjobs : ∀ job, cfg.jobs job → job.Runs) (hI : Inv cfg s) (hm : Moved cfg s s')
    (h : (∀ key, s.Once key) ∧ s.OnlyOk) : (∀ key, s'.Once key) ∧ s'.OnlyOk := by
  obtain ⟨honce, hok⟩ := h
  cases hm with
  | change hc => exact ⟨honce, hok⟩
  | @commit w p job tx k hw hjob hleaf hp =>
    obtain ⟨_, hclean, hbal, _⟩ := hleaf
    have hb := hbal (hjobs job hjob)
    refine ⟨fun key => ?_, fun work hwork e he => ?_⟩
    · refine once_publish (s := s) hclean hb ?_ (honce key)
      intro hkey
      obtain ⟨row, hrow, rfl⟩ := List.mem_map.1 hkey
      refine hI.unrecorded w row ?_
      rw [hw]
      exact List.mem_append_left _ hrow
    · rcases List.mem_cons.1 hwork with hwork | hwork
      · cases hwork
        obtain ⟨key, _, rfl⟩ := List.mem_map.1 (hb.mem_iff.1 he)
        rfl
      · exact hok work hwork e he
  | tick h => exact ⟨honce, hok⟩
  | purge hclock h =>
    refine ⟨fun key => once_purge (honce key), fun work hwork e he => ?_⟩
    rcases List.mem_cons.1 hwork with hwork | hwork
    · nomatch hwork
    · exact hok work hwork e he

/-- Both hold in every state the workers can reach. -/
theorem once_of_reachable (hjobs : ∀ job, cfg.jobs job → job.Runs) {s : State ε T W} (h : (machine cfg).Reachable s) :
    (∀ key, s.Once key) ∧ s.OnlyOk := by
  refine h.invariant (I := fun s => (∀ key, s.Once key) ∧ s.OnlyOk) ?_ ?_
  · intro s hinit
    obtain ⟨hrows, hhist, _⟩ := hinit
    refine ⟨fun key => ?_, fun work hwork => ?_⟩
    · unfold State.Once
      rw [hrows, hhist]
      simp [executions]
    · rw [hhist] at hwork
      exact absurd hwork List.not_mem_nil
  · intro s s' hr ih hs
    have hI := inv_of_reachable hr
    exact once_of_moved hjobs hI (moved_of_step hI hs) ih

end ExactlyOnceAux

open ExactlyOnceAux in
/-- Exactly once: in every state that workers running `process` and `process_many` can reach from an empty inbox. A handler that
returned `Ok` is taken to leave its transaction live; handlers that swallow the error that ends it are treated with the session. -/
theorem process_exactlyOnce [DecidableEq W] (hjobs : ∀ job, cfg.jobs job → job.Runs) {s : State ε T W}
    (h : (machine cfg).Reachable s) :
    (∀ key, s.Once key) ∧ s.OnlyOk ∧
      ∀ w job a, (s.phase w).answer = some (job, a) → ∀ id ∈ job.settled a,
        s.Known (s.phase w).mark (job.consumer, id) := by
  obtain ⟨honce, hok⟩ := once_of_reachable hjobs h
  exact ⟨honce, hok, (inv_of_reachable h).answers⟩

/-- A message that was processed has one execution, on a database where any row may be purged at any time. -/
theorem process_exactlyOnce_processed :
    ∃ s : State String Nat Bool,
      (machine ⟨fun _ statement => statement, true, fun _ _ => True, Job.Runs⟩).Reachable s ∧
        executions (⟨"orders", by decide⟩, ⟨"m1", by decide⟩) s.history = 1 := by
  have h0 : (machine ⟨fun _ statement => statement, true, fun _ _ => True, Job.Runs⟩).Reachable
      (⟨fun _ => none, [], 0, fun _ => .idle⟩ : State String Nat Bool) := .init ⟨rfl, rfl, rfl⟩
  obtain ⟨s, hs, h⟩ := exists_processed h0 (fun _ => trivial) true ⟨⟨"orders", by decide⟩, none⟩ ⟨"m1", by decide⟩ 7 rfl trivial
  have hrow : (s.rows (⟨"orders", by decide⟩, ⟨"m1", by decide⟩)).isSome := by
    rw [h.rows, Function.update_self]
    rfl
  exact ⟨s, hs, ((process_exactlyOnce (fun _ h => h) hs).1 _).1.1 hrow⟩

end Txbox
