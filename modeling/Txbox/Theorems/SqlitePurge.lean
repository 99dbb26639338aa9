import Txbox.Theorems.Purge

/-!
# The cutoff on SQLite

`SqliteInbox::purge` computes its cutoff in the process. `Duration::from_std` refuses a `max_age` above `i64::MAX` milliseconds, which
becomes an error; the subtraction that follows has the smaller range of `DateTime<Utc>`, and panics when it leaves it.
-/

namespace Txbox

open Lib

namespace SqliteInbox

/-- At `now` the purge computes its cutoff and deletes the rows below it, or it returns a backend error and makes no statement; with no
fuel does it panic. -/
structure PurgesOrRefuses (policy : RetentionPolicy) (now : DateTime) : Prop where
  outcome : ∀ s : PurgeConn DateTime String (List Nat), s.table.keys.Finite → s.clock 0 = now →
    (∃ cutoff : DateTime, cutoff.nanos = now.nanos - policy.maxAge.asNanos ∧
      PurgesExactly purgeServer (fun _ => purgeServer.cutoff cutoff now) (purge (ε := Unit) policy) s) ∨
    (∃ source s', s'.table = s.table ∧ ∀ fuel,
      Prog.run purgeServer.exec none (purge (ε := Unit) policy fuel) s = (.returned (some (.error (.backend source))), s') ∧
      ∀ step ∈ Prog.steps purgeServer.exec (purge (ε := Unit) policy fuel) s, step.2.1 = .utcNow)
  noPanic : ∀ (s : PurgeConn DateTime String (List Nat)) (fuel : Nat), s.clock 0 = now →
    (Prog.run purgeServer.exec none (purge (ε := Unit) policy fuel) s).1 ≠ .panicked

end SqliteInbox

namespace SqlitePurgeAux

open SqliteInbox PurgeAux

variable {policy : RetentionPolicy} {s : PurgeConn DateTime String (List Nat)}

/-- The instant of a number of nanoseconds in range. -/
theorem ofNanos_eq_some_iff (nanos : Int) (t : DateTime) : DateTime.ofNanos nanos = some t ↔ t.nanos = nanos := by
  unfold DateTime.ofNanos
  constructor
  · intro h
    split at h
    · cases h
      rfl
    · cases h
  · rintro rfl
    rw [dif_pos ⟨t.min_le, t.le_max⟩]

/-- A number of nanoseconds out of range is no instant. -/
theorem ofNanos_eq_none {nanos : Int} (h : nanos < minUtc) : DateTime.ofNanos nanos = none := by
  rw [DateTime.ofNanos, dif_neg (by omega)]

/-- The loop does not panic. -/
theorem run_purgeLoop_ne_panicked (bound : DateTime) (batch fuel total : Nat) (s : PurgeConn DateTime String (List Nat)) :
    (Prog.run purgeServer.exec none
      (purgeLoop bound batch fuel total : PurgeProg Unit Nat DateTime DateTime (PurgeResult Unit)) s).1 ≠ .panicked := by
  induction fuel generalizing total s with
  | zero => simp [purgeLoop, pure]
  | succ fuel ih =>
    rw [run_purgeLoop_succ]
    split
    · simp
    · exact ih _ _

/-- The steps with a `max_age` that `from_std` refuses: the clock is read, and that is all. -/
theorem steps_purge_of_refused (h : fromStd policy.maxAge = none) (fuel : Nat) :
    Prog.steps purgeServer.exec (purge (ε := Unit) policy fuel) s = [(s, .utcNow, afterRead s)] := by
  have hpurge : purge (ε := Unit) policy fuel =
      .call .utcNow fun _ => .ret (some (.error (.backend (.text outOfRange)))) := by
    simp only [purge, h]
    rfl
  rw [hpurge]
  rfl

/-- A `max_age` above `i64::MAX` milliseconds is refused. -/
theorem purgesOrRefuses_of_refused {now : DateTime} (h : fromStd policy.maxAge = none) : PurgesOrRefuses policy now := by
  constructor
  · intro s _ _
    refine Or.inr ⟨.text outOfRange, afterRead s, rfl, ?_⟩
    intro fuel
    refine ⟨run_sqlitePurge_of_refused h fuel, ?_⟩
    intro step hstep
    rw [steps_purge_of_refused h, List.mem_singleton] at hstep
    rw [hstep]
  · intro s fuel _
    simp [run_sqlitePurge_of_refused h]

/-- A cutoff in range is purged to. -/
theorem purgesOrRefuses_of_cutoff (hpolicy : policy.Built) {now cutoff : DateTime} {maxAge : Int}
    (hage : fromStd policy.maxAge = some maxAge) (heq : maxAge = policy.maxAge.asNanos)
    (hcutoff : DateTime.ofNanos (now.nanos - maxAge) = some cutoff) : PurgesOrRefuses policy now := by
  constructor
  · intro s hfin hnow
    refine Or.inl ⟨cutoff, ?_, ?_⟩
    · rw [(ofNanos_eq_some_iff _ _).1 hcutoff, heq]
    · exact purgesExactly_sqlite hpolicy bytes _ hfin hage (by rw [hnow, hcutoff])
  · intro s fuel hnow
    rw [run_sqlitePurge hage (by rw [hnow, hcutoff])]
    exact run_purgeLoop_ne_panicked _ _ _ _ _

/-- A pool with no rows at `now`. -/
noncomputable def emptyPool (now : DateTime) : PurgeConn DateTime String (List Nat) :=
  ⟨fun _ => now, fun _ => Picker.choose, fun _ => none⟩

end SqlitePurgeAux

open SqliteInbox PurgeAux SqlitePurgeAux

/-- At every time the purge on SQLite deletes or refuses, and does not panic, exactly when `max_age` is more than `i64::MAX`
milliseconds or does not reach back before `DateTime::MIN_UTC`. -/
theorem purgesOrRefuses_iff {policy : RetentionPolicy} (hpolicy : policy.Built) (now : DateTime) : PurgesOrRefuses policy now ↔
    (2 ^ 63 - 1) * 1000000 < policy.maxAge.asNanos ∨ minUtc ≤ now.nanos - policy.maxAge.asNanos := by
  have hmax := now.le_max
  by_cases hrefused : (2 ^ 63 - 1) * 1000000 < policy.maxAge.asNanos
  · have hage : fromStd policy.maxAge = none := if_neg (by omega)
    exact iff_of_true (purgesOrRefuses_of_refused hage) (Or.inl hrefused)
  · have hage : fromStd policy.maxAge = some (policy.maxAge.asNanos : Int) := if_pos (by omega)
    by_cases hrange : minUtc ≤ now.nanos - policy.maxAge.asNanos
    · have hcutoff := (ofNanos_eq_some_iff _ ⟨now.nanos - policy.maxAge.asNanos, hrange, by omega⟩).2 rfl
      exact iff_of_true (purgesOrRefuses_of_cutoff hpolicy hage rfl hcutoff) (Or.inr hrange)
    · have hout : DateTime.ofNanos (((emptyPool now).clock 0).nanos - policy.maxAge.asNanos) = none :=
        ofNanos_eq_none (by change now.nanos - policy.maxAge.asNanos < minUtc; omega)
      refine iff_of_false ?_ (by omega)
      intro h
      refine h.noPanic (emptyPool now) 0 rfl ?_
      rw [run_sqlitePurge_of_panic hage hout]

/-- The beginning of 2026. -/
def january2026 : DateTime := ⟨1767225600 * 1000000000, by decide, by decide⟩

/-- An hour, at the beginning of 2026. -/
theorem purgesOrRefuses_hour : (RetentionPolicy.new ⟨3600 * 1000000000, by decide⟩).Built ∧
    PurgesOrRefuses (RetentionPolicy.new ⟨3600 * 1000000000, by decide⟩) january2026 :=
  ⟨.new _, (purgesOrRefuses_iff (.new _) january2026).2 (by decide)⟩

/-- A million years of 365 days. -/
def millionYears : RetentionPolicy := RetentionPolicy.new ⟨365000000 * 86400 * 1000000000, by decide⟩

/-- With a `max_age` of a million years the purge panics, at the beginning of 2026 and whatever the rows. -/
theorem not_purgesOrRefuses_millionYears :
    (∀ (s : PurgeConn DateTime String (List Nat)) (fuel : Nat), s.clock 0 = january2026 →
      (Prog.run purgeServer.exec none (purge (ε := Unit) millionYears fuel) s).1 = .panicked) ∧
    ¬ PurgesOrRefuses millionYears january2026 := by
  have hage : fromStd millionYears.maxAge = some (365000000 * 86400 * 1000000000 : Int) := by decide
  have hout : DateTime.ofNanos (january2026.nanos - 365000000 * 86400 * 1000000000) = none := ofNanos_eq_none (by decide)
  have hpanics : ∀ (s : PurgeConn DateTime String (List Nat)) (fuel : Nat), s.clock 0 = january2026 →
      (Prog.run purgeServer.exec none (purge (ε := Unit) millionYears fuel) s).1 = .panicked := by
    intro s fuel hnow
    rw [run_sqlitePurge_of_panic hage (by rw [hnow, hout])]
  refine ⟨hpanics, ?_⟩
  intro h
  exact h.noPanic (emptyPool january2026) 0 rfl (hpanics _ 0 rfl)

end Txbox
