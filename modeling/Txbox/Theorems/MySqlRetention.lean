import Txbox.Theorems.Purge

/-!
# Long retentions on MySQL

`max_age` is bound to `INTERVAL ? MICROSECOND` as an unsigned 64-bit number, which the server reads as a signed one. From 2^63
microseconds on the interval is negative and the cutoff lies in the future: the purge deletes rows that were just written, unless the
cutoff leaves the range of `DATETIME` and nothing is deleted at all.
-/

namespace Txbox

open Lib

namespace MySqlInbox

/-- The purge of a pool, given the fuel it needs, returns and the row is gone. -/
def Deletes (policy : RetentionPolicy) (s : PurgeConn Int Columns Int) (key : String × String) : Prop :=
  ∃ total s', (∀ fuel, s.table.keys.ncard < fuel →
    Prog.run purgeServer.exec none (purge (ε := Unit) policy fuel) s = (.returned (some (.ok total)), s')) ∧
      key ∈ s.table.keys ∧ s'.table key = none

/-- A pool with finitely many rows whose clock stands at `now`. -/
structure At (now : Int) (s : PurgeConn Int Columns Int) : Prop where
  finite : s.table.keys.Finite
  clock : ∀ n, s.clock n = now

/-- At `now`, a purge with this retention deletes no row whose age is at most that many microseconds, and deletes only rows that a purge
of the same rows with any shorter retention deletes. -/
structure KeepsLonger (maxAge : Duration) (now : Int) : Prop where
  young : ∀ policy s key columns, policy.Built → policy.maxAge = maxAge → At now s → s.table key = some columns →
    now - columns.processedAt ≤ maxAge.asMicros → ¬ Deletes policy s key
  shorter : ∀ policy policy' s s' key, policy.Built → policy'.Built → policy.maxAge = maxAge →
    policy'.maxAge.asNanos ≤ maxAge.asNanos → At now s → At now s' → s'.table = s.table →
      Deletes policy s key → Deletes policy' s' key

end MySqlInbox

namespace MySqlRetentionAux

open MySqlInbox PurgeAux

/-- The cutoff is above the rows the statement selects. -/
theorem below_iff (policy : RetentionPolicy) (now : Int) (t : Table Columns) (key : String × String) :
    Below (t.column purgeServer.processedAt) (purgeServer.cutoff (maxAgeMicros policy) now) key ↔
      ∃ columns, t key = some columns ∧ purges policy now columns.processedAt := by
  have hcutoff : purgeServer.cutoff (maxAgeMicros policy) now =
      if inDatetimeRange (now - intervalMicros policy) then ((now - intervalMicros policy : Int) : WithBot Int) else ⊥ := rfl
  rw [hcutoff]
  unfold Below purges Table.column
  by_cases hrange : inDatetimeRange (now - intervalMicros policy)
  · simp [hrange, purgeServer]
  · simp [hrange]

/-- A purge at `now` deletes the rows that its statement selects. -/
theorem deletes_iff {policy : RetentionPolicy} (hpolicy : policy.Built) {now : Int} {s : PurgeConn Int Columns Int} (hs : At now s)
    (key : String × String) :
    Deletes policy s key ↔ ∃ columns, s.table key = some columns ∧ purges policy now columns.processedAt := by
  have hconst : ∀ n, cutoffs purgeServer (maxAgeMicros policy) s n = purgeServer.cutoff (maxAgeMicros policy) now := by
    intro n
    rw [cutoffs, hs.clock]
  have hmono : Monotone (cutoffs purgeServer (maxAgeMicros policy) s) := by
    intro i j _
    rw [hconst, hconst]
  obtain ⟨total, s', hrun, hpurged, hexact⟩ := (@purgesExactly_purgeLoop Unit Nat _ _ _ _ _ purgeServer _ (maxAgeMicros policy) _
    (one_le_batchSize hpolicy) s hs.finite hmono).returns
  obtain ⟨hgone, hkept, _⟩ := hexact _ hconst
  rw [← below_iff]
  constructor
  · rintro ⟨total', s'', hrun', hkey, hnone⟩
    have heq := (hrun _ (Nat.lt_succ_self _)).symm.trans (hrun' _ (Nat.lt_succ_self _))
    obtain ⟨_, rfl⟩ := Prod.mk.inj heq
    by_contra hbelow
    exact Table.mem_keys_iff.1 hkey (by rw [← hkept key hbelow, hnone])
  · intro hbelow
    exact ⟨total, s', hrun, mem_keys_of_below hbelow, hgone key hbelow⟩

/-- A retention that is read as it is bound. -/
theorem intervalMicros_of_lt {policy : RetentionPolicy} (h : policy.maxAge.asMicros < 2 ^ 63) :
    intervalMicros policy = policy.maxAge.asMicros := by
  unfold intervalMicros maxAgeMicros
  split <;> omega

/-- A retention that is read as a negative interval. -/
theorem intervalMicros_of_le {policy : RetentionPolicy} (h : 2 ^ 63 ≤ policy.maxAge.asMicros) : intervalMicros policy < 0 := by
  unfold intervalMicros maxAgeMicros
  split <;> omega

/-- The interval depends on the retention only. -/
theorem intervalMicros_eq {policy policy' : RetentionPolicy} (h : policy.maxAge = policy'.maxAge) :
    intervalMicros policy = intervalMicros policy' := by
  unfold intervalMicros maxAgeMicros
  rw [h]

/-- A row written at `now` and nothing else. -/
noncomputable def justWritten (now : Int) : PurgeConn Int Columns Int :=
  ⟨fun _ => now, fun _ => Picker.choose, fun key => if key = ("events", "1") then some ⟨now, none⟩ else none⟩

theorem justWritten_row (now : Int) : (justWritten now).table ("events", "1") = some ⟨now, none⟩ := by
  simp [justWritten]

theorem at_justWritten (now : Int) : At now (justWritten now) := by
  refine ⟨(Set.toFinite {("events", "1")}).subset ?_, fun _ => rfl⟩
  intro key hkey
  rw [Table.mem_keys_iff] at hkey
  by_contra hout
  exact hkey (if_neg hout)

/-- With a negative interval that stays in range, a row that was just written goes. -/
theorem not_keepsLonger {maxAge : Duration} {now : Int} (hlong : 2 ^ 63 ≤ maxAge.asMicros)
    (hrange : inDatetimeRange (now - intervalMicros (RetentionPolicy.new maxAge))) : ¬ KeepsLonger maxAge now := by
  intro h
  have hnegative := @intervalMicros_of_le (RetentionPolicy.new maxAge) hlong
  have hrow := justWritten_row now
  refine h.young (RetentionPolicy.new maxAge) (justWritten now) _ _ (.new maxAge) rfl (at_justWritten now) hrow ?_ ?_
  · simp
  · rw [deletes_iff (.new maxAge) (at_justWritten now)]
    refine ⟨_, hrow, hrange, ?_⟩
    simp only
    omega

/-- Retentions below 2^63 microseconds. -/
theorem keepsLonger_of_lt {maxAge : Duration} {now : Int} (hnow : inDatetimeRange now) (hshort : maxAge.asMicros < 2 ^ 63) :
    KeepsLonger maxAge now := by
  constructor
  · intro policy s key columns hpolicy hage hs hrow hyoung hdeletes
    obtain ⟨columns', hrow', _, hlt⟩ := (deletes_iff hpolicy hs key).1 hdeletes
    rw [hrow] at hrow'
    cases hrow'
    rw [intervalMicros_of_lt (by rwa [hage]), hage] at hlt
    omega
  · intro policy policy' s s' key hpolicy hpolicy' hage hle hs hs' htable hdeletes
    obtain ⟨columns, hrow, hrange, hlt⟩ := (deletes_iff hpolicy hs key).1 hdeletes
    have hmicros : policy'.maxAge.asMicros ≤ maxAge.asMicros := Nat.div_le_div_right hle
    rw [intervalMicros_of_lt (by rwa [hage]), hage] at hrange hlt
    rw [deletes_iff hpolicy' hs', htable]
    refine ⟨columns, hrow, ?_⟩
    unfold purges
    rw [intervalMicros_of_lt (by omega)]
    unfold inDatetimeRange at *
    omega

/-- A cutoff out of range deletes nothing. -/
theorem keepsLonger_of_out {maxAge : Duration} {now : Int}
    (hout : ¬ inDatetimeRange (now - intervalMicros (RetentionPolicy.new maxAge))) : KeepsLonger maxAge now := by
  have hnone : ∀ policy s key, policy.Built → policy.maxAge = maxAge → At now s → ¬ Deletes policy s key := by
    intro policy s key hpolicy hage hs hdeletes
    obtain ⟨columns, _, hrange, _⟩ := (deletes_iff hpolicy hs key).1 hdeletes
    rw [@intervalMicros_eq _ (RetentionPolicy.new maxAge) hage] at hrange
    exact hout hrange
  constructor
  · intro policy s key columns hpolicy hage hs _ _
    exact hnone policy s key hpolicy hage hs
  · intro policy policy' s s' key hpolicy _ hage _ hs _ _ hdeletes
    exact absurd hdeletes (hnone policy s key hpolicy hage hs)

end MySqlRetentionAux

open MySqlInbox MySqlRetentionAux

/-- At every time in the range of `DATETIME`, a longer retention never deletes more exactly when it is not read as a negative interval
with a cutoff in that range. -/
theorem keepsLonger_iff (maxAge : Duration) {now : Int} (hnow : inDatetimeRange now) : KeepsLonger maxAge now ↔
    ¬ (2 ^ 63 ≤ maxAge.asMicros ∧ inDatetimeRange (now - intervalMicros (RetentionPolicy.new maxAge))) := by
  constructor
  · rintro h ⟨hlong, hrange⟩
    exact not_keepsLonger hlong hrange h
  · intro h
    by_cases hlong : 2 ^ 63 ≤ maxAge.asMicros
    · exact keepsLonger_of_out (fun hrange => h ⟨hlong, hrange⟩)
    · exact keepsLonger_of_lt hnow (by omega)

/-- The beginning of 2026. -/
def newYear2026 : Int := 1767225600000000

/-- `Duration::MAX`. -/
def durationMax : Duration := ⟨2 ^ 64 * 1000000000 - 1, by decide⟩

/-- An hour, at the beginning of 2026. -/
theorem keepsLonger_hour : inDatetimeRange newYear2026 ∧ KeepsLonger ⟨3600 * 1000000000, by decide⟩ newYear2026 := by
  have hnow : inDatetimeRange newYear2026 := by decide
  exact ⟨hnow, (keepsLonger_iff _ hnow).2 (by decide)⟩

/-- With `Duration::MAX`, which is read as an interval of -1 microsecond, a row goes as soon as it is written. -/
theorem not_keepsLonger_max : intervalMicros (RetentionPolicy.new durationMax) = -1 ∧
    Deletes (RetentionPolicy.new durationMax) (justWritten newYear2026) ("events", "1") ∧ ¬ KeepsLonger durationMax newYear2026 := by
  have hlong : 2 ^ 63 ≤ durationMax.asMicros := by decide
  have hrange : inDatetimeRange (newYear2026 - intervalMicros (RetentionPolicy.new durationMax)) := by decide
  refine ⟨by decide, ?_, not_keepsLonger hlong hrange⟩
  rw [deletes_iff (.new durationMax) (at_justWritten newYear2026)]
  exact ⟨_, justWritten_row newYear2026, by decide⟩

end Txbox
