import Txbox.Postgres
import Txbox.MySql

/-!
# The values of a lock timeout

`pg_lock_timeout` and `mysql_lock_timeout` against the range their server accepts. MySQL's maximum is applied, PostgreSQL's is not:
a timeout of more than 2147483647 ms becomes a value that `set_config` refuses.
-/

namespace Txbox

/-- `v` is the count for a timeout on a server that accepts 1 to `most` units of `unit` nanoseconds: it is accepted, it is the least
accepted count that is not shorter than the timeout, and it is the greatest count when all are shorter. -/
structure RoundedUp (unit most : Nat) (timeout : Duration) (v : Nat) : Prop where
  accepted : 1 ≤ v ∧ v ≤ most
  least : ∀ u, 1 ≤ u → u ≤ most → timeout.asNanos ≤ u * unit → timeout.asNanos ≤ v * unit ∧ v ≤ u
  clamped : (∀ u, 1 ≤ u → u ≤ most → u * unit < timeout.asNanos) → v = most

/-- The timeout maps to a value that both servers accept, and neither a shorter nor a longer one is out of order with it. -/
structure TimeoutMapped (timeout : Duration) : Prop where
  postgres : ∃ v, PgInbox.pgLockTimeout timeout = s!"{v}ms" ∧ RoundedUp 1000000 2147483647 timeout v ∧
    ∀ timeout' w, PgInbox.pgLockTimeout timeout' = s!"{w}ms" →
      (timeout.asNanos ≤ timeout'.asNanos → v ≤ w) ∧ (timeout'.asNanos ≤ timeout.asNanos → w ≤ v)
  mysql : RoundedUp 1000000000 1073741824 timeout (MySqlInbox.mysqlLockTimeout timeout) ∧
    ∀ timeout', (timeout.asNanos ≤ timeout'.asNanos → MySqlInbox.mysqlLockTimeout timeout ≤ MySqlInbox.mysqlLockTimeout timeout') ∧
      (timeout'.asNanos ≤ timeout.asNanos → MySqlInbox.mysqlLockTimeout timeout' ≤ MySqlInbox.mysqlLockTimeout timeout)

namespace TimeoutValuesAux

/-- The milliseconds of a value are read back from it. -/
theorem millis_injective {v w : Nat} (h : s!"{v}ms" = s!"{w}ms") : v = w := by
  have hlist : ∀ n : Nat, (s!"{n}ms").toList = Nat.toDigits 10 n ++ "ms".toList := by
    intro n
    simp [toString]
  have hdigits : Nat.toDigits 10 v = Nat.toDigits 10 w := by
    have := congrArg String.toList h
    rw [hlist, hlist] at this
    exact List.append_cancel_right this
  rw [← Nat.ofDigitChars_ten_toDigits (n := v), hdigits, Nat.ofDigitChars_ten_toDigits]

/-- The milliseconds of `pg_lock_timeout`. -/
def pgMillis (timeout : Duration) : Nat := max ((timeout.asNanos + 999999) / 1000000) 1

/-- The value names its milliseconds, and no other count. -/
theorem pgLockTimeout_eq_iff (timeout : Duration) (v : Nat) :
    PgInbox.pgLockTimeout timeout = s!"{v}ms" ↔ v = pgMillis timeout := by
  constructor
  · intro h
    exact (millis_injective h).symm
  · intro h
    rw [h]
    rfl

/-- Up to PostgreSQL's maximum the milliseconds are rounded up. -/
theorem roundedUp_pgMillis {timeout : Duration} (h : timeout.asNanos ≤ 2147483647 * 1000000) :
    RoundedUp 1000000 2147483647 timeout (pgMillis timeout) := by
  refine ⟨?_, ?_, ?_⟩
  · unfold pgMillis
    omega
  · intro u hu hmost hle
    unfold pgMillis
    omega
  · intro hall
    have hlt := hall 2147483647 (by omega) (by omega)
    omega

/-- The milliseconds grow with the timeout. -/
theorem pgMillis_mono {timeout timeout' : Duration} (h : timeout.asNanos ≤ timeout'.asNanos) :
    pgMillis timeout ≤ pgMillis timeout' := by
  unfold pgMillis
  omega

/-- MySQL's seconds are rounded up, and end at its maximum. -/
theorem roundedUp_mysqlLockTimeout (timeout : Duration) :
    RoundedUp 1000000000 1073741824 timeout (MySqlInbox.mysqlLockTimeout timeout) := by
  refine ⟨?_, ?_, ?_⟩
  · unfold MySqlInbox.mysqlLockTimeout
    omega
  · intro u hu hmost hle
    unfold MySqlInbox.mysqlLockTimeout
    omega
  · intro hall
    have hlt := hall 1073741824 (by omega) (by omega)
    unfold MySqlInbox.mysqlLockTimeout
    omega

/-- The seconds grow with the timeout. -/
theorem mysqlLockTimeout_mono {timeout timeout' : Duration} (h : timeout.asNanos ≤ timeout'.asNanos) :
    MySqlInbox.mysqlLockTimeout timeout ≤ MySqlInbox.mysqlLockTimeout timeout' := by
  unfold MySqlInbox.mysqlLockTimeout
  omega

end TimeoutValuesAux

open TimeoutValuesAux

/-- A lock timeout maps to a value that both servers accept exactly when it is at most 2147483647 ms. -/
theorem timeoutMapped_iff (timeout : Duration) : TimeoutMapped timeout ↔ timeout.asNanos ≤ 2147483647 * 1000000 := by
  constructor
  · intro h
    obtain ⟨v, hv, hrounded, _⟩ := h.postgres
    rw [pgLockTimeout_eq_iff] at hv
    have hmost := hrounded.accepted.2
    rw [hv] at hmost
    unfold pgMillis at hmost
    omega
  · intro h
    refine ⟨⟨pgMillis timeout, rfl, roundedUp_pgMillis h, ?_⟩, roundedUp_mysqlLockTimeout timeout, ?_⟩
    · intro timeout' w hw
      rw [pgLockTimeout_eq_iff] at hw
      rw [hw]
      exact ⟨pgMillis_mono, pgMillis_mono⟩
    · intro timeout'
      exact ⟨mysqlLockTimeout_mono, mysqlLockTimeout_mono⟩

/-- Thirty days. -/
def thirtyDays : Duration := ⟨30 * 86400 * 1000000000, by decide⟩

/-- On PostgreSQL thirty days become a value out of the server's range. -/
theorem not_timeoutMapped_thirtyDays :
    PgInbox.pgLockTimeout thirtyDays = "2592000000ms" ∧ ¬ TimeoutMapped thirtyDays := by
  refine ⟨rfl, ?_⟩
  intro h
  obtain ⟨v, hv, hrounded, _⟩ := h.postgres
  have hmillis : pgMillis thirtyDays = 2592000000 := by decide
  have hmost := hrounded.accepted.2
  rw [(pgLockTimeout_eq_iff thirtyDays v).1 hv, hmillis] at hmost
  omega

end Txbox
