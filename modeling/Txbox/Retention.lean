import Txbox.Types
import Mathlib.Tactic.NormNum

/-!
# Retention

`src/retention.rs`, and which rows one purge statement may delete on PostgreSQL and on MySQL. Instants are microseconds since the
Unix epoch, the resolution of both databases' timestamps.
-/

namespace Txbox

/-- How long processed messages are retained before being purged. -/
structure RetentionPolicy where
  maxAge : Duration
  batchSize : Nat
  deriving DecidableEq, Repr

namespace RetentionPolicy

/-- `RetentionPolicy::new`. -/
def new (maxAge : Duration) : RetentionPolicy := ⟨maxAge, 1000⟩

/-- `RetentionPolicy::with_batch_size`: zero is clamped to one. -/
def withBatchSize (self : RetentionPolicy) (batchSize : Nat) : RetentionPolicy :=
  { self with batchSize := max batchSize 1 }

end RetentionPolicy

/-- `PURGE_SQL` on PostgreSQL: `processed_at < now() - make_interval(secs => $1)`, with the seconds of `max_age` exact. -/
def PgInbox.purges (policy : RetentionPolicy) (now processedAt : Int) : Prop :=
  processedAt * 1000 < now * 1000 - policy.maxAge.asNanos

instance (policy : RetentionPolicy) (now processedAt : Int) : Decidable (PgInbox.purges policy now processedAt) :=
  inferInstanceAs (Decidable (_ < _))

namespace MySqlInbox

/-- `u64::try_from(policy.max_age().as_micros()).unwrap_or(u64::MAX)`. -/
def maxAgeMicros (policy : RetentionPolicy) : Nat := min policy.maxAge.asMicros (2 ^ 64 - 1)

/-- The operand of `INTERVAL ? MICROSECOND`: the server reads it as a signed 64-bit integer. -/
def intervalMicros (policy : RetentionPolicy) : Int :=
  if maxAgeMicros policy < 2 ^ 63 then maxAgeMicros policy else (maxAgeMicros policy : Int) - 2 ^ 64

/-- The microseconds of a day. -/
def dayMicros : Int := 86400 * 1000000

/-- An instant that fits a `DATETIME`: the day numbers 0 to 3652424, of which the Unix epoch is 719528. -/
def inDatetimeRange (t : Int) : Prop := -719528 * dayMicros ≤ t ∧ t < (3652425 - 719528) * dayMicros

/-- `PURGE_SQL` on MySQL: `processed_at < UTC_TIMESTAMP(6) - INTERVAL ? MICROSECOND`. A difference that leaves the range is `NULL`,
and nothing is less than it. -/
def purges (policy : RetentionPolicy) (now processedAt : Int) : Prop :=
  inDatetimeRange (now - intervalMicros policy) ∧ processedAt < now - intervalMicros policy

instance (t : Int) : Decidable (inDatetimeRange t) := inferInstanceAs (Decidable (_ ∧ _))

instance (policy : RetentionPolicy) (now processedAt : Int) : Decidable (purges policy now processedAt) :=
  inferInstanceAs (Decidable (_ ∧ _))

end MySqlInbox

/-- A purge on PostgreSQL leaves the rows of the last `window` microseconds, if it keeps at least those. -/
theorem PgInbox.lt_of_purges {policy : RetentionPolicy} {window : Nat} {now processedAt : Int}
    (hw : window * 1000 ≤ policy.maxAge.asNanos) (h : PgInbox.purges policy now processedAt) : processedAt + window < now := by
  unfold PgInbox.purges at h
  omega

/-- A purge on MySQL leaves the rows of the last `window` microseconds, if it keeps at least those and its interval is not read as
a negative one. -/
theorem MySqlInbox.lt_of_purges {policy : RetentionPolicy} {window : Nat} {now processedAt : Int}
    (hw : window * 1000 ≤ policy.maxAge.asNanos) (hmax : policy.maxAge.asMicros < 2 ^ 63)
    (h : MySqlInbox.purges policy now processedAt) : processedAt + window < now := by
  have hmicros : window ≤ policy.maxAge.asMicros := by
    unfold Duration.asMicros
    omega
  have hage : MySqlInbox.maxAgeMicros policy = policy.maxAge.asMicros := by
    unfold MySqlInbox.maxAgeMicros
    omega
  have hinterval : MySqlInbox.intervalMicros policy = policy.maxAge.asMicros := by
    unfold MySqlInbox.intervalMicros
    rw [hage, if_pos hmax]
  obtain ⟨_, h⟩ := h
  rw [hinterval] at h
  omega

end Txbox
