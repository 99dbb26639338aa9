import Txbox.MySql
import Txbox.Retention
import Txbox.Chrono
import Txbox.Lib.Limit

/-!
# Purging

`purge` of the three backends: one loop that deletes a batch of old rows at a time and stops at a short batch, with what each backend
binds to its statement. The loop has no bound of its own, so the functions take a fuel, and `none` is a loop that is still running.

A statement is run by a server that says what the statement compares `processed_at` with. Its clock, and the way it chooses among tied
rows, are given as what they will be, statement by statement.
-/

namespace Txbox

open Lib

/-- Policies as they are built: `new`, then any number of `with_batch_size`. -/
inductive RetentionPolicy.Built : RetentionPolicy → Prop where
  | new (maxAge : Duration) : Built (RetentionPolicy.new maxAge)
  | withBatchSize {policy : RetentionPolicy} (batchSize : Nat) (h : Built policy) : Built (policy.withBatchSize batchSize)

/-- The caller's clock, and `PURGE_SQL` with the two values bound to it. -/
inductive PurgeCall (B : Type) where
  | utcNow
  | delete (bound : B) (limit : Nat)

/-- What they answer: the time, the rows affected. -/
@[reducible] def PurgeReply (ε Code Now B : Type) : PurgeCall B → Type
  | .utcNow => Now
  | .delete _ _ => Except (SqlxError ε Code) Nat

/-- A function that purges. -/
abbrev PurgeProg (ε Code Now B α : Type) : Type := Prog (PurgeCall B) (PurgeReply ε Code Now B) α

/-- What it returns: the number of rows deleted, or `none` while it is running. -/
abbrev PurgeResult (ε : Type) : Type := Option (Except (InboxError ε) Nat)

section Loop

variable {ε Code Now B : Type} [ToString Code]

/-- The loop of `purge`: delete a batch, add up, stop at a short one. -/
def purgeLoop (bound : B) (batch : Nat) : (fuel total : Nat) → PurgeProg ε Code Now B (PurgeResult ε)
  | 0, _ => return none
  | fuel + 1, total => do
    match ← Prog.perform (PurgeCall.delete bound batch) with
    | .error e => return some (.error e.into)
    | .ok affected =>
      if affected < batch then return some (.ok (total + affected)) else purgeLoop bound batch fuel (total + affected)

end Loop

/-- `PgInbox::purge`: the statement is bound to the seconds of `max_age`. -/
def PgInbox.purge {ε : Type} (policy : RetentionPolicy) (fuel : Nat) : PurgeProg ε String Int Duration (PurgeResult ε) :=
  purgeLoop policy.maxAge policy.batchSize fuel 0

/-- `MySqlInbox::purge`: the statement is bound to the microseconds of `max_age`. -/
def MySqlInbox.purge {ε : Type} (policy : RetentionPolicy) (fuel : Nat) : PurgeProg ε Nat Int Nat (PurgeResult ε) :=
  purgeLoop (maxAgeMicros policy) policy.batchSize fuel 0

/-- The text of chrono's `OutOfRangeError`. -/
def outOfRange : String := "Source duration value is out of range for the target type"

/-- `SqliteInbox::purge`: the cutoff is computed once, from the caller's clock. -/
def SqliteInbox.purge {ε : Type} (policy : RetentionPolicy) (fuel : Nat) : PurgeProg ε Nat DateTime DateTime (PurgeResult ε) := do
  let now ← Prog.perform PurgeCall.utcNow
  match fromStd policy.maxAge with
  | none => return some (.error (.backend (.text outOfRange)))
  | some maxAge =>
    match DateTime.ofNanos (now.nanos - maxAge) with
    | none => .panic "`DateTime - TimeDelta` overflowed"
    | some cutoff => purgeLoop cutoff policy.batchSize fuel 0

/-! ## The server -/

/-- The table without some of its rows. -/
def Table.remove {C : Type} (t : Table C) (keys : Finset (String × String)) : Table C :=
  fun key => if key ∈ keys then none else t key

/-- What `PURGE_SQL` compares: the column, in the server's order, with a cutoff that depends on the bound value and on the time the
statement reads. -/
structure PurgeServer (Now C ι B : Type) where
  processedAt : C → ι
  cutoff : B → Now → WithBot ι

/-- The pool: the clock and the choices as what they will be, and the rows. -/
structure PurgeConn (Now C ι : Type) [LinearOrder ι] where
  clock : Nat → Now
  picks : Nat → Picker (String × String) ι
  table : Table C

/-- What the statement does: it deletes the rows that are chosen among those below the cutoff. -/
def PurgeServer.exec {ε Code Now C ι B : Type} [LinearOrder ι] (server : PurgeServer Now C ι B) :
    (c : PurgeCall B) → PurgeConn Now C ι → PurgeReply ε Code Now B c × PurgeConn Now C ι
  | .utcNow, s => (s.clock 0, { s with clock := fun n => s.clock (n + 1) })
  | .delete bound limit, s =>
    let picked := (s.picks 0).pick (fun key => (s.table key).map server.processedAt) (server.cutoff bound (s.clock 0)) limit
    (.ok picked.card, ⟨fun n => s.clock (n + 1), fun n => s.picks (n + 1), s.table.remove picked⟩)

/-- PostgreSQL: the cutoff is `now() - make_interval(secs => $1)`, in nanoseconds. -/
def PgInbox.purgeServer : PurgeServer Int Int Int Duration where
  processedAt processedAt := processedAt * 1000
  cutoff maxAge now := (now * 1000 - maxAge.asNanos : Int)

/-- MySQL: the cutoff is `UTC_TIMESTAMP(6) - INTERVAL ? MICROSECOND`, which is `NULL` out of the range of `DATETIME`. -/
def MySqlInbox.purgeServer : PurgeServer Int Columns Int Nat where
  processedAt := Columns.processedAt
  cutoff micros now :=
    let interval : Int := if micros < 2 ^ 63 then micros else (micros : Int) - 2 ^ 64
    if inDatetimeRange (now - interval) then (now - interval : Int) else ⊥

/-- SQLite: the column and the cutoff are texts, compared byte by byte. -/
def SqliteInbox.purgeServer : PurgeServer DateTime String (List Nat) DateTime where
  processedAt := bytes
  cutoff cutoff _ := (bytes cutoff.toRfc3339 : List Nat)

end Txbox
