import Txbox.Lemmas.Purge
import Mathlib.Data.Int.ConditionallyCompleteOrder

/-!
# Purge is exact

Whatever the batch size, the ties and the way each statement chooses among them, and while the cutoff moves forward from statement to
statement: the purge loop of every backend ends, nothing below the first cutoff is left, every row that goes was below the cutoff of
the statement that deleted it, and the number returned is that of the rows that went.
-/

namespace Txbox

open Lib

section Spec

variable {ε Code Now C ι B : Type} [LinearOrder ι] (server : PurgeServer Now C ι B)

/-- A step of a run is a statement that changes only rows below its own cutoff, which it deletes. -/
def DeletesBelow (step : PurgeConn Now C ι × PurgeCall B × PurgeConn Now C ι) : Prop :=
  match step with
  | (s, .utcNow, s') => s'.table = s.table
  | (s, .delete bound _, s') => ∀ key, s'.table key = s.table key ∨
      s'.table key = none ∧ Below (s.table.column server.processedAt) (server.cutoff bound (s.clock 0)) key

/-- A purge from a state of the pool, whose statements have these cutoffs. -/
structure PurgesExactly (cutoffs : Nat → WithBot ι) (purge : Nat → PurgeProg ε Code Now B (PurgeResult ε))
    (s : PurgeConn Now C ι) : Prop where
  /-- It returns with any fuel above the number of rows, always the same. With a constant cutoff, the rows that are gone are those
  below it, and the number is theirs: no batch size and no choice matters. -/
  returns : ∃ total s', (∀ fuel, s.table.keys.ncard < fuel →
      Prog.run server.exec none (purge fuel) s = (.returned (some (.ok total)), s')) ∧
    Purged server.processedAt cutoffs s.table s'.table total ∧
    ∀ cutoff, (∀ n, cutoffs n = cutoff) →
      (∀ key, Below (s.table.column server.processedAt) cutoff key → s'.table key = none) ∧
      (∀ key, ¬ Below (s.table.column server.processedAt) cutoff key → s'.table key = s.table key) ∧
      total = {key | Below (s.table.column server.processedAt) cutoff key}.ncard
  /-- Every statement it makes, with any fuel, deletes rows below its own cutoff only. -/
  steps : ∀ fuel, ∀ step ∈ Prog.steps server.exec (purge fuel) s, DeletesBelow server step

end Spec

namespace PurgeAux

variable {ε Code Now C ι B : Type} [LinearOrder ι] {server : PurgeServer Now C ι B}

/-- Every call of a run deletes rows below its own cutoff only. -/
theorem deletesBelow_of_mem_steps {α : Type} {p : PurgeProg ε Code Now B α} {s : PurgeConn Now C ι}
    {step : PurgeConn Now C ι × PurgeCall B × PurgeConn Now C ι} (h : step ∈ Prog.steps server.exec p s) :
    DeletesBelow server step := by
  refine Prog.steps_of_exec (P := fun s c s' => DeletesBelow server (s, c, s')) server.exec ?_ h
  intro c s
  cases c with
  | utcNow => rfl
  | delete bound limit =>
    intro key
    by_cases hkey : key ∈ picked server bound limit s
    · exact Or.inr ⟨if_pos hkey, (s.picks 0).below hkey⟩
    · exact Or.inl (if_neg hkey)

/-- With a constant cutoff the rows that are gone are those below it. -/
theorem purged_constant {processedAt : C → ι} {cutoffs : Nat → WithBot ι} {t t' : Table C} {total : Nat} {cutoff : WithBot ι}
    (h : Purged processedAt cutoffs t t' total) (hconst : ∀ n, cutoffs n = cutoff) :
    (∀ key, Below (t.column processedAt) cutoff key → t' key = none) ∧
    (∀ key, ¬ Below (t.column processedAt) cutoff key → t' key = t key) ∧
    total = {key | Below (t.column processedAt) cutoff key}.ncard := by
  have hall : ∀ key, Below (t.column processedAt) cutoff key → t' key = none := by
    intro key hkey
    exact h.all key (by rwa [hconst])
  have hsame : ∀ key, ¬ Below (t.column processedAt) cutoff key → t' key = t key := by
    intro key hkey
    rcases h.kept key with heq | hgone
    · exact heq
    · by_cases hin : key ∈ t.keys
      · obtain ⟨n, hn⟩ := h.only key hin hgone
        rw [hconst] at hn
        exact absurd hn hkey
      · rw [Table.mem_keys_iff, not_not] at hin
        rw [hin, hgone]
  refine ⟨hall, hsame, ?_⟩
  rw [h.count]
  congr 1
  apply Set.ext
  intro key
  rw [Set.mem_sdiff, Table.mem_keys_iff, Table.mem_keys_iff, not_not]
  constructor
  · rintro ⟨hin, hgone⟩
    by_contra hkey
    exact hin (by rw [← hsame key hkey, hgone])
  · intro hkey
    exact ⟨Table.mem_keys_iff.1 (mem_keys_of_below hkey), hall key hkey⟩

/-- The loop purges exactly. -/
theorem purgesExactly_purgeLoop [ToString Code] (bound : B) {batch : Nat} (hbatch : 1 ≤ batch) (s : PurgeConn Now C ι)
    (hfin : s.table.keys.Finite) (hmono : Monotone (cutoffs server bound s)) :
    PurgesExactly server (cutoffs server bound s)
      (fun fuel => (purgeLoop bound batch fuel 0 : PurgeProg ε Code Now B (PurgeResult ε))) s := by
  constructor
  · obtain ⟨total, s', hpurged, hrun⟩ := @run_purgeLoop _ _ _ ε Code _ _ _ server bound _ hbatch s hfin hmono
    refine ⟨total, s', ?_, hpurged, fun cutoff hconst => purged_constant hpurged hconst⟩
    intro fuel hfuel
    rw [hrun fuel 0 hfuel, Nat.zero_add]
  · intro fuel step hstep
    exact deletesBelow_of_mem_steps hstep

/-- The pool once the caller read its clock. -/
def afterRead (s : PurgeConn Now C ι) : PurgeConn Now C ι := { s with clock := fun n => s.clock (n + 1) }

/-- `SqliteInbox::purge` with a cutoff in range is the loop. -/
theorem run_sqlitePurge {policy : RetentionPolicy} {server : PurgeServer DateTime C ι DateTime} {s : PurgeConn DateTime C ι}
    {maxAge : Int} {cutoff : DateTime} (hage : fromStd policy.maxAge = some maxAge)
    (hcutoff : DateTime.ofNanos ((s.clock 0).nanos - maxAge) = some cutoff) (fuel : Nat) :
    Prog.run server.exec none (SqliteInbox.purge (ε := ε) policy fuel) s =
      Prog.run server.exec none (purgeLoop cutoff policy.batchSize fuel 0 : PurgeProg ε Nat DateTime DateTime _) (afterRead s) := by
  have hread : @PurgeServer.exec ε Nat _ _ _ _ _ server .utcNow s = (s.clock 0, afterRead s) := rfl
  refine (Prog.run_perform_bind _ hread).trans ?_
  simp only [hage, hcutoff]

/-- `SqliteInbox::purge` with a `max_age` that `from_std` refuses. -/
theorem run_sqlitePurge_of_refused {policy : RetentionPolicy} {server : PurgeServer DateTime C ι DateTime}
    {s : PurgeConn DateTime C ι} (hage : fromStd policy.maxAge = none) (fuel : Nat) :
    Prog.run server.exec none (SqliteInbox.purge (ε := ε) policy fuel) s =
      (.returned (some (.error (.backend (.text outOfRange)))), afterRead s) := by
  have hread : @PurgeServer.exec ε Nat _ _ _ _ _ server .utcNow s = (s.clock 0, afterRead s) := rfl
  refine (Prog.run_perform_bind _ hread).trans ?_
  simp only [hage]
  rfl

/-- `SqliteInbox::purge` with a cutoff that is out of range. -/
theorem run_sqlitePurge_of_panic {policy : RetentionPolicy} {server : PurgeServer DateTime C ι DateTime}
    {s : PurgeConn DateTime C ι} {maxAge : Int} (hage : fromStd policy.maxAge = some maxAge)
    (hout : DateTime.ofNanos ((s.clock 0).nanos - maxAge) = none) (fuel : Nat) :
    Prog.run server.exec none (SqliteInbox.purge (ε := ε) policy fuel) s = (.panicked, afterRead s) := by
  have hread : @PurgeServer.exec ε Nat _ _ _ _ _ server .utcNow s = (s.clock 0, afterRead s) := rfl
  refine (Prog.run_perform_bind _ hread).trans ?_
  simp only [hage, hout, Prog.run_panic]

/-- `SqliteInbox::purge` with a cutoff in range purges exactly. -/
theorem purgesExactly_sqlite {policy : RetentionPolicy} (hpolicy : policy.Built) (processedAt : C → ι) (bind : DateTime → WithBot ι)
    {s : PurgeConn DateTime C ι} {maxAge : Int} {cutoff : DateTime} (hfin : s.table.keys.Finite)
    (hage : fromStd policy.maxAge = some maxAge) (hcutoff : DateTime.ofNanos ((s.clock 0).nanos - maxAge) = some cutoff) :
    PurgesExactly ⟨processedAt, fun bound _ => bind bound⟩ (fun _ => bind cutoff) (SqliteInbox.purge (ε := ε) policy) s := by
  constructor
  · obtain ⟨total, s', hrun, hpurged, hconst⟩ := (@purgesExactly_purgeLoop ε Nat _ _ _ _ _
      ⟨processedAt, fun bound _ => bind bound⟩ _ cutoff _ (one_le_batchSize hpolicy) (afterRead s) hfin monotone_const).returns
    refine ⟨total, s', ?_, hpurged, hconst⟩
    intro fuel hfuel
    rw [run_sqlitePurge hage hcutoff, hrun fuel hfuel]
  · intro fuel step hstep
    exact deletesBelow_of_mem_steps hstep

end PurgeAux

open PurgeAux

/-- The purge of every backend is exact, with every policy that can be built and on every table. On SQLite, where the cutoff is computed
before the first statement, whenever it is. -/
theorem purge_exact (ε : Type) {C ι : Type} [LinearOrder ι] {policy : RetentionPolicy} (hpolicy : policy.Built) :
    (∀ (server : PurgeServer Int C ι Duration) (s : PurgeConn Int C ι), s.table.keys.Finite →
      Monotone (cutoffs server policy.maxAge s) →
        PurgesExactly server (cutoffs server policy.maxAge s) (PgInbox.purge (ε := ε) policy) s) ∧
    (∀ (server : PurgeServer Int C ι Nat) (s : PurgeConn Int C ι), s.table.keys.Finite →
      Monotone (cutoffs server (MySqlInbox.maxAgeMicros policy) s) →
        PurgesExactly server (cutoffs server (MySqlInbox.maxAgeMicros policy) s) (MySqlInbox.purge (ε := ε) policy) s) ∧
    (∀ (processedAt : C → ι) (bind : DateTime → WithBot ι) (s : PurgeConn DateTime C ι) (maxAge : Int) (cutoff : DateTime),
      s.table.keys.Finite → fromStd policy.maxAge = some maxAge → DateTime.ofNanos ((s.clock 0).nanos - maxAge) = some cutoff →
        PurgesExactly ⟨processedAt, fun bound _ => bind bound⟩ (fun _ => bind cutoff) (SqliteInbox.purge (ε := ε) policy) s) := by
  have hbatch := one_le_batchSize hpolicy
  refine ⟨fun server s => purgesExactly_purgeLoop policy.maxAge hbatch s,
    fun server s => purgesExactly_purgeLoop (MySqlInbox.maxAgeMicros policy) hbatch s, ?_⟩
  intro processedAt bind s maxAge cutoff hfin hage hcutoff
  exact purgesExactly_sqlite hpolicy processedAt bind hfin hage hcutoff

/-- A policy with a batch size of zero. -/
def zeroBatch : RetentionPolicy := (RetentionPolicy.new ⟨3600 * 1000000000, by decide⟩).withBatchSize 0

/-- A pool with two rows of one instant, which is too old, and a clock that moves. -/
noncomputable def tiedConn : PurgeConn Int Int Int :=
  ⟨fun n => 7200000000 + n, fun _ => Picker.choose, fun key => if key = ("mail", "1") ∨ key = ("mail", "2") then some 0 else none⟩

/-- The purge of the two rows on PostgreSQL. -/
theorem purge_exact_zeroBatch : zeroBatch.Built ∧ tiedConn.table.keys.Finite ∧
    Monotone (cutoffs PgInbox.purgeServer zeroBatch.maxAge tiedConn) ∧
    PurgesExactly PgInbox.purgeServer (cutoffs PgInbox.purgeServer zeroBatch.maxAge tiedConn) (PgInbox.purge (ε := Unit) zeroBatch)
      tiedConn := by
  have hbuilt : zeroBatch.Built := .withBatchSize 0 (.new _)
  have hfin : tiedConn.table.keys.Finite := by
    refine ((Set.finite_singleton ("mail", "2")).insert ("mail", "1")).subset ?_
    intro key hkey
    rw [Table.mem_keys_iff] at hkey
    by_contra hout
    exact hkey (if_neg hout)
  have hmono : Monotone (cutoffs PgInbox.purgeServer zeroBatch.maxAge tiedConn) := by
    intro i j hij
    simp only [cutoffs, PgInbox.purgeServer, tiedConn, WithBot.coe_le_coe]
    omega
  exact ⟨hbuilt, hfin, hmono, (purge_exact Unit hbuilt).1 _ _ hfin hmono⟩

end Txbox
