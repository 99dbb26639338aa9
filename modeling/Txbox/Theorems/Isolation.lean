import Txbox.Lemmas.History
import Txbox.Lemmas.Backends
import Txbox.Theorems.Purge

/-!
# Consumers do not interfere

On every backend, in every history of calls and purges, what a consumer gets and what it has are as if the calls of all other consumers
were not made. Every statement of a call is keyed by its consumer, the read-back of the tokens included, and a purge with one reading of
the clock takes a row or leaves it for the row's own sake, however many batches the rows of others make of it.
-/

namespace Txbox

open Lib

namespace IsolationAux

open HistoryAux

/-! ## Tables -/

section Tables

variable {C : Type} {t t' : Table C} {d : ConsumerId}

/-- An insert depends on the consumer's own rows. -/
theorem sameRows_insertNew (h : SameRows d t t') (id : String) (columns : C) :
    (t.insertNew (d.asStr, id) columns).1 = (t'.insertNew (d.asStr, id) columns).1 ∧
      SameRows d (t.insertNew (d.asStr, id) columns).2 (t'.insertNew (d.asStr, id) columns).2 := by
  refine ⟨?_, ?_⟩
  · unfold Table.insertNew
    rw [h id]
    split
    · rfl
    · rfl
  · intro id'
    rw [Table.insertNew_snd_apply, Table.insertNew_snd_apply, h id']

/-- So do many. -/
theorem sameRows_insertEach (columns : C) (ids : List String) (h : SameRows d t t') :
    (t.insertEach d.asStr columns ids).1 = (t'.insertEach d.asStr columns ids).1 ∧
      SameRows d (t.insertEach d.asStr columns ids).2 (t'.insertEach d.asStr columns ids).2 := by
  induction ids generalizing t t' with
  | nil => exact ⟨rfl, h⟩
  | cons id ids ih =>
    obtain ⟨hnew, hrows⟩ := sameRows_insertNew h id columns
    simp only [Table.insertEach]
    generalize t.insertNew (d.asStr, id) columns = p at *
    generalize t'.insertNew (d.asStr, id) columns = q at *
    obtain ⟨inserted, t₁⟩ := p
    obtain ⟨inserted', t₁'⟩ := q
    obtain rfl : inserted = inserted' := hnew
    obtain ⟨hfresh, hlast⟩ := ih hrows
    cases inserted with
    | true => exact ⟨congrArg (List.cons id) hfresh, hlast⟩
    | false => exact ⟨hfresh, hlast⟩

/-- An insert leaves the rows of other consumers alone. -/
theorem insertNew_others {consumer : String} (id : String) (columns : C) {key : String × String} (hkey : key.1 ≠ consumer) :
    (t.insertNew (consumer, id) columns).2 key = t key := by
  have hne : key ≠ (consumer, id) := fun h => hkey (congrArg Prod.fst h)
  rw [Table.insertNew_snd_apply]
  simp [hne]

/-- So do many. -/
theorem insertEach_others {consumer : String} (columns : C) (ids : List String) {key : String × String} (hkey : key.1 ≠ consumer) :
    (t.insertEach consumer columns ids).2 key = t key := by
  rw [Table.insertEach_snd_apply]
  simp [hkey]

/-- An insert keeps the table finite. -/
theorem finite_insertNew (key : String × String) (columns : C) (h : t.keys.Finite) : (t.insertNew key columns).2.keys.Finite := by
  refine (h.insert key).subset ?_
  intro k hk
  rw [Table.mem_keys_iff, Table.insertNew_snd_apply] at hk
  by_cases hsame : k = key
  · exact Or.inl hsame
  · simp only [hsame, and_false, if_false] at hk
    exact Or.inr (Table.mem_keys_iff.2 hk)

/-- So do many. -/
theorem finite_insertEach (consumer : String) (columns : C) (ids : List String) (h : t.keys.Finite) :
    (t.insertEach consumer columns ids).2.keys.Finite := by
  induction ids generalizing t with
  | nil => exact h
  | cons id ids ih =>
    rw [Table.insertEach_cons_snd]
    exact ih (finite_insertNew (consumer, id) columns h)

end Tables

/-! ## Purges -/

section Purges

open PurgeAux

variable {ε Code Now C ι B : Type} [LinearOrder ι] [ToString Code]

/-- With one reading of the clock the loop takes the rows below one cutoff, whatever is in the table and whatever rows it picks. -/
theorem run_purgeLoop_filter (server : PurgeServer Now C ι B) (bound : B) {batch : Nat} (hbatch : 1 ≤ batch) (now : Now)
    (picks : Nat → Picker (String × String) ι) : ∃ keep : C → Bool, ∀ t : Table C, t.keys.Finite → ∀ key,
      (Prog.run server.exec none (purgeLoop bound batch (t.keys.ncard + 1) 0 : PurgeProg ε Code Now B (PurgeResult ε))
        ⟨fun _ => now, picks, t⟩).2.table key = (t key).filter keep := by
  classical
  refine ⟨fun columns => decide (¬ (server.processedAt columns : WithBot ι) < server.cutoff bound now), ?_⟩
  intro t ht key
  have hmono : Monotone (cutoffs server bound (⟨fun _ => now, picks, t⟩ : PurgeConn Now C ι)) := fun _ _ _ => le_refl _
  obtain ⟨m, s', hpurged, hrun⟩ := @run_purgeLoop _ _ _ ε Code _ _ _ server bound _ hbatch _ ht hmono
  have hconst : ∀ n, cutoffs server bound (⟨fun _ => now, picks, t⟩ : PurgeConn Now C ι) n = server.cutoff bound now := fun _ => rfl
  obtain ⟨hgone, hkept, _⟩ := purged_constant hpurged hconst
  rw [hrun _ 0 (Nat.lt_succ_self _)]
  cases hrow : t key with
  | none =>
    refine (hkept key ?_).trans hrow
    rintro ⟨at', hat, _⟩
    simp [Table.column, hrow] at hat
  | some columns =>
    have hcolumn : t.column server.processedAt key = some (server.processedAt columns) := by
      simp [Table.column, hrow]
    by_cases hbelow : (server.processedAt columns : WithBot ι) < server.cutoff bound now
    · rw [hgone key ⟨_, hcolumn, hbelow⟩, Option.filter_some, if_neg (by simp [hbelow])]
    · have hnot : ¬ Below (t.column server.processedAt) (server.cutoff bound now) key := by
        rintro ⟨at', hat, hlt⟩
        rw [hcolumn] at hat
        cases hat
        exact hbelow hlt
      rw [hkept key hnot, Option.filter_some, if_pos (by simp [hbelow])]
      exact hrow

/-- `SqliteInbox::purge` does, too; where it fails before its first statement, it leaves every row. -/
theorem run_sqlitePurge_filter (server : PurgeServer DateTime C ι DateTime) (input : PurgeInput DateTime ι) :
    ∃ keep : C → Bool, ∀ t : Table C, t.keys.Finite → ∀ key,
      (runPurge server (SqliteInbox.purge (ε := ε)) input t).2 key = (t key).filter keep := by
  have hall : ∀ t : Table C, ∀ key, t key = (t key).filter (fun _ => true) := by
    intro t key
    cases t key <;> rfl
  cases hage : fromStd input.policy.maxAge with
  | none =>
    refine ⟨fun _ => true, fun t _ key => Eq.trans ?_ (hall t key)⟩
    rw [runPurge, run_sqlitePurge_of_refused hage]
    rfl
  | some maxAge =>
    cases hcutoff : DateTime.ofNanos (input.now.nanos - maxAge) with
    | none =>
      refine ⟨fun _ => true, fun t _ key => Eq.trans ?_ (hall t key)⟩
      rw [runPurge, run_sqlitePurge_of_panic hage hcutoff]
      rfl
    | some cutoff =>
      obtain ⟨keep, hkeep⟩ := @run_purgeLoop_filter ε Nat _ _ _ _ _ _ server cutoff _ (one_le_batchSize input.built) input.now
        input.picks
      refine ⟨keep, fun t ht key => ?_⟩
      have hrun := @run_sqlitePurge ε _ _ _ _ server ⟨fun _ => input.now, input.picks, t⟩ _ _ hage hcutoff (t.keys.ncard + 1)
      rw [runPurge, hrun]
      exact hkeep t ht key

end Purges

/-! ## Backends -/

section Backends

variable {ε ι : Type} [LinearOrder ι]

/-- The statements of a consumer on PostgreSQL. -/
def pgOf (d : ConsumerId) : PgInbox.Statement → Prop
  | .setLockTimeout _ => True
  | .claim consumer _ => consumer = d.asStr
  | .claimMany consumer _ => consumer = d.asStr

theorem only_pgSetLockTimeout (d : ConsumerId) (timeout : Option Duration) :
    Prog.Only (pgOf d) (PgInbox.setLockTimeout (ε := ε) timeout) := by
  cases timeout with
  | none => trivial
  | some timeout => exact Prog.only_perform trivial

/-- A consumer's statements depend on the start of the transaction and on its own rows. -/
theorem relates_pgExec (d : ConsumerId) : Prog.Relates (PgInbox.exec (ε := ε)) (pgOf d)
    (fun s t => s.started = t.started ∧ SameRows d s.table t.table) := by
  rintro c s t hc ⟨hstarted, hrows⟩
  cases c with
  | setLockTimeout value =>
    simp only [PgInbox.exec]
    split
    · exact ⟨rfl, hstarted, hrows⟩
    · exact ⟨rfl, hstarted, hrows⟩
  | claim consumer id =>
    obtain rfl : consumer = d.asStr := hc
    simp only [PgInbox.exec]
    split
    · exact ⟨rfl, hstarted, hrows⟩
    · obtain ⟨hnew, hlast⟩ := sameRows_insertNew hrows id s.started
      rw [hstarted] at hnew hlast ⊢
      exact ⟨by rw [hnew], rfl, hlast⟩
  | claimMany consumer ids =>
    obtain rfl : consumer = d.asStr := hc
    simp only [PgInbox.exec]
    split
    · exact ⟨rfl, hstarted, hrows⟩
    · obtain ⟨hfresh, hlast⟩ := sameRows_insertEach s.started (sortBytes ids) hrows
      rw [hstarted] at hfresh hlast ⊢
      exact ⟨by rw [hfresh], rfl, hlast⟩

/-- They leave the rows of others alone, and insert finitely many. -/
theorem pgExec_others {d : ConsumerId} {c : PgInbox.Statement} (hc : pgOf d c) (s : PgInbox.Conn) {key : String × String}
    (hkey : key.1 ≠ d.asStr) : (PgInbox.exec (ε := ε) c s).2.table key = s.table key := by
  cases c with
  | setLockTimeout value =>
    simp only [PgInbox.exec]
    split
    · rfl
    · rfl
  | claim consumer id =>
    obtain rfl : consumer = d.asStr := hc
    simp only [PgInbox.exec]
    split
    · rfl
    · exact insertNew_others _ _ hkey
  | claimMany consumer ids =>
    obtain rfl : consumer = d.asStr := hc
    simp only [PgInbox.exec]
    split
    · rfl
    · exact insertEach_others _ _ hkey

theorem pgExec_finite (c : PgInbox.Statement) (s : PgInbox.Conn) (h : s.table.keys.Finite) :
    (PgInbox.exec (ε := ε) c s).2.table.keys.Finite := by
  cases c with
  | setLockTimeout value =>
    simp only [PgInbox.exec]
    split
    · exact h
    · exact h
  | claim consumer id =>
    simp only [PgInbox.exec]
    split
    · exact h
    · exact finite_insertNew _ _ h
  | claimMany consumer ids =>
    simp only [PgInbox.exec]
    split
    · exact h
    · exact finite_insertEach _ _ _ h

/-- PostgreSQL keeps consumers apart. -/
theorem separates_pg (server : PurgeServer Int Int ι Duration) :
    Separates (PgInbox.sqlBackend ε server) pgOf (fun s t => s.started = t.started) where
  table_withTable _ _ := rfl
  begin _ _ _ := rfl
  withTable _ _ _ _ h := h
  claim request := by
    refine Prog.only_try (only_pgSetLockTimeout _ _) (fun _ => trivial) ?_
    intro u
    exact Prog.only_try (Prog.only_perform rfl) (fun _ => trivial) (fun _ => trivial)
  claimMany batch := by
    refine Prog.only_try (only_pgSetLockTimeout _ _) (fun _ => trivial) ?_
    intro u
    exact Prog.only_try (Prog.only_perform rfl) (fun _ => trivial) (fun _ => trivial)
  own := relates_pgExec
  others d c s hc key hkey := pgExec_others hc s hkey
  finite := pgExec_finite
  purge input := @run_purgeLoop_filter ε String _ _ _ _ _ _ server input.policy.maxAge _
    (PurgeAux.one_le_batchSize input.built) input.now input.picks

variable (json : JsonCodec)

/-- The statements of a consumer on SQLite. -/
def sqliteOf (d : ConsumerId) : SqliteInbox.Statement json → Prop
  | .utcNow => True
  | .claim consumer _ _ => consumer = d.asStr
  | .claimMany consumer _ _ => consumer = d.asStr

/-- A consumer's statements depend on the clock and on its own rows. -/
theorem relates_sqliteExec (d : ConsumerId) : Prog.Relates (SqliteInbox.exec json (ε := ε)) (sqliteOf json d)
    (fun s t => s.clock = t.clock ∧ SameRows d s.table t.table) := by
  rintro c s t hc ⟨hclock, hrows⟩
  cases c with
  | utcNow =>
    simp only [SqliteInbox.exec, hclock]
    exact ⟨trivial, trivial, hrows⟩
  | claim consumer id processedAt =>
    obtain rfl : consumer = d.asStr := hc
    obtain ⟨hnew, hlast⟩ := sameRows_insertNew hrows id processedAt
    simp only [SqliteInbox.exec, hnew]
    exact ⟨trivial, hclock, hlast⟩
  | claimMany consumer processedAt ids =>
    obtain rfl : consumer = d.asStr := hc
    obtain ⟨hfresh, hlast⟩ := sameRows_insertEach processedAt (json.decode ids) hrows
    simp only [SqliteInbox.exec, hfresh]
    exact ⟨trivial, hclock, hlast⟩

/-- They leave the rows of others alone, and insert finitely many. -/
theorem sqliteExec_others {d : ConsumerId} {c : SqliteInbox.Statement json} (hc : sqliteOf json d c) (s : SqliteInbox.Conn)
    {key : String × String} (hkey : key.1 ≠ d.asStr) : (SqliteInbox.exec json (ε := ε) c s).2.table key = s.table key := by
  cases c with
  | utcNow => rfl
  | claim consumer id processedAt =>
    obtain rfl : consumer = d.asStr := hc
    exact insertNew_others _ _ hkey
  | claimMany consumer processedAt ids =>
    obtain rfl : consumer = d.asStr := hc
    exact insertEach_others _ _ hkey

theorem sqliteExec_finite (c : SqliteInbox.Statement json) (s : SqliteInbox.Conn) (h : s.table.keys.Finite) :
    (SqliteInbox.exec json (ε := ε) c s).2.table.keys.Finite := by
  cases c with
  | utcNow => exact h
  | claim consumer id processedAt => exact finite_insertNew _ _ h
  | claimMany consumer processedAt ids => exact finite_insertEach _ _ _ h

/-- SQLite keeps consumers apart. -/
theorem separates_sqlite (server : PurgeServer DateTime Int ι DateTime) :
    Separates (SqliteInbox.sqlBackend ε json server) (sqliteOf json) (fun s t => s.clock = t.clock) where
  table_withTable _ _ := rfl
  begin _ _ _ := rfl
  withTable _ _ _ _ h := h
  claim request := by
    refine Prog.only_bind (Prog.only_perform trivial) ?_
    intro now
    exact Prog.only_try (Prog.only_perform rfl) (fun _ => trivial) (fun _ => trivial)
  claimMany batch := by
    refine Prog.only_bind (Prog.only_perform trivial) ?_
    intro now
    exact Prog.only_try (Prog.only_perform rfl) (fun _ => trivial) (fun _ => trivial)
  own := relates_sqliteExec json
  others d c s hc key hkey := sqliteExec_others json hc s hkey
  finite := sqliteExec_finite json
  purge := run_sqlitePurge_filter server

/-- The statements of a consumer on MySQL. -/
def mysqlOf (d : ConsumerId) : MySqlInbox.Statement json → Prop
  | .claim consumer _ => consumer = d.asStr
  | .claimMany consumer _ _ => consumer = d.asStr
  | .claimedByToken _ consumer _ => consumer = d.asStr
  | .unclaim consumer _ => consumer = d.asStr
  | _ => True

/-- What a consumer's statements read of a connection: the clock, the tokens, and whether a lock timeout is saved. -/
def SameReads (s t : MySqlInbox.Conn) : Prop :=
  s.clock = t.clock ∧ s.tokens = t.tokens ∧ s.vars.saved.isSome = t.vars.saved.isSome

/-- A consumer's name fits its column. -/
theorem cut_consumer (d : ConsumerId) : MySqlInbox.cut 255 d.asStr = d.asStr := BackendsAux.cut_eq (BackendsAux.length_le d)

/-- A consumer's statements depend on what they read of the connection and on its own rows. -/
theorem relates_mysqlExec (d : ConsumerId) : Prog.Relates (MySqlInbox.exec json (ε := ε)) (mysqlOf json d)
    (fun s t => SameReads s t ∧ SameRows d s.table t.table) := by
  rintro c s t hc ⟨⟨hclock, htokens, hsaved⟩, hrows⟩
  cases c with
  | random =>
    simp only [MySqlInbox.exec, htokens]
    exact ⟨trivial, ⟨hclock, rfl, hsaved⟩, hrows⟩
  | setLockTimeout secs => exact ⟨rfl, ⟨hclock, htokens, rfl⟩, hrows⟩
  | claim consumer id =>
    obtain rfl : consumer = d.asStr := hc
    obtain ⟨hnew, hlast⟩ := sameRows_insertNew hrows (MySqlInbox.cut 512 id) (⟨t.clock 0, none⟩ : MySqlInbox.Columns)
    simp only [MySqlInbox.exec, cut_consumer, hclock, hnew]
    exact ⟨trivial, ⟨congrArg (fun clock n => clock (n + 1)) hclock, htokens, hsaved⟩, hlast⟩
  | restoreLockTimeout =>
    cases hs : s.vars.saved with
    | none =>
      have ht : t.vars.saved = none := by
        rw [hs] at hsaved
        exact Option.isSome_eq_false_iff.1 hsaved.symm |> Option.isNone_iff_eq_none.1
      simp only [MySqlInbox.exec, MySqlInbox.LockVars.restore, hs, ht]
      exact ⟨trivial, ⟨hclock, htokens, hsaved⟩, hrows⟩
    | some value =>
      obtain ⟨value', ht⟩ : ∃ value', t.vars.saved = some value' := by
        rw [hs] at hsaved
        exact Option.isSome_iff_exists.1 hsaved.symm
      simp only [MySqlInbox.exec, MySqlInbox.LockVars.restore, hs, ht]
      exact ⟨trivial, ⟨hclock, htokens, rfl⟩, hrows⟩
  | claimMany consumer token ids =>
    obtain rfl : consumer = d.asStr := hc
    obtain ⟨hfresh, hlast⟩ := sameRows_insertEach (⟨t.clock 0, some token⟩ : MySqlInbox.Columns) (sortBytes (json.decode ids)) hrows
    simp only [MySqlInbox.exec]
    split
    · rw [hclock]
      exact ⟨rfl, ⟨congrArg (fun clock n => clock (n + 1)) hclock, htokens, hsaved⟩, hlast⟩
    · exact ⟨rfl, ⟨hclock, htokens, hsaved⟩, hrows⟩
  | claimedByToken ids consumer token =>
    obtain rfl : consumer = d.asStr := hc
    refine ⟨?_, ⟨hclock, htokens, hsaved⟩, hrows⟩
    simp only [MySqlInbox.exec]
    refine congrArg Except.ok (List.filter_congr ?_)
    intro id _
    rw [hrows id]
  | unclaim consumer id =>
    obtain rfl : consumer = d.asStr := hc
    refine ⟨rfl, ⟨hclock, htokens, hsaved⟩, ?_⟩
    intro id'
    simp only [MySqlInbox.exec, Function.update_apply]
    rw [hrows id']

/-- They leave the rows of others alone, and insert finitely many. -/
theorem mysqlExec_others {d : ConsumerId} {c : MySqlInbox.Statement json} (hc : mysqlOf json d c) (s : MySqlInbox.Conn)
    {key : String × String} (hkey : key.1 ≠ d.asStr) : (MySqlInbox.exec json (ε := ε) c s).2.table key = s.table key := by
  cases c with
  | random => rfl
  | setLockTimeout secs => rfl
  | claim consumer id =>
    obtain rfl : consumer = d.asStr := hc
    simp only [MySqlInbox.exec, cut_consumer]
    exact insertNew_others _ _ hkey
  | restoreLockTimeout => rfl
  | claimMany consumer token ids =>
    obtain rfl : consumer = d.asStr := hc
    simp only [MySqlInbox.exec]
    split
    · exact insertEach_others _ _ hkey
    · rfl
  | claimedByToken ids consumer token => rfl
  | unclaim consumer id =>
    obtain rfl : consumer = d.asStr := hc
    have hne : key ≠ (d.asStr, id) := fun h => hkey (congrArg Prod.fst h)
    exact Function.update_of_ne hne _ _

theorem mysqlExec_finite (c : MySqlInbox.Statement json) (s : MySqlInbox.Conn) (h : s.table.keys.Finite) :
    (MySqlInbox.exec json (ε := ε) c s).2.table.keys.Finite := by
  cases c with
  | random => exact h
  | setLockTimeout secs => exact h
  | claim consumer id => exact finite_insertNew _ _ h
  | restoreLockTimeout => exact h
  | claimMany consumer token ids =>
    simp only [MySqlInbox.exec]
    split
    · exact finite_insertEach _ _ _ h
    · exact h
  | claimedByToken ids consumer token => exact h
  | unclaim consumer id => exact finite_erase _ h

theorem only_mysqlSetLockTimeout (d : ConsumerId) (timeout : Option Duration) :
    Prog.Only (mysqlOf json d) (MySqlInbox.setLockTimeout json (ε := ε) timeout) := by
  cases timeout with
  | none => trivial
  | some timeout => exact Prog.only_perform trivial

theorem only_mysqlRestoreLockTimeout (d : ConsumerId) (timeout : Option Duration) :
    Prog.Only (mysqlOf json d) (MySqlInbox.restoreLockTimeout json (ε := ε) timeout) := by
  cases timeout with
  | none => trivial
  | some timeout => exact Prog.only_perform trivial

/-- MySQL keeps consumers apart. -/
theorem separates_mysql (server : PurgeServer Int MySqlInbox.Columns ι Nat) :
    Separates (MySqlInbox.sqlBackend ε json server) (mysqlOf json) SameReads where
  table_withTable _ _ := rfl
  begin _ _ _ := ⟨rfl, rfl, rfl⟩
  withTable _ _ _ _ h := h
  claim request := by
    refine Prog.only_try (only_mysqlSetLockTimeout json _ _) (fun _ => trivial) ?_
    intro u
    refine Prog.only_bind (Prog.only_perform rfl) ?_
    intro result
    refine Prog.only_bind (only_mysqlRestoreLockTimeout json _ _) ?_
    intro restored
    cases result with
    | error e => trivial
    | ok affected => cases restored <;> trivial
  claimMany batch := by
    refine Prog.only_try (Prog.only_perform trivial) (fun _ => trivial) ?_
    intro token
    refine Prog.only_try (only_mysqlSetLockTimeout json _ _) (fun _ => trivial) ?_
    intro u
    refine Prog.only_bind (Prog.only_perform rfl) ?_
    intro result
    refine Prog.only_bind (only_mysqlRestoreLockTimeout json _ _) ?_
    intro restored
    cases result with
    | error e => trivial
    | ok u =>
      cases restored with
      | error e => trivial
      | ok u =>
        exact Prog.only_try (Prog.only_perform rfl) (fun _ => trivial) (fun _ => trivial)
  own := relates_mysqlExec json
  others d c s hc key hkey := mysqlExec_others json hc s hkey
  finite := mysqlExec_finite json
  purge input := @run_purgeLoop_filter ε Nat _ _ _ _ _ _ server (MySqlInbox.maxAgeMicros input.policy) _
    (PurgeAux.one_le_batchSize input.built) input.now input.picks

end Backends

end IsolationAux

open IsolationAux

/-- In every history on every backend, whatever the server compares in a purge, every consumer gets and has what it would if the calls
of all others were removed. -/
theorem consumers_isolated (ε T D R H : Type) {ι : Type} [LinearOrder ι] (json : JsonCodec) (c : ConsumerId) :
    (∀ (server : PurgeServer Int Int ι Duration) (history : List (HistoryStep (PgInbox.sqlBackend ε server) T D R H))
      (s : Shared (PgInbox.sqlBackend ε server) D), s.contents.table.keys.Finite → Isolated c history s) ∧
    (∀ (server : PurgeServer DateTime Int ι DateTime)
      (history : List (HistoryStep (SqliteInbox.sqlBackend ε json server) T D R H))
      (s : Shared (SqliteInbox.sqlBackend ε json server) D), s.contents.table.keys.Finite → Isolated c history s) ∧
    (∀ (server : PurgeServer Int MySqlInbox.Columns ι Nat)
      (history : List (HistoryStep (MySqlInbox.sqlBackend ε json server) T D R H))
      (s : Shared (MySqlInbox.sqlBackend ε json server) D), s.contents.table.keys.Finite → Isolated c history s) := by
  refine ⟨?_, ?_, ?_⟩
  · intro server history s hs
    exact (separates_pg server).isolated c history hs
  · intro server history s hs
    exact (separates_sqlite json server).isolated c history hs
  · intro server history s hs
    exact (separates_mysql json server).isolated c history hs

namespace PgInbox

/-- Two consumers that both get the message. -/
def stock : Consumer := ⟨⟨"stock", by decide⟩, none⟩

/-- The other. -/
def refunds : Consumer := ⟨⟨"refunds", by decide⟩, none⟩

/-- The message. -/
def returned : MessageId := ⟨"return-7", by decide⟩

/-- A call of a consumer with a handler that adds one to its consumer's business data. -/
def counting (job : Job) (now : Int) : Request Unit Unit Nat Unit Unit where
  job := job
  handler _ closure := .statement (fun count => .ok ((), count + 1)) fun _ => .ret (.ok (), closure)
  closure := ()
  readings := ⟨fun _ => now, fun _ => 0⟩

/-- A purge of what is older than two seconds. -/
noncomputable def purgeSeconds (now : Int) : PurgeInput Int Int where
  policy := RetentionPolicy.new ⟨2000000000, by decide⟩
  built := .new _
  now := now
  picks _ := Picker.choose

/-- The calls of both, a purge, and a redelivery. -/
noncomputable def mixed : List (HistoryStep (PgInbox.sqlBackend Unit PgInbox.purgeServer) Unit Nat Unit Unit) :=
  [.request (counting (.process stock returned) 0), .request (counting (.processMany refunds [returned, returned]) 1),
    .purge (purgeSeconds 3000000), .request (counting (.claimMany stock [returned] .commit) 3000001)]

end PgInbox

/-- An empty inbox, and a history in which two consumers get one message. -/
theorem consumers_isolated_mixed :
    let s : Shared (PgInbox.sqlBackend Unit PgInbox.purgeServer) Nat := ⟨⟨fun _ => none, fun _ => 0⟩, ⟨0, none, fun _ => none⟩⟩
    s.contents.table.keys.Finite ∧ Isolated PgInbox.stock.id PgInbox.mixed s := by
  have hfin : Set.Finite (Table.keys fun _ => (none : Option Int)) := by
    refine Set.finite_empty.subset ?_
    intro key hkey
    exact (Table.mem_keys_iff.1 hkey rfl).elim
  exact ⟨hfin, (consumers_isolated Unit Unit Nat Unit Unit JsonCodec.list PgInbox.stock.id).1 _ _ _ hfin⟩

end Txbox
