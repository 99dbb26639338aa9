import Txbox.Lemmas.Contract

/-!
# The claims of the backends keep the contract

On SQLite always, and on PostgreSQL with the lock timeouts that the server accepts. `MySqlInbox::claim_many` reads its rows back by a
random token: it is right as long as no row it sees carries the token it draws, and that is so along a run whose tokens are distinct
and in no row at its start.
-/

namespace Txbox

open Lib

namespace ContractAux

variable {ε : Type}

/-! ## PostgreSQL and SQLite -/

section Plain

variable {ι : Type} [LinearOrder ι]

theorem claimsRight_pg (server : PurgeServer Int Int ι Duration) :
    ClaimsRight (PgInbox.sqlBackend ε server) fun op _ _ => PgInbox.TimeoutAccepted op.lockTimeout where
  claim request hnul conn t ht := BackendsAux.claimsOne_pg (ε := ε) request ht hnul { conn with table := t }
  claimMany batch hnul conn t ht := BackendsAux.claimsMany_pg (ε := ε) batch ht hnul { conn with table := t }

theorem claimsRight_sqlite (json : JsonCodec) (server : PurgeServer DateTime Int ι DateTime) :
    ClaimsRight (SqliteInbox.sqlBackend ε json server) fun _ _ _ => True where
  claim request _ conn t _ := BackendsAux.claimsOne_sqlite (ε := ε) json request { conn with table := t }
  claimMany batch hnul conn t _ := BackendsAux.claimsMany_sqlite (ε := ε) json batch hnul { conn with table := t }

end Plain

end ContractAux

/-- Every lock timeout of a run is one that PostgreSQL accepts. -/
def PgInbox.TimeoutsAccepted {σ : Type} (steps : List (σ × StoreOp × σ)) : Prop :=
  ∀ step ∈ steps, TimeoutAccepted step.2.1.lockTimeout

/-! ## MySQL -/

namespace MySqlInbox

/-- No row carries one of these tokens. -/
def Free (tokens : List UInt64) (t : Table Columns) : Prop :=
  ∀ key columns, t key = some columns → ∀ token ∈ tokens, columns.claimToken ≠ some token

theorem Free.mono {tokens tokens' : List UInt64} {t : Table Columns} (h : Free tokens t) (hsub : tokens' ⊆ tokens) : Free tokens' t :=
  fun key columns hkey token htoken => h key columns hkey token (hsub htoken)

variable {ε : Type} {json : JsonCodec} {ι : Type} [LinearOrder ι] {server : PurgeServer Int Columns ι Nat}

/-- The random numbers that a call draws. -/
def draws (s : Pool (sqlBackend ε json server)) : StoreOp → List UInt64
  | .claimMany _ => [Conn.tokens s.turn.conn 0]
  | _ => []

/-- Those drawn along a run. -/
def drawn (steps : List (Pool (sqlBackend ε json server) × StoreOp × Pool (sqlBackend ε json server))) : List UInt64 :=
  steps.flatMap fun step => draws step.1 step.2.1

/-- Every `claim_many` draws one. -/
theorem length_drawn (steps : List (Pool (sqlBackend ε json server) × StoreOp × Pool (sqlBackend ε json server))) :
    (drawn steps).length = steps.countP fun step => step.2.1.isClaimMany := by
  induction steps with
  | nil => rfl
  | cons step steps ih =>
    have hcons : drawn (step :: steps) = draws step.1 step.2.1 ++ drawn steps := rfl
    rw [hcons, List.length_append, ih, List.countP_cons]
    cases step.2.1 <;> simp [draws, StoreOp.isClaimMany, Nat.add_comm]

/-- The random numbers drawn along a run are distinct, and no row that is committed at its start carries one of them. -/
structure FreshTokens (s : Pool (sqlBackend ε json server))
    (steps : List (Pool (sqlBackend ε json server) × StoreOp × Pool (sqlBackend ε json server))) : Prop where
  distinct : (drawn steps).Nodup
  free : Free (drawn steps) s.table

end MySqlInbox

namespace ContractAux

section MySql

open MySqlInbox

variable {ε : Type} (json : JsonCodec)

/-- A statement that draws no number, and stamps rows with no token of a list. -/
def Spares (tokens : List UInt64) : MySqlInbox.Statement json → Prop
  | .random => False
  | .claimMany _ token _ => token ∉ tokens
  | _ => True

theorem free_insertNew {tokens : List UInt64} {t : Table Columns} (h : Free tokens t) (key : String × String) (time : Int) :
    Free tokens (t.insertNew key ⟨time, none⟩).2 := by
  intro k columns hk token htoken
  rw [Table.insertNew_snd_apply] at hk
  split_ifs at hk with hnew
  · cases hk
    simp
  · exact h k columns hk token htoken

theorem free_insertEach {tokens : List UInt64} {t : Table Columns} (h : Free tokens t) {stamp : UInt64} (hstamp : stamp ∉ tokens)
    (consumer : String) (ids : List String) (time : Int) : Free tokens (t.insertEach consumer ⟨time, some stamp⟩ ids).2 := by
  intro k columns hk token htoken heq
  rw [Table.insertEach_snd_apply] at hk
  split_ifs at hk with hnew
  · cases hk
    simp only [Option.some.injEq] at heq
    exact hstamp (heq ▸ htoken)
  · exact h k columns hk token htoken heq

/-- Such a statement keeps the table free of the tokens. -/
theorem exec_spares {tokens : List UInt64} (c : MySqlInbox.Statement json) (s : MySqlInbox.Conn) (hc : Spares json tokens c)
    (hs : Free tokens s.table) : Free tokens (exec (ε := ε) json c s).2.table := by
  cases c with
  | random => exact hc.elim
  | setLockTimeout secs => exact hs
  | claim consumer id => exact free_insertNew hs _ _
  | restoreLockTimeout => exact hs
  | claimMany consumer token ids =>
    simp only [exec]
    split_ifs
    · exact free_insertEach hs hc _ _ _
    · exact hs
  | claimedByToken ids consumer token => exact hs
  | unclaim consumer id =>
    intro key columns hkey
    by_cases heq : key = (consumer, id)
    · subst heq
      simp [exec] at hkey
    · exact hs key columns (by simpa [exec, heq] using hkey)

theorem only_setLockTimeout (tokens : List UInt64) (timeout : Option Duration) :
    Prog.Only (Spares json tokens) (MySqlInbox.setLockTimeout json (ε := ε) timeout) := by
  cases timeout with
  | none => exact trivial
  | some timeout => exact Prog.only_perform trivial

theorem only_restoreLockTimeout (tokens : List UInt64) (timeout : Option Duration) :
    Prog.Only (Spares json tokens) (MySqlInbox.restoreLockTimeout json (ε := ε) timeout) := by
  cases timeout with
  | none => exact trivial
  | some timeout => exact Prog.only_perform trivial

/-- `MySqlInbox::claim` stamps no row. -/
theorem only_claim (tokens : List UInt64) (request : ClaimRequest) :
    Prog.Only (Spares json tokens) (MySqlInbox.claim json (ε := ε) request) := by
  refine Prog.only_try (only_setLockTimeout json tokens _) (fun _ => trivial) fun _ => ?_
  refine Prog.only_bind (Prog.only_perform trivial) fun result => ?_
  refine Prog.only_bind (only_restoreLockTimeout json tokens _) fun restored => ?_
  rcases result with e | affected
  · exact trivial
  · rcases restored with e | _ <;> exact trivial

/-- `MySqlInbox::claim_many` draws a number, and stamps rows with that one only. -/
theorem claimMany_random (tokens : List UInt64) (batch : ClaimBatch) : ∃ k, MySqlInbox.claimMany json (ε := ε) batch = .call .random k ∧
    ∀ token, token ∉ tokens → Prog.Only (Spares json tokens) (k (.ok token)) := by
  refine ⟨_, rfl, ?_⟩
  intro token htoken
  change Prog.Only (Spares json tokens) ((MySqlInbox.setLockTimeout json batch.lockTimeout).bind _)
  refine Prog.only_try (only_setLockTimeout json tokens _) (fun _ => trivial) fun _ => ?_
  refine Prog.only_bind (Prog.only_perform htoken) fun result => ?_
  refine Prog.only_bind (only_restoreLockTimeout json tokens _) fun restored => ?_
  rcases result with e | _
  · exact trivial
  · rcases restored with e | _
    · exact trivial
    · refine Prog.only_bind (Prog.only_perform trivial) fun fresh => ?_
      rcases fresh with e | fresh <;> exact trivial

/-- `MySqlInbox::claim` leaves the table free of the tokens. -/
theorem free_claim {tokens : List UInt64} (request : ClaimRequest) (s : MySqlInbox.Conn) (h : Free tokens s.table) :
    Free tokens (Prog.run (exec (ε := ε) json) none (MySqlInbox.claim json request) s).2.table :=
  Prog.run_keeps (I := fun s : MySqlInbox.Conn => Free tokens s.table) (exec_spares json) (only_claim json tokens request) h

/-- So does `MySqlInbox::claim_many`, of those that it does not draw. -/
theorem free_claimMany {tokens : List UInt64} (batch : ClaimBatch) (s : MySqlInbox.Conn) (hnew : s.tokens 0 ∉ tokens)
    (h : Free tokens s.table) :
    Free tokens (Prog.run (exec (ε := ε) json) none (MySqlInbox.claimMany json batch) s).2.table := by
  obtain ⟨k, hk, honly⟩ := claimMany_random json (ε := ε) tokens batch
  rw [hk]
  exact Prog.run_keeps (I := fun s : MySqlInbox.Conn => Free tokens s.table) (exec_spares json) (honly _ hnew) h

variable {json} {ι : Type} [LinearOrder ι] {server : PurgeServer Int Columns ι Nat}

theorem claimsRight_mysql : ClaimsRight (MySqlInbox.sqlBackend ε json server) fun op (conn : MySqlInbox.Conn) (t : Table Columns) =>
    ∀ batch, op = .claimMany batch → Free [conn.tokens 0] t where
  claim request _ conn t _ := BackendsAux.claimsOne_mysql (ε := ε) json request { conn with table := t }
  claimMany batch hnul conn t hready := by
    refine BackendsAux.claimsMany_mysql (ε := ε) json batch hnul { conn with table := t } ?_
    intro key columns hkey
    exact hready batch rfl key columns hkey _ List.mem_cons_self

/-- The calls of a run are ready as long as the numbers it draws are distinct and in no row. -/
theorem made_of_drawn {α : Type} {p : StoreProg ε α} (hplain : Prog.Only StoreOp.Plain p)
    {s : Pool (MySqlInbox.sqlBackend ε json server)} (hdistinct : (drawn (Prog.steps Pool.exec p s)).Nodup)
    (hfree : s.Both (Free (drawn (Prog.steps Pool.exec p s)))) :
    ∀ step ∈ Prog.steps Pool.exec p s, step.1.Made (fun op (conn : MySqlInbox.Conn) (t : Table Columns) =>
      ∀ batch, op = .claimMany batch → Free [conn.tokens 0] t) step.2.1 := by
  induction p generalizing s with
  | ret a => simp [Prog.steps]
  | panic m => simp [Prog.steps]
  | call op k ih =>
    obtain ⟨later, hlater⟩ : ∃ later, later = Prog.steps Pool.exec (k (Pool.exec op s).1) (Pool.exec op s).2 := ⟨_, rfl⟩
    have hsteps : Prog.steps Pool.exec (.call op k) s = (s, op, (Pool.exec op s).2) :: later := by rw [hlater]; rfl
    have hdrawn : drawn ((s, op, (Pool.exec op s).2) :: later) = draws s op ++ drawn later := rfl
    rw [hsteps, hdrawn] at hdistinct hfree
    rw [hsteps]
    -- What is drawn later is not what this call draws, if it draws one.
    obtain ⟨_, hnodup, hnew⟩ := List.nodup_append.1 hdistinct
    have hnow : s.Both (Free (draws s op)) := ⟨hfree.1.mono (List.subset_append_left _ _), hfree.2.mono (List.subset_append_left _ _)⟩
    have hlast : s.Both (Free (drawn later)) := ⟨hfree.1.mono (List.subset_append_right _ _), hfree.2.mono (List.subset_append_right _ _)⟩
    rintro step hstep
    rcases List.mem_cons.1 hstep with rfl | hstep
    · refine ⟨hplain.1, ?_⟩
      rintro batch rfl
      exact hnow.2
    · subst hlater
      refine ih _ (hplain.2 _) hnodup ?_ step hstep
      refine both_exec hplain.1 ?_ ?_ hlast
      · rintro request rfl t ht
        exact free_claim json request _ ht
      · rintro batch rfl t ht
        exact free_claimMany json batch _ (fun hmem => hnew _ List.mem_cons_self _ hmem rfl) ht

end MySql

end ContractAux

end Txbox
