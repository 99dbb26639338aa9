import Txbox.Connection

/-!
# What the handler's statements wait under

A lock timeout is set for the claim. On MySQL it is taken back right after the claim statement; on PostgreSQL it stays in force to the
end of the transaction, so that the handler's statements run under it. A connection is followed statement by statement, with the
variables as they are and, beside them, as the application's own statements and transactions alone would have left them.
-/

namespace Txbox

open Lib

/-! ## Connections and their variables -/

/-- A connection: whatever its server answers from, its variables, and the variables as they would be without the statements that set
and restore the timeout of a claim. No statement reads the last. -/
structure LockState (W V : Type) where
  world : W
  vars : V
  own : V

/-- A server as its lock timeout sees it: what it answers, what its variables are after a statement that was answered so, the timeout
in force, and which statements of the backend are claims and which are there for the claim's timeout only. -/
structure TimeoutServer (ε S U W V : Type) (A : S → Type) (R : U → Type) where
  answer : (c : TxOp S U) → W → V → TxReply ε A R c × W
  after : (c : TxOp S U) → TxReply ε A R c → W → V → V
  inForce : V → Nat
  isClaim : S → Bool
  isTimeout : S → Bool

namespace TimeoutServer

variable {ε S U W V α : Type} {A : S → Type} {R : U → Type} (server : TimeoutServer ε S U W V A R)

/-- The statement is there for the timeout of a claim. -/
def setsTimeout : TxOp S U → Bool
  | .store c => server.isTimeout c
  | _ => false

/-- The statement would be sent without a lock timeout, and is not the claim. -/
def isOther : TxOp S U → Bool
  | .store c => !server.isClaim c && !server.isTimeout c
  | _ => true

/-- What a statement does. -/
def exec (c : TxOp S U) (s : LockState W V) : TxReply ε A R c × LockState W V :=
  let (r, w) := server.answer c s.world s.vars
  (r, ⟨w, server.after c r s.world s.vars, if server.setsTimeout c then s.own else server.after c r s.world s.own⟩)

/-- Every statement of a run but the claims, and those that set and restore their timeout, is executed under the timeout it would have
without these. -/
def OwnTimeouts (p : TxProg ε A R α) (s : LockState W V) : Prop :=
  ∀ step ∈ Prog.steps server.exec p s, server.isOther step.2.1 → server.inForce step.1.vars = server.inForce step.1.own

end TimeoutServer

/-! ## PostgreSQL -/

namespace PgInbox

/-- `lock_timeout` in milliseconds, `0` for none: what the session has after a rollback of the open transaction and after a commit,
what is in force, and the last two as every open savepoint saved them. -/
structure LockVars where
  afterRollback : Nat
  afterCommit : Nat
  current : Nat
  saves : List (Nat × Nat)
  deriving DecidableEq, Repr

namespace LockVars

/-- A connection outside a transaction. -/
def idle (value : Nat) : LockVars := ⟨value, value, value, []⟩

/-- The end of a transaction that was committed, or rolled back. -/
def finish (landed : Bool) (vars : LockVars) : LockVars := idle (if landed then vars.afterCommit else vars.afterRollback)

/-- `set_config('lock_timeout', value, true)`: until the end of the transaction. -/
def setLocal (value : Nat) (vars : LockVars) : LockVars := { vars with current := value }

/-- `SAVEPOINT`. -/
def savepoint (vars : LockVars) : LockVars := { vars with saves := (vars.afterCommit, vars.current) :: vars.saves }

/-- `RELEASE SAVEPOINT`: what was set under it stays. -/
def release (vars : LockVars) : LockVars := { vars with saves := vars.saves.tail }

/-- `ROLLBACK TO SAVEPOINT`: what was set under it is gone. -/
def rollbackTo (vars : LockVars) : LockVars :=
  match vars.saves with
  | [] => vars
  | (afterCommit, current) :: _ => { vars with afterCommit, current }

end LockVars

section Server

variable {ε U W : Type} {R : U → Type}

/-- The variables after a statement. A commit may find the transaction aborted, and the application's statements may set what they
like. -/
def afterStatement (lands : W → Bool) (touch : (c : U) → R c → W → LockVars → LockVars) :
    (c : TxOp Statement U) → TxReply ε (Answer ε) R c → W → LockVars → LockVars
  | .commit, _, w, vars => vars.finish (lands w)
  | .rollback, _, _, vars => vars.finish false
  | .savepoint, .ok (), _, vars => vars.savepoint
  | .releaseAndSavepoint, .ok (), _, vars => vars.release.savepoint
  | .release, .ok (), _, vars => vars.release
  | .rollbackTo, .ok (), _, vars => vars.rollbackTo
  | .store (.setLockTimeout value), .ok (), _, vars => (acceptedMillis value).elim vars fun millis => vars.setLocal millis
  | .user c, r, w, vars => touch c r w vars
  | _, _, _, vars => vars

/-- PostgreSQL, with any answers. -/
def timeoutServer (answer : (c : TxOp Statement U) → W → LockVars → TxReply ε (Answer ε) R c × W) (lands : W → Bool)
    (touch : (c : U) → R c → W → LockVars → LockVars) : TimeoutServer ε Statement U W LockVars (Answer ε) R where
  answer := answer
  after := afterStatement lands touch
  inForce := LockVars.current
  isClaim c := match c with
    | .claim _ _ => true
    | .claimMany _ _ => true
    | .setLockTimeout _ => false
  isTimeout c := match c with
    | .setLockTimeout _ => true
    | _ => false

/-- A claim that sets a timeout the server accepts sets the one that is in force already. -/
def SetsOwn (s : LockState W LockVars) (c : TxOp Statement U) : Prop :=
  ∀ value millis, c = .store (.setLockTimeout value) → acceptedMillis value = some millis → millis = s.vars.current

end Server

end PgInbox

/-! ## MySQL -/

namespace MySqlInbox

variable {ε U W : Type} {R : U → Type} (json : JsonCodec)

/-- The variables after a statement. The application's statements may set `innodb_lock_wait_timeout`. -/
def afterStatement (touch : (c : U) → R c → W → Nat → Nat) :
    (c : TxOp (Statement json) U) → TxReply ε (Answer json ε) R c → W → LockVars → LockVars
  | .begin, .ok (), _, vars => vars.begin
  | .store (.setLockTimeout secs), .ok (), _, vars => vars.set secs
  | .store .restoreLockTimeout, _, _, vars => (vars.restore (ε := ε)).2
  | .user c, r, w, vars => { vars with lockWaitTimeout := touch c r w vars.lockWaitTimeout }
  | _, _, _, vars => vars

/-- MySQL, with any answers but that of the restore. -/
def timeoutServer (answer : (c : TxOp (Statement json) U) → W → LockVars → TxReply ε (Answer json ε) R c × W)
    (touch : (c : U) → R c → W → Nat → Nat) : TimeoutServer ε (Statement json) U W LockVars (Answer json ε) R where
  answer c w vars := match c with
    | .store .restoreLockTimeout => (vars.restore.1, (answer (.store .restoreLockTimeout) w vars).2)
    | c => answer c w vars
  after := afterStatement json touch
  inForce := LockVars.lockWaitTimeout
  isClaim c := match c with
    | .claim _ _ => true
    | .claimMany _ _ _ => true
    | _ => false
  isTimeout c := match c with
    | .setLockTimeout _ => true
    | .restoreLockTimeout => true
    | _ => false

end MySqlInbox

/-! ## Runs -/

namespace HandlerTimeoutAux

section Visits

variable {ε T S U σ : Type} {A : S → Type} {R : U → Type} {exec : (c : TxOp S U) → σ → TxReply ε A R c × σ}
  {C P : σ → TxOp S U → Prop} {I : σ → Prop}

/-- A function of the backend is run by the statements of the backend. -/
theorem along_onStore {α : Type} {Q : α → σ → Prop} {p : Prog S A α} {s : σ}
    (h : Prog.Along (fun c s => exec (.store c) s) (fun s c => C s (.store c)) (fun s c => P s (.store c)) Q p s) :
    Prog.Along exec C P Q (onStore p) s := by
  induction p generalizing s with
  | ret a => exact h
  | panic m => trivial
  | call c k ih =>
    intro hc
    exact ⟨(h hc).1, ih _ (h hc).2⟩

/-- The statements that are not the backend's keep the invariant, and are made where the condition holds. -/
def OpsKeep (exec : (c : TxOp S U) → σ → TxReply ε A R c × σ) (C P : σ → TxOp S U → Prop) (I : σ → Prop) : Prop :=
  ∀ c, (∀ c', c ≠ .store c') → ∀ s, I s → C s c → P s c ∧ I (exec c s).2

/-- The claims of the backend keep the invariant. -/
structure ClaimsKeep (exec : (c : TxOp S U) → σ → TxReply ε A R c × σ) (C P : σ → TxOp S U → Prop) (I : σ → Prop)
    (impl : ClaimImpl ε S A) : Prop where
  claim : ∀ request s, I s → Prog.Along exec C P (fun _ s' => I s') (onStore (impl.claim request)) s
  claimMany : ∀ batch s, I s → Prog.Along exec C P (fun _ s' => I s') (onStore (impl.claimMany batch)) s

variable {impl : ClaimImpl ε S A}

/-- Code of the application. -/
theorem along_onUser (hops : OpsKeep exec C P I) {α : Type} (p : Prog U R α) {s : σ} (hs : I s) :
    Prog.Along exec C P (fun _ s' => I s') (onUser p) s := by
  refine Prog.along_interp ?_ p hs
  intro c s' hs'
  exact Prog.along_perform (hops (.user c) (by simp) s' hs')

/-- The calls on a connection. -/
theorem along_callProg (hops : OpsKeep exec C P I) (hclaims : ClaimsKeep exec C P I impl) (handler : HandlerProg ε T R) (c : Call)
    (s : σ) (hs : I s) : Prog.Along exec C P (fun _ s' => I s') (callProg impl handler c) s := by
  cases c with
  | claim request => exact hclaims.claim request s hs
  | claimMany batch => exact hclaims.claimMany batch s hs
  | savepoint => exact Prog.along_perform (hops _ (by simp) s hs)
  | releaseAndSavepoint => exact Prog.along_perform (hops _ (by simp) s hs)
  | release => exact Prog.along_perform (hops _ (by simp) s hs)
  | rollbackTo => exact Prog.along_perform (hops _ (by simp) s hs)
  | unclaim consumer id => exact Prog.along_perform (hops _ (by simp) s hs)
  | handler id => exact along_onUser hops (handler id) hs

/-- The end of a transaction. -/
theorem along_finishProg (hops : OpsKeep exec C P I) {α : Type} (f : Finish ε α) {s : σ} (hs : I s) :
    Prog.Along exec C P (fun _ s' => I s') (finishProg f) s := by
  cases f with
  | drop a => exact Prog.along_bind (Prog.along_perform (hops .rollback (by simp) s hs))
  | commit k => exact Prog.along_bind (Prog.along_perform (hops .commit (by simp) s hs))
  | rollback k => exact Prog.along_bind (Prog.along_perform (hops .rollback (by simp) s hs))

/-- A transaction. -/
theorem along_transactionProg (hops : OpsKeep exec C P I) {α : Type} {k : InboxError ε → α} {body : TxProg ε A R (Finish ε α)}
    (hbody : ∀ s, I s → Prog.Along exec C P (fun _ s' => I s') body s) {s : σ} (hs : I s) :
    Prog.Along exec C P (fun _ s' => I s') (transactionProg k body) s := by
  refine Prog.along_bind (Prog.along_perform ?_)
  intro hc
  obtain ⟨hP, hnext⟩ := hops .begin (by simp) s hs hc
  refine ⟨hP, ?_⟩
  split
  · exact hnext
  · refine Prog.along_bind ((hbody _ hnext).mono ?_)
    intro f s' hs'
    exact along_finishProg hops f hs'

/-- A function of `Consumer` that opens a transaction. -/
theorem along_routineProg (hops : OpsKeep exec C P I) (hclaims : ClaimsKeep exec C P I impl) (handler : HandlerProg ε T R)
    {α : Type} (r : Routine ε T α) {s : σ} (hs : I s) :
    Prog.Along exec C P (fun _ s' => I s') (routineProg impl handler r) s := by
  cases r with
  | ret a => exact hs
  | begin k body =>
    refine along_transactionProg hops ?_ hs
    intro s' hs'
    exact Prog.along_interp (along_callProg hops hclaims handler) body hs'

/-- The application's calls. -/
theorem along_appProg (hops : OpsKeep exec C P I) (hclaims : ClaimsKeep exec C P I impl) (c : AppCall U) (s : σ) (hs : I s) :
    Prog.Along exec C P (fun _ s' => I s') (appProg impl c) s := by
  cases c with
  | claim self id => exact Prog.along_interp (along_callProg hops hclaims _) _ hs
  | claimMany self ids => exact Prog.along_interp (along_callProg hops hclaims _) _ hs
  | user c => exact Prog.along_perform (hops (.user c) (by simp) s hs)

/-- What the statements of the application and the claims of the backend keep, every use of the connection keeps. -/
theorem along_visit (hops : OpsKeep exec C P I) (hclaims : ClaimsKeep exec C P I impl) (visit : Visit ε T R) {s : σ} (hs : I s) :
    Prog.Along exec C P (fun _ s' => I s') (visit.prog impl) s := by
  cases visit with
  | process self id handler =>
    refine Prog.along_bind ((along_routineProg hops hclaims handler _ hs).mono ?_)
    intro _ s' hs'
    exact hs'
  | processMany self ids handler =>
    refine Prog.along_bind ((along_routineProg hops hclaims handler _ hs).mono ?_)
    intro _ s' hs'
    exact hs'
  | transaction body =>
    refine along_transactionProg hops ?_ hs
    intro s' hs'
    exact Prog.along_interp (along_appProg hops hclaims) body hs'
  | other body => exact along_onUser hops body hs

/-- So does one use after another. -/
theorem along_visitsProg (hops : OpsKeep exec C P I) (hclaims : ClaimsKeep exec C P I impl) (visits : List (Visit ε T R)) {s : σ}
    (hs : I s) : Prog.Along exec C P (fun _ s' => I s') (visitsProg impl visits) s := by
  induction visits generalizing s with
  | nil => exact hs
  | cons visit visits ih =>
    refine Prog.along_bind ((along_visit hops hclaims visit hs).mono ?_)
    intro _ s' hs'
    exact ih hs'

end Visits

/-- The timeout in force is the one it would be. -/
def WaitsAsOwn {ε S U W V : Type} {A : S → Type} {R : U → Type} (server : TimeoutServer ε S U W V A R) (s : LockState W V)
    (c : TxOp S U) : Prop :=
  server.isOther c → server.inForce s.vars = server.inForce s.own

/-- A statement that is not there for a timeout leaves equal variables equal. -/
theorem exec_vars_eq {ε S U W V : Type} {A : S → Type} {R : U → Type} {server : TimeoutServer ε S U W V A R} {c : TxOp S U}
    (hc : server.setsTimeout c = false) {s : LockState W V} (h : s.vars = s.own) :
    (server.exec c s).2.vars = (server.exec c s).2.own := by
  simp [TimeoutServer.exec, hc, h]

section Pg

variable {ε U W : Type} {R : U → Type} {answer : (c : TxOp PgInbox.Statement U) → W → PgInbox.LockVars →
    TxReply ε (PgInbox.Answer ε) R c × W} {lands : W → Bool} {touch : (c : U) → R c → W → PgInbox.LockVars → PgInbox.LockVars}

/-- Setting the timeout that is in force changes nothing, and neither does a statement that was refused. -/
theorem pg_afterStatement_setLockTimeout {value : String} {s : LockState W PgInbox.LockVars}
    (hown : PgInbox.SetsOwn (U := U) s (.store (.setLockTimeout value))) (r : Except (SqlxError ε String) Unit) (w : W) :
    PgInbox.afterStatement (ε := ε) lands touch (.store (.setLockTimeout value)) r w s.vars = s.vars := by
  cases r with
  | error e => rfl
  | ok u =>
    change (PgInbox.acceptedMillis value).elim s.vars (fun millis => s.vars.setLocal millis) = s.vars
    cases hmillis : PgInbox.acceptedMillis value with
    | none => rfl
    | some millis =>
      rw [hown value millis rfl hmillis]
      rfl

/-- Under the assumption every statement keeps the variables as they would be. -/
theorem pg_exec {c : TxOp PgInbox.Statement U} {s : LockState W PgInbox.LockVars} (h : s.vars = s.own) (hown : PgInbox.SetsOwn s c) :
    WaitsAsOwn (PgInbox.timeoutServer answer lands touch) s c ∧
      ((PgInbox.timeoutServer answer lands touch).exec c s).2.vars = ((PgInbox.timeoutServer answer lands touch).exec c s).2.own := by
  refine ⟨fun _ => congrArg _ h, ?_⟩
  cases hc : (PgInbox.timeoutServer answer lands touch).setsTimeout c with
  | false => exact exec_vars_eq hc h
  | true =>
    obtain ⟨value, rfl⟩ : ∃ value, c = .store (.setLockTimeout value) := by
      cases c with
      | store c =>
        cases c with
        | setLockTimeout value => exact ⟨value, rfl⟩
        | claim consumer id => cases hc
        | claimMany consumer ids => cases hc
      | _ => cases hc
    exact (pg_afterStatement_setLockTimeout hown _ _).trans h

/-- So does every program of the backend. -/
theorem along_pg {α : Type} (p : Prog PgInbox.Statement (PgInbox.Answer ε) α) {s : LockState W PgInbox.LockVars}
    (hs : s.vars = s.own) : Prog.Along (PgInbox.timeoutServer answer lands touch).exec PgInbox.SetsOwn
      (WaitsAsOwn (PgInbox.timeoutServer answer lands touch)) (fun _ s' => s'.vars = s'.own) (onStore p) s := by
  refine Prog.along_interp ?_ p hs
  intro c s' hs'
  exact Prog.along_perform (pg_exec hs')

theorem pg_opsKeep : OpsKeep (PgInbox.timeoutServer answer lands touch).exec PgInbox.SetsOwn
    (WaitsAsOwn (PgInbox.timeoutServer answer lands touch)) (fun s => s.vars = s.own) := by
  intro c _ s hs hc
  exact pg_exec hs hc

theorem pg_claimsKeep : ClaimsKeep (PgInbox.timeoutServer answer lands touch).exec PgInbox.SetsOwn
    (WaitsAsOwn (PgInbox.timeoutServer answer lands touch)) (fun s => s.vars = s.own) (PgInbox.impl ε) := by
  refine ⟨?_, ?_⟩
  · intro request s hs
    exact along_pg _ hs
  · intro batch s hs
    exact along_pg _ hs

end Pg

section MySql

variable {ε U W : Type} {R : U → Type} {json : JsonCodec}
  {answer : (c : TxOp (MySqlInbox.Statement json) U) → W → MySqlInbox.LockVars → TxReply ε (MySqlInbox.Answer json ε) R c × W}
  {touch : (c : U) → R c → W → Nat → Nat}

/-- The variables are as they would be, and nothing is saved. -/
def Settled (s : LockState W MySqlInbox.LockVars) : Prop := s.vars = s.own ∧ s.own.saved = none

/-- The timeout of a claim is in force, and the value it would be is saved. -/
def Held (timeout : Option Duration) (s : LockState W MySqlInbox.LockVars) : Prop :=
  match timeout with
  | some _ => s.vars.saved = some s.own.lockWaitTimeout ∧ s.own.saved = none
  | none => Settled s

/-- A statement that is not there for a timeout saves nothing. -/
theorem saved_afterStatement {c : TxOp (MySqlInbox.Statement json) U}
    (hc : (MySqlInbox.timeoutServer json answer touch).setsTimeout c = false) (r : TxReply ε (MySqlInbox.Answer json ε) R c) (w : W)
    {vars : MySqlInbox.LockVars} (h : vars.saved = none) : (MySqlInbox.afterStatement json touch c r w vars).saved = none := by
  unfold MySqlInbox.afterStatement
  split
  · rfl
  · cases hc
  · cases hc
  · exact h
  · exact h

/-- A statement that is not there for a timeout, with nothing saved. -/
theorem mysql_exec {c : TxOp (MySqlInbox.Statement json) U}
    (hc : (MySqlInbox.timeoutServer json answer touch).setsTimeout c = false) {s : LockState W MySqlInbox.LockVars} (h : Settled s) :
    WaitsAsOwn (MySqlInbox.timeoutServer json answer touch) s c ∧ Settled ((MySqlInbox.timeoutServer json answer touch).exec c s).2 := by
  refine ⟨fun _ => congrArg _ h.1, exec_vars_eq hc h.1, ?_⟩
  simp only [TimeoutServer.exec, hc, Bool.false_eq_true, if_false]
  exact saved_afterStatement hc _ _ h.2

/-- Along a program of the backend. -/
def AlongMySql (answer : (c : TxOp (MySqlInbox.Statement json) U) → W → MySqlInbox.LockVars →
    TxReply ε (MySqlInbox.Answer json ε) R c × W) (touch : (c : U) → R c → W → Nat → Nat) {α : Type}
    (Q : α → LockState W MySqlInbox.LockVars → Prop) (p : Prog (MySqlInbox.Statement json) (MySqlInbox.Answer json ε) α)
    (s : LockState W MySqlInbox.LockVars) : Prop :=
  Prog.Along (fun c s => (MySqlInbox.timeoutServer json answer touch).exec (.store c) s) (fun _ _ => True)
    (fun s c => WaitsAsOwn (MySqlInbox.timeoutServer json answer touch) s (.store c)) Q p s

variable {s : LockState W MySqlInbox.LockVars} {timeout : Option Duration}

/-- `set_lock_timeout`: it fails and changes nothing, or the value is held. -/
theorem along_setLockTimeout {Q : Except (SqlxError ε Nat) Unit → LockState W MySqlInbox.LockVars → Prop} (h : Settled s)
    (herror : ∀ e s', Settled s' → Q (.error e) s') (hok : ∀ s', Held timeout s' → Q (.ok ()) s') :
    AlongMySql answer touch Q (MySqlInbox.setLockTimeout json timeout) s := by
  cases timeout with
  | none => exact hok s h
  | some timeout =>
    intro _
    refine ⟨fun _ => congrArg _ h.1, ?_⟩
    change Q (answer (.store (.setLockTimeout (MySqlInbox.mysqlLockTimeout timeout))) s.world s.vars).1 ⟨_,
      MySqlInbox.afterStatement json touch _ (answer (.store (.setLockTimeout _)) s.world s.vars).1 s.world s.vars, s.own⟩
    cases hr : (answer (.store (.setLockTimeout (MySqlInbox.mysqlLockTimeout timeout))) s.world s.vars).1 with
    | error e => exact herror e _ ⟨h.1, h.2⟩
    | ok u =>
      refine hok _ ⟨?_, h.2⟩
      rw [← h.1]
      rfl

/-- The claim statement runs with the value held. -/
theorem along_claimStatement {c : MySqlInbox.Statement json} (hc : (MySqlInbox.timeoutServer json answer touch).isClaim c = true)
    (h : Held timeout s) : AlongMySql answer touch (fun _ s' => Held timeout s') (Prog.perform c) s := by
  refine Prog.along_perform ?_
  intro _
  refine ⟨?_, ?_⟩
  · intro hother
    simp [TimeoutServer.isOther, hc] at hother
  · cases timeout with
    | none =>
      refine (mysql_exec ?_ h).2
      cases c with
      | claim consumer id => rfl
      | claimMany consumer token ids => rfl
      | _ => cases hc
    | some timeout =>
      cases c with
      | claim consumer id => exact h
      | claimMany consumer token ids => exact h
      | _ => cases hc

/-- `restore_lock_timeout` puts the held value back. -/
theorem along_restoreLockTimeout (h : Held timeout s) :
    AlongMySql answer touch (fun _ s' => Settled s') (MySqlInbox.restoreLockTimeout json timeout) s := by
  cases timeout with
  | none => exact h
  | some timeout =>
    intro _
    refine ⟨?_, ?_, h.2⟩
    · intro hother
      cases hother
    · change (s.vars.restore (ε := ε)).2 = s.own
      rw [MySqlInbox.LockVars.restore, h.1]
      obtain ⟨world, vars, own⟩ := s
      obtain ⟨value, saved⟩ := own
      have hsaved : saved = none := h.2
      rw [hsaved]

/-- A statement of the backend that is neither the claim nor there for its timeout, and what follows it. -/
theorem along_otherStatement {α : Type} {Q : α → LockState W MySqlInbox.LockVars → Prop} {c : MySqlInbox.Statement json}
    (hc : (MySqlInbox.timeoutServer json answer touch).isTimeout c = false) (h : Settled s)
    {k : MySqlInbox.Answer json ε c → Prog (MySqlInbox.Statement json) (MySqlInbox.Answer json ε) α}
    (hk : ∀ r s', Settled s' → AlongMySql answer touch Q (k r) s') : AlongMySql answer touch Q (Prog.perform c >>= k) s := by
  have hop : (MySqlInbox.timeoutServer json answer touch).setsTimeout (.store c) = false := hc
  intro _
  obtain ⟨hwaits, hnext⟩ := mysql_exec hop h
  exact ⟨hwaits, hk _ _ hnext⟩

/-- The claim statement, the restore, and what follows them. -/
theorem along_claimAndRestore {α : Type} {Q : α → LockState W MySqlInbox.LockVars → Prop} {c : MySqlInbox.Statement json}
    (hc : (MySqlInbox.timeoutServer json answer touch).isClaim c = true) (h : Held timeout s)
    {k : MySqlInbox.Answer json ε c → Except (SqlxError ε Nat) Unit → Prog (MySqlInbox.Statement json) (MySqlInbox.Answer json ε) α}
    (hk : ∀ result restored s', Settled s' → AlongMySql answer touch Q (k result restored) s') :
    AlongMySql answer touch Q ((Prog.perform c).bind fun result =>
      (MySqlInbox.restoreLockTimeout json timeout).bind fun restored => k result restored) s := by
  refine Prog.along_bind ((along_claimStatement hc h).mono ?_)
  intro result s' hheld
  refine Prog.along_bind ((along_restoreLockTimeout hheld).mono ?_)
  intro restored s'' hs''
  exact hk result restored s'' hs''

/-- A claim that starts with nothing saved returns so. -/
theorem along_mysqlClaim (request : ClaimRequest) (h : Settled s) :
    AlongMySql answer touch (fun _ s' => Settled s') (MySqlInbox.claim json request) s := by
  refine Prog.along_bind (along_setLockTimeout h ?_ ?_)
  · intro e s' hs'
    exact hs'
  · intro s' hheld
    refine along_claimAndRestore rfl hheld ?_
    intro result restored s'' hs''
    split
    · exact hs''
    · split
      · exact hs''
      · exact hs''

/-- So does a batch of claims. -/
theorem along_mysqlClaimMany (batch : ClaimBatch) (h : Settled s) :
    AlongMySql answer touch (fun _ s' => Settled s') (MySqlInbox.claimMany json batch) s := by
  refine along_otherStatement rfl h ?_
  intro r s₀ hrandom
  split
  · exact hrandom
  · refine Prog.along_bind (along_setLockTimeout hrandom ?_ ?_)
    · intro e s' hs'
      exact hs'
    · intro s' hheld
      refine along_claimAndRestore rfl hheld ?_
      intro result restored s'' hs''
      split
      · exact hs''
      · split
        · exact hs''
        · refine along_otherStatement rfl hs'' ?_
          intro fresh s₃ hread
          split
          · exact hread
          · exact hread

theorem mysql_opsKeep : OpsKeep (MySqlInbox.timeoutServer json answer touch).exec (fun _ _ => True)
    (WaitsAsOwn (MySqlInbox.timeoutServer json answer touch)) Settled := by
  intro c hc s hs _
  refine mysql_exec ?_ hs
  cases c with
  | store c => exact absurd rfl (hc c)
  | _ => rfl

theorem mysql_claimsKeep : ClaimsKeep (MySqlInbox.timeoutServer json answer touch).exec (fun _ _ => True)
    (WaitsAsOwn (MySqlInbox.timeoutServer json answer touch)) Settled (MySqlInbox.impl ε json) := by
  refine ⟨?_, ?_⟩
  · intro request s hs
    exact along_onStore (along_mysqlClaim request hs)
  · intro batch s hs
    exact along_onStore (along_mysqlClaimMany batch hs)

end MySql

end HandlerTimeoutAux

open HandlerTimeoutAux

/-- On MySQL, in every run, the statements that are not the claim's wait as they would without its timeout. On PostgreSQL they do in
every run in which each claim that sets a timeout the server accepts sets the one that is in force already. -/
theorem ownTimeouts_of_setsOwn (ε T : Type) {U W : Type} {R : U → Type} (visits : List (Visit ε T R)) (w : W) :
    (∀ (json : JsonCodec) (answer : (c : TxOp (MySqlInbox.Statement json) U) → W → MySqlInbox.LockVars →
        TxReply ε (MySqlInbox.Answer json ε) R c × W) (touch : (c : U) → R c → W → Nat → Nat) (value : Nat),
      (MySqlInbox.timeoutServer json answer touch).OwnTimeouts (visitsProg (MySqlInbox.impl ε json) visits)
        ⟨w, ⟨value, none⟩, ⟨value, none⟩⟩) ∧
    ∀ (answer : (c : TxOp PgInbox.Statement U) → W → PgInbox.LockVars → TxReply ε (PgInbox.Answer ε) R c × W) (lands : W → Bool)
      (touch : (c : U) → R c → W → PgInbox.LockVars → PgInbox.LockVars) (value : Nat),
      let s : LockState W PgInbox.LockVars := ⟨w, .idle value, .idle value⟩
      (∀ step ∈ Prog.steps (PgInbox.timeoutServer answer lands touch).exec (visitsProg (PgInbox.impl ε) visits) s,
        PgInbox.SetsOwn step.1 step.2.1) →
      (PgInbox.timeoutServer answer lands touch).OwnTimeouts (visitsProg (PgInbox.impl ε) visits) s := by
  refine ⟨?_, ?_⟩
  · intro json answer touch value step hstep
    exact Prog.of_mem_steps (along_visitsProg mysql_opsKeep mysql_claimsKeep visits ⟨rfl, rfl⟩) (fun _ _ => trivial) hstep
  · intro answer lands touch value s hown step hstep
    exact Prog.of_mem_steps (along_visitsProg pg_opsKeep pg_claimsKeep visits rfl) hown hstep

namespace PgInbox

/-- A server that accepts everything. -/
def acceptAll : (c : TxOp Statement Unit) → TxReply Unit (Answer Unit) (fun _ : Unit => Unit) c
  | .begin => .ok ()
  | .commit => .ok ()
  | .rollback => .ok ()
  | .savepoint => .ok ()
  | .releaseAndSavepoint => .ok ()
  | .release => .ok ()
  | .rollbackTo => .ok ()
  | .unclaim _ _ => .ok ()
  | .store (.setLockTimeout _) => .ok ()
  | .store (.claim _ _) => .ok 1
  | .store (.claimMany _ _) => .ok []
  | .user _ => ()

/-- It, with statements of the application that set nothing. -/
def acceptingServer : TimeoutServer Unit Statement Unit Unit LockVars (Answer Unit) (fun _ => Unit) :=
  timeoutServer (fun c w _ => (acceptAll c, w)) (fun _ => true) (fun _ _ _ vars => vars)

/-- A consumer with a lock timeout of 200 ms processes a message with a handler that makes one statement. -/
def oneStatement : Visit Unit Unit (fun _ : Unit => Unit) :=
  .process ⟨⟨"mailer", by decide⟩, some ⟨200000000, by decide⟩⟩ ⟨"mail-1", by decide⟩
    (fun _ => (Prog.perform ()).bind fun _ => .ret (.ok ()))

end PgInbox

/-- The statements of that run with the variables before them, where the claim's value is read as 200. -/
theorem HandlerTimeoutAux.steps_oneStatement (value : Nat) :
    (Prog.steps PgInbox.acceptingServer.exec (visitsProg (PgInbox.impl Unit) [PgInbox.oneStatement])
      ⟨(), .idle value, .idle value⟩).map (fun step => (step.1.vars.current, step.1.own.current, step.2.1)) =
    [(value, value, .begin), (value, value, .store (.setLockTimeout "200ms")), (200, value, .store (.claim "mailer" "mail-1")),
      (200, value, .user ()), (200, value, .commit)] := by
  rfl

/-- A session whose own timeout is that of the claims. -/
theorem ownTimeouts_of_setsOwn_same :
    let s : LockState Unit PgInbox.LockVars := ⟨(), .idle 200, .idle 200⟩
    (∀ step ∈ Prog.steps PgInbox.acceptingServer.exec (visitsProg (PgInbox.impl Unit) [PgInbox.oneStatement]) s,
      PgInbox.SetsOwn step.1 step.2.1) ∧
    PgInbox.acceptingServer.OwnTimeouts (visitsProg (PgInbox.impl Unit) [PgInbox.oneStatement]) s := by
  have hown : ∀ step ∈ Prog.steps PgInbox.acceptingServer.exec (visitsProg (PgInbox.impl Unit) [PgInbox.oneStatement])
      ⟨(), .idle 200, .idle 200⟩, PgInbox.SetsOwn step.1 step.2.1 := by
    intro step hstep value millis hc hmillis
    have hmem := List.mem_map_of_mem (f := fun step => (step.1.vars.current, step.1.own.current, step.2.1)) hstep
    rw [steps_oneStatement, hc] at hmem
    simp only [List.mem_cons, Prod.mk.injEq, reduceCtorEq, and_false, false_or, List.not_mem_nil, or_false, TxOp.store.injEq,
      PgInbox.Statement.setLockTimeout.injEq] at hmem
    rw [hmem.2.2] at hmillis
    have h200 : PgInbox.acceptedMillis "200ms" = some 200 := by decide
    rw [h200] at hmillis
    cases hmillis
    exact hmem.1.symm
  exact ⟨hown, (ownTimeouts_of_setsOwn Unit Unit [PgInbox.oneStatement] ()).2 _ _ _ 200 hown⟩

/-- With no timeout of its own, the handler's statement runs under the 200 ms of the claim. -/
theorem not_ownTimeouts_oneStatement :
    ¬ PgInbox.acceptingServer.OwnTimeouts (visitsProg (PgInbox.impl Unit) [PgInbox.oneStatement]) ⟨(), .idle 0, .idle 0⟩ := by
  intro h
  have hmem : (200, 0, TxOp.user ()) ∈ (Prog.steps PgInbox.acceptingServer.exec (visitsProg (PgInbox.impl Unit)
      [PgInbox.oneStatement]) ⟨(), .idle 0, .idle 0⟩).map
        (fun step => (step.1.vars.current, step.1.own.current, step.2.1)) := by
    rw [steps_oneStatement]
    simp
  obtain ⟨step, hstep, heq⟩ := List.mem_map.1 hmem
  obtain ⟨hvars, hrest⟩ := Prod.mk.inj heq
  obtain ⟨howns, hop⟩ := Prod.mk.inj hrest
  have hsame := h step hstep (by rw [hop]; rfl)
  change step.1.vars.current = step.1.own.current at hsame
  rw [hvars, howns] at hsame
  omega

end Txbox
