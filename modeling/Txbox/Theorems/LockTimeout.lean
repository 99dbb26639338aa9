import Txbox.MySql

/-!
# The lock timeout on a pooled MySQL connection

A claim with a lock timeout that is cancelled between setting and restoring leaves the application's value saved, and the next
`BEGIN` puts it back. But another claim on the same transaction comes first: one without a timeout runs under the cancelled claim's,
and one with a timeout saves that in place of the application's value, which is lost. So the variables are as they should be in
every run in which no claim starts while a value is saved.
-/

namespace Txbox

open Lib

namespace MySqlInbox

variable {ε : Type} (json : JsonCodec)

/-- The statements as the session variables see them. The other statements leave the variables alone and may be answered with
anything, and setting the timeout may fail. -/
def lockExec (answers : (c : Statement json) → Answer json ε c) : (c : Statement json) → LockVars → Answer json ε c × LockVars
  | .setLockTimeout secs, vars =>
    match answers (.setLockTimeout secs) with
    | .ok () => (.ok (), vars.set secs)
    | .error e => (.error e, vars)
  | .restoreLockTimeout, vars => vars.restore
  | c, vars => (answers c, vars)

/-- What is done on a pooled connection. A `begin` completes, or is cancelled and may have been executed or not; a claim completes,
or is cancelled after some of its statements were executed. Anything else leaves the variables alone: the handler's statements,
commit, rollback and drop. -/
inductive PoolOp (ε : Type) where
  | begin (cancelled : Option Bool)
  | claim (request : ClaimRequest) (answers : (c : Statement json) → Answer json ε c) (cut : Option Nat)
  | claimMany (batch : ClaimBatch) (answers : (c : Statement json) → Answer json ε c) (cut : Option Nat)
  | other

namespace PoolOp

variable {json}

/-- The operation is a claim. -/
def IsClaim : PoolOp json ε → Prop
  | claim _ _ _ => True
  | claimMany _ _ _ => True
  | _ => False

/-- The variables after an operation. -/
def after (vars : LockVars) : PoolOp json ε → LockVars
  | begin none => vars.begin
  | begin (some executed) => if executed then vars.begin else vars
  | claim request answers cut => (Prog.run (lockExec json answers) cut (MySqlInbox.claim json request) vars).2
  | claimMany batch answers cut => (Prog.run (lockExec json answers) cut (MySqlInbox.claimMany json batch) vars).2
  | other => vars

/-- The variables after a sequence of operations. -/
def afterAll (ops : List (PoolOp json ε)) (vars : LockVars) : LockVars := ops.foldl after vars

/-- A result of a claim that ran to completion: `Ok`, or contention. -/
def Settled {α : Type} : Except (InboxError ε) α → Prop
  | .ok _ => True
  | .error e => e = .contended

/-- What the operation owes, started on `vars`: a completed `begin` leaves the application's value and nothing saved, and a claim that
ran to completion leaves the application's value. -/
def Restores (app : Nat) (vars : LockVars) : PoolOp json ε → Prop
  | begin none => vars.begin = ⟨app, none⟩
  | begin (some _) => True
  | claim request answers cut => ∀ r, (Prog.run (lockExec json answers) cut (MySqlInbox.claim json request) vars).1 = .returned r →
      Settled r → ((claim request answers cut).after vars).lockWaitTimeout = app
  | claimMany batch answers cut => ∀ r,
      (Prog.run (lockExec json answers) cut (MySqlInbox.claimMany json batch) vars).1 = .returned r →
      Settled r → ((claimMany batch answers cut).after vars).lockWaitTimeout = app
  | other => True

end PoolOp

/-- Every operation of a sequence on a connection opened with the application's value does what it owes. -/
def NoLeak (app : Nat) (ops : List (PoolOp json ε)) : Prop :=
  ∀ before op rest, ops = before ++ op :: rest → op.Restores app (PoolOp.afterAll before ⟨app, none⟩)

/-- No claim starts while a value is saved. -/
def NoneSaved (app : Nat) (ops : List (PoolOp json ε)) : Prop :=
  ∀ before op rest, ops = before ++ op :: rest → op.IsClaim → (PoolOp.afterAll before ⟨app, none⟩).saved = none

namespace LockTimeoutAux

/-- The application's value is in force and nothing is saved, or it is saved. -/
def Kept (app : Nat) (vars : LockVars) : Prop := vars = ⟨app, none⟩ ∨ vars.saved = some app

/-- The contract of the statements of a claim: the timeout is set where nothing is saved, and restored where the application's value
is. -/
def lockContract (answers : (c : Statement json) → Answer json ε c) (app : Nat) :
    Prog.Contract (Statement json) (Answer json ε) LockVars where
  pre vars c :=
    match c with
    | .setLockTimeout _ => vars.saved = none
    | .restoreLockTimeout => vars.saved = some app
    | _ => True
  post vars c r vars' := lockExec json answers c vars = (r, vars')

/-- Every statement a claim may run keeps the application's value. -/
theorem kept_lockExec {answers : (c : Statement json) → Answer json ε c} {app : Nat} (c : Statement json) (vars : LockVars)
    (h : Kept app vars) (hpre : (lockContract json answers app).pre vars c) : Kept app (lockExec json answers c vars).2 := by
  cases c with
  | setLockTimeout secs =>
    have hnone : vars.saved = none := hpre
    rcases h with rfl | h
    · unfold lockExec
      dsimp only
      split
      · exact Or.inr rfl
      · exact Or.inl rfl
    · rw [hnone] at h
      nomatch h
  | restoreLockTimeout =>
    have hsome : vars.saved = some app := hpre
    refine Or.inl ?_
    simp only [lockExec, LockVars.restore, hsome]
  | random => exact h
  | claim consumer id => exact h
  | claimMany consumer token ids => exact h
  | claimedByToken ids consumer token => exact h
  | unclaim consumer id => exact h

variable {json} {answers : (c : Statement json) → Answer json ε c} {app : Nat}

/-- The variables between setting and restoring. -/
def held (app : Nat) : Option Duration → LockVars
  | some timeout => ⟨mysqlLockTimeout timeout, some app⟩
  | none => ⟨app, none⟩

/-- The statements do what the contract says. -/
theorem post_lockExec (c : Statement json) (vars : LockVars) :
    (lockContract json answers app).post vars c (lockExec json answers c vars).1 (lockExec json answers c vars).2 := rfl

/-- `set_lock_timeout` with nothing saved: it fails and changes nothing, or the application's value is held. -/
theorem wp_setLockTimeout {Q : Except (SqlxError ε Nat) Unit → LockVars → Prop} {timeout : Option Duration}
    (herror : ∀ e, Q (.error e) ⟨app, none⟩) (hok : Q (.ok ()) (held app timeout)) :
    Prog.wp (lockContract json answers app) Q (setLockTimeout json timeout) ⟨app, none⟩ := by
  cases timeout with
  | none => exact hok
  | some timeout =>
    refine ⟨rfl, ?_⟩
    intro r vars' hr
    simp only [lockContract, lockExec] at hr
    split at hr
    · cases hr
      exact hok
    · cases hr
      exact herror _

/-- `restore_lock_timeout` puts the held value back. -/
theorem wp_restoreLockTimeout {Q : Except (SqlxError ε Nat) Unit → LockVars → Prop} {timeout : Option Duration}
    (hok : Q (.ok ()) ⟨app, none⟩) :
    Prog.wp (lockContract json answers app) Q (restoreLockTimeout json timeout) (held app timeout) := by
  cases timeout with
  | none => exact hok
  | some timeout =>
    refine ⟨rfl, ?_⟩
    intro r vars' hr
    cases hr
    exact hok

/-- A statement that leaves the variables alone. -/
theorem wp_other {α : Type} {Q : α → LockVars → Prop} {vars : LockVars} {c : Statement json}
    {k : Answer json ε c → Prog (Statement json) (Answer json ε) α} (hpre : (lockContract json answers app).pre vars c)
    (hsame : lockExec json answers c vars = (answers c, vars))
    (h : Prog.wp (lockContract json answers app) Q (k (answers c)) vars) :
    Prog.wp (lockContract json answers app) Q (Prog.perform c >>= k) vars := by
  refine ⟨hpre, ?_⟩
  intro r vars' hr
  obtain ⟨rfl, rfl⟩ := Prod.mk.inj (hsame.symm.trans hr)
  exact h

/-- A claim that starts with nothing saved returns with the application's value and nothing saved. -/
theorem wp_claim (request : ClaimRequest) : Prog.wp (lockContract json answers app) (fun _ vars => vars = ⟨app, none⟩)
    (MySqlInbox.claim json request) ⟨app, none⟩ := by
  refine Prog.wp_bind (wp_setLockTimeout ?_ ?_)
  · intro e
    rfl
  · refine wp_other trivial rfl ?_
    refine Prog.wp_bind (wp_restoreLockTimeout ?_)
    cases answers (.claim request.consumer.asStr request.id.asStr) with
    | error e => rfl
    | ok affected => rfl

/-- So does a batch of claims. -/
theorem wp_claimMany (batch : ClaimBatch) : Prog.wp (lockContract json answers app) (fun _ vars => vars = ⟨app, none⟩)
    (MySqlInbox.claimMany json batch) ⟨app, none⟩ := by
  refine wp_other trivial rfl ?_
  cases answers .random with
  | error e => rfl
  | ok token =>
    refine Prog.wp_bind (wp_setLockTimeout ?_ ?_)
    · intro e
      rfl
    · refine wp_other trivial rfl ?_
      refine Prog.wp_bind (wp_restoreLockTimeout ?_)
      split
      · rfl
      · refine wp_other trivial rfl ?_
        split
        · rfl
        · rfl

/-- A claim, cut anywhere, that starts with nothing saved: the application's value is kept, and in force if the claim returned. -/
theorem run_of_wp_lock {α : Type} {p : Prog (Statement json) (Answer json ε) α}
    (answers : (c : Statement json) → Answer json ε c) (cut : Option Nat)
    (h : Prog.wp (lockContract json answers app) (fun _ vars => vars = ⟨app, none⟩) p ⟨app, none⟩) :
    Kept app (Prog.run (lockExec json answers) cut p ⟨app, none⟩).2 ∧
      ∀ a, (Prog.run (lockExec json answers) cut p ⟨app, none⟩).1 = .returned a →
        (Prog.run (lockExec json answers) cut p ⟨app, none⟩).2 = ⟨app, none⟩ :=
  Prog.run_of_wp (fun c vars _ => post_lockExec c vars) (kept_lockExec json) cut h (Or.inl rfl)

/-- The application's value is in force where it is kept and nothing is saved. -/
theorem eq_of_kept {vars : LockVars} (h : Kept app vars) (hnone : vars.saved = none) : vars = ⟨app, none⟩ := by
  rcases h with h | h
  · exact h
  · rw [hnone] at h
    nomatch h

/-- `begin` puts the application's value back. -/
theorem begin_of_kept {vars : LockVars} (h : Kept app vars) : vars.begin = ⟨app, none⟩ := by
  rcases h with rfl | h
  · rfl
  · simp only [LockVars.begin, h, Option.getD_some]

/-- An operation that is no claim while a value is saved keeps the application's value and does what it owes. -/
theorem kept_after {vars : LockVars} (op : PoolOp json ε) (h : Kept app vars) (hop : op.IsClaim → vars.saved = none) :
    Kept app (op.after vars) ∧ op.Restores app vars := by
  cases op with
  | begin cancelled =>
    cases cancelled with
    | none => exact ⟨Or.inl (begin_of_kept h), begin_of_kept h⟩
    | some executed =>
      refine ⟨?_, trivial⟩
      simp only [PoolOp.after]
      split
      · exact Or.inl (begin_of_kept h)
      · exact h
  | claim request answers cut =>
    obtain rfl := eq_of_kept h (hop trivial)
    obtain ⟨hkept, hret⟩ := run_of_wp_lock answers cut (wp_claim request)
    refine ⟨hkept, ?_⟩
    intro r hr _
    simp only [PoolOp.after, hret r hr]
  | claimMany batch answers cut =>
    obtain rfl := eq_of_kept h (hop trivial)
    obtain ⟨hkept, hret⟩ := run_of_wp_lock answers cut (wp_claimMany batch)
    refine ⟨hkept, ?_⟩
    intro r hr _
    simp only [PoolOp.after, hret r hr]
  | other => exact ⟨h, trivial⟩

/-- A run in which no claim starts while a value is saved keeps the application's value. -/
theorem kept_afterAll (ops : List (PoolOp json ε)) (h : NoneSaved json app ops) : Kept app (PoolOp.afterAll ops ⟨app, none⟩) := by
  induction ops using List.reverseRecOn with
  | nil => exact Or.inl rfl
  | append_singleton ops op ih =>
    have hbefore : Kept app (PoolOp.afterAll ops ⟨app, none⟩) := by
      refine ih ?_
      intro before op' rest hsplit hclaim
      refine h before op' (rest ++ [op]) ?_ hclaim
      rw [hsplit, List.append_assoc, List.cons_append]
    rw [PoolOp.afterAll, List.foldl_append]
    exact (kept_after op hbefore (h ops op [] rfl)).1

end LockTimeoutAux

/-- In every run on a pooled connection in which no claim starts while a value is saved, every completed `begin` leaves the
application's value and nothing saved, and every claim that ran to completion leaves the application's value. -/
theorem noLeak_of_noneSaved (app : Nat) (ops : List (PoolOp json ε)) (h : NoneSaved json app ops) : NoLeak json app ops := by
  intro before op rest hsplit
  have hbefore : NoneSaved json app before := by
    intro first op' rest' hfirst hclaim
    refine h first op' (rest' ++ op :: rest) ?_ hclaim
    rw [hsplit, hfirst, List.append_assoc, List.cons_append]
  exact (LockTimeoutAux.kept_after op (LockTimeoutAux.kept_afterAll before hbefore) (h before op rest hsplit)).2

/-- Every statement answered with success. -/
def accepting : (c : Statement JsonCodec.list) → Answer JsonCodec.list Unit c
  | .random => .ok 0
  | .setLockTimeout _ => .ok ()
  | .claim _ _ => .ok 1
  | .restoreLockTimeout => .ok ()
  | .claimMany _ _ _ => .ok ()
  | .claimedByToken _ _ _ => .ok []
  | .unclaim _ _ => .ok ()

/-- A claim with a lock timeout of one second. -/
def oneSecond : ClaimRequest := ⟨⟨"billing", by decide⟩, ⟨"invoice", by decide⟩, some ⟨1000000000, by decide⟩⟩

/-- A claim cancelled before its restore, and the next transaction: its `begin` restores the value, and its claim keeps it. -/
theorem noLeak_of_noneSaved_cancelled :
    let ops := [PoolOp.begin none, .claim oneSecond accepting (some 1), .begin none, .claim oneSecond accepting none]
    NoneSaved JsonCodec.list 7 ops ∧ NoLeak JsonCodec.list 7 ops := by
  have h : NoneSaved JsonCodec.list 7
      [PoolOp.begin none, .claim oneSecond accepting (some 1), .begin none, .claim oneSecond accepting none] := by
    intro before op rest hsplit hclaim
    rcases before with _ | ⟨_, _ | ⟨_, _ | ⟨_, _ | ⟨_, before⟩⟩⟩⟩
    · cases hsplit
      exact hclaim.elim
    · cases hsplit
      rfl
    · cases hsplit
      exact hclaim.elim
    · cases hsplit
      rfl
    · simp only [List.cons_append, List.cons.injEq, List.nil_eq, List.append_eq_nil_iff, reduceCtorEq, and_false] at hsplit
  exact ⟨h, noLeak_of_noneSaved JsonCodec.list 7 _ h⟩

/-- A claim cancelled before its restore, and another claim on the same transaction: the other saves the cancelled one's timeout, and
the next `begin` leaves that as the session's. -/
theorem noLeak_not_second_claim :
    let ops := [PoolOp.begin none, .claim oneSecond accepting (some 1), .claim oneSecond accepting none, .begin none]
    PoolOp.afterAll ops ⟨7, none⟩ = ⟨1, none⟩ ∧ ¬ NoLeak JsonCodec.list 7 ops := by
  refine ⟨rfl, ?_⟩
  intro h
  have hbegin : LockVars.mk 1 none = ⟨7, none⟩ :=
    h [.begin none, .claim oneSecond accepting (some 1), .claim oneSecond accepting none] (.begin none) [] rfl
  nomatch hbegin

end MySqlInbox

end Txbox
