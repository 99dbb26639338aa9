import Txbox.Postgres
import Txbox.MySql
import Txbox.Lib.Interp

/-!
# Everything that is sent on a connection

The functions of `Consumer`, a transaction the application runs itself, and code that does not use the inbox at all, as programs over
the statements that reach the server on one pooled connection: those of the transaction, those of the backend, and those of the
application. A transaction that is dropped is rolled back before the connection is used again.
-/

namespace Txbox

open Lib

/-- A statement on a connection: of the transaction, of the backend (`S`), or of the application (`U`). -/
inductive TxOp (S U : Type) where
  | begin
  | commit
  | rollback
  | savepoint
  | releaseAndSavepoint
  | release
  | rollbackTo
  | unclaim (consumer id : String)
  | store (c : S)
  | user (c : U)

/-- What they answer. -/
@[reducible] def TxReply {S U : Type} (ε : Type) (A : S → Type) (R : U → Type) : TxOp S U → Type
  | .store c => A c
  | .user c => R c
  | _ => Except (InboxError ε) Unit

/-- A function over the statements of a connection. -/
abbrev TxProg {S U : Type} (ε : Type) (A : S → Type) (R : U → Type) (α : Type) : Type := Prog (TxOp S U) (TxReply ε A R) α

/-- The claims of a backend, as it sends them. -/
structure ClaimImpl (ε S : Type) (A : S → Type) where
  claim : ClaimRequest → Prog S A (Except (InboxError ε) Claim)
  claimMany : ClaimBatch → Prog S A (Except (InboxError ε) (List Claim))

/-- Those of `PgInbox`. -/
def PgInbox.impl (ε : Type) : ClaimImpl ε PgInbox.Statement (PgInbox.Answer ε) := ⟨PgInbox.claim, PgInbox.claimMany⟩

/-- Those of `MySqlInbox`. -/
def MySqlInbox.impl (ε : Type) (json : JsonCodec) : ClaimImpl ε (MySqlInbox.Statement json) (MySqlInbox.Answer json ε) :=
  ⟨MySqlInbox.claim json, MySqlInbox.claimMany json⟩

section Programs

variable {ε T S U α : Type} {A : S → Type} {R : U → Type}

/-- A function of the backend. -/
def onStore (p : Prog S A α) : TxProg ε A R α := p.interp fun c => Prog.perform (TxOp.store c)

/-- Code of the application. -/
def onUser (p : Prog U R α) : TxProg ε A R α := p.interp fun c => Prog.perform (TxOp.user c)

/-- The user's handler: what it sends for a message, whatever it is answered. -/
abbrev HandlerProg (ε T : Type) {U : Type} (R : U → Type) : Type := MessageId → Prog U R (Except (HandlerError ε) T)

variable (impl : ClaimImpl ε S A) (handler : HandlerProg ε T R)

/-- The calls on a connection. -/
def callProg : (c : Call) → TxProg ε A R (Reply ε T c)
  | .claim request => onStore (impl.claim request)
  | .claimMany batch => onStore (impl.claimMany batch)
  | .savepoint => Prog.perform TxOp.savepoint
  | .releaseAndSavepoint => Prog.perform TxOp.releaseAndSavepoint
  | .release => Prog.perform TxOp.release
  | .rollbackTo => Prog.perform TxOp.rollbackTo
  | .unclaim consumer id => Prog.perform (TxOp.unclaim consumer.asStr id.asStr)
  | .handler id => onUser (handler id)

/-- The end of a function that owns the transaction. -/
def finishProg : Finish ε α → TxProg ε A R α
  | .drop a => do
    let _ ← Prog.perform TxOp.rollback
    return a
  | .commit k => do
    let r ← Prog.perform TxOp.commit
    return k r
  | .rollback k => do
    let r ← Prog.perform TxOp.rollback
    return k r

/-- A transaction: it opens, its body runs, and it ends as the body says. -/
def transactionProg (k : InboxError ε → α) (body : TxProg ε A R (Finish ε α)) : TxProg ε A R α := do
  match ← Prog.perform TxOp.begin with
  | .error e => return k e
  | .ok () => body.bind finishProg

/-- A function of `Consumer` that opens a transaction. -/
def routineProg : Routine ε T α → TxProg ε A R α
  | .ret a => .ret a
  | .begin k body => transactionProg k (body.interp (callProg impl handler))

end Programs

/-! ## The uses of a connection -/

/-- What the application does in a transaction of its own. -/
inductive AppCall (U : Type) where
  | claim (self : Consumer) (id : MessageId)
  | claimMany (self : Consumer) (ids : List MessageId)
  | user (c : U)

/-- What it gets back. -/
@[reducible] def AppReply {U : Type} (ε : Type) (R : U → Type) : AppCall U → Type
  | .claim _ _ => Except (InboxError ε) Claim
  | .claimMany _ _ => Except (InboxError ε) (List Claim)
  | .user c => R c

/-- One use of a pooled connection: `process`, `process_many`, a transaction of the application with claims and statements of its own
in any order, or code that has nothing to do with the inbox. -/
inductive Visit (ε T : Type) {U : Type} (R : U → Type) where
  | process (self : Consumer) (id : MessageId) (handler : HandlerProg ε T R)
  | processMany (self : Consumer) (ids : List MessageId) (handler : HandlerProg ε T R)
  | transaction (body : Prog (AppCall U) (AppReply ε R) (Finish ε Unit))
  | other (body : Prog U R Unit)

section Visits

variable {ε T S U : Type} {A : S → Type} {R : U → Type} (impl : ClaimImpl ε S A)

/-- The application's calls: `Consumer::claim` and `claim_many` on its connection, and its statements. -/
def appProg : (c : AppCall U) → TxProg ε A R (AppReply ε R c)
  | .claim self id => (self.claim id : ConnProg ε Unit _).interp (callProg impl fun _ => .ret (.ok ()))
  | .claimMany self ids => (self.claimMany ids : ConnProg ε Unit _).interp (callProg impl fun _ => .ret (.ok ()))
  | .user c => Prog.perform (TxOp.user c)

/-- What a use of the connection sends. -/
def Visit.prog : Visit ε T R → TxProg ε A R Unit
  | process self id handler => (routineProg impl handler (self.process id)).bind fun _ => .ret ()
  | processMany self ids handler => (routineProg impl handler (self.processMany ids)).bind fun _ => .ret ()
  | transaction body => transactionProg (fun _ => ()) (body.interp (appProg impl))
  | other body => onUser body

/-- One use after another. -/
def visitsProg : List (Visit ε T R) → TxProg ε A R Unit
  | [] => .ret ()
  | visit :: visits => (visit.prog impl).bind fun _ => visitsProg visits

end Visits

end Txbox
