import Txbox.History
import Txbox.Lib.TwoRuns
import Txbox.Lemmas.Table
import Mathlib.Data.List.Forall2

/-!
# Two connections that answer alike

A relation between what two connections store, kept by every statement a consumer's call makes, is kept by the whole call, and the two
calls return the same. The relation is `Agree`, that the consumer has the same in both, or a property of one store, for what a call
leaves to others.
-/

namespace Txbox

open Lib

namespace HistoryAux

/-! ## Transactions -/

section Links

variable {σ : Type} {rel : σ → σ → Prop}

/-- Transactions in the same state, with related contents. -/
inductive TxRel (rel : σ → σ → Prop) : TxState σ → TxState σ → Prop where
  | live {cur cur' : σ} {saves saves' : List σ} (h : rel cur cur') (hs : List.Forall₂ rel saves saves') :
      TxRel rel (.live ⟨cur, saves⟩) (.live ⟨cur', saves'⟩)
  | aborted {saves saves' : List σ} (hs : List.Forall₂ rel saves saves') : TxRel rel (.aborted saves) (.aborted saves')
  | ended : TxRel rel .ended .ended

/-- Connections with related contents. -/
structure LinkRel (rel : σ → σ → Prop) (s t : Link σ) : Prop where
  committed : rel s.committed t.committed
  tx : TxRel rel s.tx t.tx

/-- A statement of the transaction answers alike on related connections, and keeps them related. -/
def LinkRelates (rel : σ → σ → Prop) {ρ : Type} (f : Link σ → ρ × Link σ) : Prop :=
  ∀ s t, LinkRel rel s t → (f s).1 = (f t).1 ∧ LinkRel rel (f s).2 (f t).2

/-- A statement that answers alike on related contents, and keeps them related. -/
def StatementRelates (rel : σ → σ → Prop) {R : Type} (f : σ → Except SqlError (R × σ)) : Prop :=
  ∀ x y, rel x y → (∃ e, f x = .error e ∧ f y = .error e) ∨ ∃ r x' y', f x = .ok (r, x') ∧ f y = .ok (r, y') ∧ rel x' y'

variable {fate : SqlError → Fate}

/-- What failed statements leave is related. -/
theorem txRel_fail (e : SqlError) {cur cur' : σ} {saves saves' : List σ} (h : rel cur cur') (hs : List.Forall₂ rel saves saves') :
    TxRel rel (Link.fail fate e ⟨cur, saves⟩) (Link.fail fate e ⟨cur', saves'⟩) := by
  unfold Link.fail
  cases fate e with
  | undone => exact .live h hs
  | aborted => exact .aborted hs
  | ended => exact .ended

theorem relates_statement {R : Type} {f : σ → Except SqlError (R × σ)} (hf : StatementRelates rel f) :
    LinkRelates rel (Link.statement fate f) := by
  rintro ⟨committed, tx⟩ ⟨committed', tx'⟩ ⟨hcommitted, htx⟩
  cases htx with
  | live h hs =>
    rcases hf _ _ h with ⟨e, hx, hy⟩ | ⟨r, x', y', hx, hy, hrel⟩
    · simp only [Link.statement, hx, hy]
      exact ⟨trivial, hcommitted, txRel_fail e h hs⟩
    · simp only [Link.statement, hx, hy]
      exact ⟨trivial, hcommitted, .live hrel hs⟩
  | aborted hs => exact ⟨rfl, hcommitted, .aborted hs⟩
  | ended =>
    rcases hf _ _ hcommitted with ⟨e, hx, hy⟩ | ⟨r, x', y', hx, hy, hrel⟩
    · simp only [Link.statement, hx, hy]
      exact ⟨trivial, hcommitted, .ended⟩
    · simp only [Link.statement, hx, hy]
      exact ⟨trivial, hrel, .ended⟩

theorem relates_savepoint : LinkRelates rel Link.savepoint := by
  rintro ⟨committed, tx⟩ ⟨committed', tx'⟩ ⟨hcommitted, htx⟩
  cases htx with
  | live h hs => exact ⟨rfl, hcommitted, .live h (.cons h hs)⟩
  | aborted hs => exact ⟨rfl, hcommitted, .aborted hs⟩
  | ended => exact ⟨rfl, hcommitted, .ended⟩

theorem relates_release : LinkRelates rel (Link.release fate) := by
  rintro ⟨committed, tx⟩ ⟨committed', tx'⟩ ⟨hcommitted, htx⟩
  cases htx with
  | live h hs =>
    cases hs with
    | nil => exact ⟨rfl, hcommitted, txRel_fail .failed h .nil⟩
    | cons hsaved hrest => exact ⟨rfl, hcommitted, .live h hrest⟩
  | aborted hs => exact ⟨rfl, hcommitted, .aborted hs⟩
  | ended => exact ⟨rfl, hcommitted, .ended⟩

theorem relates_rollbackTo : LinkRelates rel (Link.rollbackTo fate) := by
  rintro ⟨committed, tx⟩ ⟨committed', tx'⟩ ⟨hcommitted, htx⟩
  cases htx with
  | live h hs =>
    cases hs with
    | nil => exact ⟨rfl, hcommitted, txRel_fail .failed h .nil⟩
    | cons hsaved hrest => exact ⟨rfl, hcommitted, .live hsaved (.cons hsaved hrest)⟩
  | aborted hs =>
    cases hs with
    | nil => exact ⟨rfl, hcommitted, .aborted .nil⟩
    | cons hsaved hrest => exact ⟨rfl, hcommitted, .live hsaved (.cons hsaved hrest)⟩
  | ended => exact ⟨rfl, hcommitted, .ended⟩

/-- One statement after another. -/
theorem relates_seq {ρ ρ' : Type} {f : Link σ → ρ × Link σ} {g : ρ → Link σ → ρ' × Link σ} (hf : LinkRelates rel f)
    (hg : ∀ r, LinkRelates rel (g r)) : LinkRelates rel (fun s => g (f s).1 (f s).2) := by
  intro s t h
  obtain ⟨hreply, hnext⟩ := hf s t h
  simp only [hreply]
  exact hg _ _ _ hnext

theorem relates_releaseAndSavepoint : LinkRelates rel (Turn.releaseAndSavepoint fate) := by
  intro s t h
  obtain ⟨hreply, hnext⟩ := @relates_release _ rel fate s t h
  unfold Turn.releaseAndSavepoint
  generalize Link.release fate s = p at *
  generalize Link.release fate t = q at *
  obtain ⟨r, s'⟩ := p
  obtain ⟨r', t'⟩ := q
  obtain rfl : r = r' := hreply
  cases r with
  | error e => exact ⟨rfl, hnext⟩
  | ok u => exact relates_savepoint s' t' hnext

/-- A connection whose transaction has just begun. -/
theorem linkRel_begin {x y : σ} (h : rel x y) : LinkRel rel (Link.begin x) (Link.begin y) := ⟨h, .live h .nil⟩

/-- What is committed after a commit is related. -/
theorem rel_commit {s t : Link σ} (h : LinkRel rel s t) : rel s.commit t.commit := by
  obtain ⟨committed, tx⟩ := s
  obtain ⟨committed', tx'⟩ := t
  obtain ⟨hcommitted, htx⟩ := h
  cases htx with
  | live hcur hs => exact hcur
  | aborted hs => exact hcommitted
  | ended => exact hcommitted

end Links

/-! ## Calls -/

section Calls

variable {ε T D R H : Type} {b : SqlBackend ε}

/-- A handler's statement on the business data of a consumer. -/
def onData {C : Type} (d : ConsumerId) (f : D → Except SqlError (R × D)) (contents : Contents C D) :
    Except SqlError (R × Contents C D) :=
  (f (contents.data d)).map fun p => (p.1, { contents with data := Function.update contents.data d p.2 })

/-- The handler's statements keep what every statement of it keeps. -/
theorem relates_handle {C α : Type} {rel : Contents C D → Contents C D → Prop} {fate : SqlError → Fate} {d : ConsumerId}
    (hdata : ∀ f : D → Except SqlError (R × D), StatementRelates rel (onData d f)) (code : HandlerCode D R α) :
    LinkRelates rel (handle fate d code) := by
  induction code with
  | ret a =>
    intro s t h
    exact ⟨rfl, h⟩
  | statement f k ih => exact relates_seq (relates_statement (hdata f)) ih
  | savepoint k ih => exact relates_seq relates_savepoint ih
  | rollbackTo k ih => exact relates_seq relates_rollbackTo ih
  | release k ih => exact relates_seq relates_release ih

/-- A claim answers alike on related connections and contents, and keeps them related. -/
def ClaimRelates (conns : b.Conn → b.Conn → Prop) (rel : Contents b.Columns D → Contents b.Columns D → Prop) {α : Type}
    (p : Prog b.Statement b.Answer (Except (InboxError ε) α)) : Prop :=
  ∀ conn conn' x y, conns conn conn' → rel x y →
    (Turn.runClaim b p conn x.table).1 = (Turn.runClaim b p conn' y.table).1 ∧
    conns (Turn.runClaim b p conn x.table).2 (Turn.runClaim b p conn' y.table).2 ∧
    rel (Turn.claimed (Turn.runClaim b p conn x.table).2 x) (Turn.claimed (Turn.runClaim b p conn' y.table).2 y)

/-- What the calls of a consumer do keeps connections and contents related. -/
structure Keeps (b : SqlBackend ε) (R : Type) (d : ConsumerId) (conns : b.Conn → b.Conn → Prop)
    (rel : Contents b.Columns D → Contents b.Columns D → Prop) : Prop where
  claim : ∀ request, request.consumer = d → ClaimRelates conns rel (b.claim request)
  claimMany : ∀ batch, batch.consumer = d → ClaimRelates conns rel (b.claimMany batch)
  unclaim : ∀ id, StatementRelates rel (Turn.unclaim (d.asStr, id))
  data : ∀ f : D → Except SqlError (R × D), StatementRelates rel (onData d f)

/-- Two calls under way that have been the same so far. -/
structure TurnRel (conns : b.Conn → b.Conn → Prop) (rel : Contents b.Columns D → Contents b.Columns D → Prop)
    (s t : Turn b T D H) : Prop where
  link : LinkRel rel s.link t.link
  conn : conns s.conn t.conn
  closure : s.closure = t.closure
  calls : s.calls = t.calls

variable {conns : b.Conn → b.Conn → Prop} {rel : Contents b.Columns D → Contents b.Columns D → Prop} {d : ConsumerId}

/-- A claim on the connection. -/
theorem relates_claim {α : Type} {p : Prog b.Statement b.Answer (Except (InboxError ε) α)} (hp : ClaimRelates conns rel p)
    {s t : Turn b T D H} (h : TurnRel conns rel s t) :
    (Turn.claim p s).1 = (Turn.claim p t).1 ∧ TurnRel conns rel (Turn.claim p s).2 (Turn.claim p t).2 := by
  obtain ⟨⟨committed, tx⟩, conn, closure, calls⟩ := s
  obtain ⟨⟨committed', tx'⟩, conn', closure', calls'⟩ := t
  obtain ⟨⟨hcommitted, htx⟩, hconn, hclosure, hcalls⟩ := h
  cases htx with
  | live hcur hs =>
    obtain ⟨hreply, hconn', hcur'⟩ := hp _ _ _ _ hconn hcur
    refine ⟨hreply, ⟨hcommitted, ?_⟩, hconn', hclosure, hcalls⟩
    simp only [Turn.claim, hreply]
    split
    · exact .live hcur' hs
    · exact txRel_fail .failed hcur' hs
  | aborted hs => exact ⟨rfl, ⟨hcommitted, .aborted hs⟩, hconn, hclosure, hcalls⟩
  | ended =>
    obtain ⟨hreply, hconn', hcommitted'⟩ := hp _ _ _ _ hconn hcommitted
    exact ⟨hreply, ⟨hcommitted', .ended⟩, hconn', hclosure, hcalls⟩

/-- A statement of the transaction. -/
theorem relates_onLink {f : Link (Contents b.Columns D) → Except SqlError Unit × Link (Contents b.Columns D)}
    (hf : LinkRelates rel f) {s t : Turn b T D H} (h : TurnRel conns rel s t) :
    (Turn.onLink f s).1 = (Turn.onLink f t).1 ∧ TurnRel conns rel (Turn.onLink f s).2 (Turn.onLink f t).2 := by
  obtain ⟨hreply, hlink⟩ := hf _ _ h.link
  refine ⟨?_, hlink, h.conn, h.closure, h.calls⟩
  simp only [Turn.onLink, hreply]

/-- The call is of the consumer. -/
def OfConsumer (d : ConsumerId) : Call → Prop
  | .claim request => request.consumer = d
  | .claimMany batch => batch.consumer = d
  | .unclaim consumer _ => consumer = d
  | _ => True

/-- The calls of a consumer. -/
theorem relates_call (h : Keeps b R d conns rel) (handler : Handling ε T D R H) :
    Prog.Relates (Turn.call d handler : (c : Call) → Turn b T D H → _) (OfConsumer d) (TurnRel conns rel) := by
  intro c s t hc hst
  cases c with
  | claim request => exact relates_claim (h.claim request hc) hst
  | claimMany batch => exact relates_claim (h.claimMany batch hc) hst
  | savepoint => exact relates_onLink relates_savepoint hst
  | releaseAndSavepoint => exact relates_onLink relates_releaseAndSavepoint hst
  | release => exact relates_onLink relates_release hst
  | rollbackTo => exact relates_onLink relates_rollbackTo hst
  | unclaim consumer id =>
    obtain rfl : consumer = d := hc
    exact relates_onLink (@relates_statement _ rel b.fate _ _ (h.unclaim id.asStr)) hst
  | handler id =>
    obtain ⟨link, conn, closure, calls⟩ := s
    obtain ⟨link', conn', closure', calls'⟩ := t
    obtain ⟨hlink, hconn, hclosure, hcalls⟩ := hst
    obtain rfl : closure = closure' := hclosure
    obtain rfl : calls = calls' := hcalls
    obtain ⟨hreply, hlink'⟩ := @relates_handle _ _ _ _ rel b.fate _ h.data (handler id closure) _ _ hlink
    refine ⟨?_, hlink', hconn, ?_, ?_⟩
    · simp only [Turn.call, hreply]
    · simp only [Turn.call, hreply]
    · simp only [Turn.call, hreply]

end Calls

/-! ## The functions of a consumer -/

section Only

variable {ε T : Type} {self : Consumer}

theorem only_claim (id : MessageId) : Prog.Only (OfConsumer self.id) (self.claim id : ConnProg ε T _) := Prog.only_perform rfl

theorem only_claimMany (ids : List MessageId) : Prog.Only (OfConsumer self.id) (self.claimMany ids : ConnProg ε T _) := by
  unfold Consumer.claimMany
  split
  · trivial
  · refine Prog.only_try (Prog.only_perform rfl) (fun _ => trivial) ?_
    intro claims
    simp only [Consumer.spreadClaims]
    split
    · trivial
    · split
      · trivial
      · trivial

theorem only_processInTx (id : MessageId) : Prog.Only (OfConsumer self.id) (self.processInTx id : ConnProg ε T _) := by
  refine Prog.only_bind (only_claim id) ?_
  intro r
  split
  · trivial
  · trivial
  · exact Prog.only_try (Prog.only_perform trivial) (fun _ => trivial) (fun _ => trivial)

theorem only_handleFresh (id : MessageId) : Prog.Only (OfConsumer self.id) (self.handleFresh id : ConnProg ε T _) := by
  refine Prog.only_bind (Prog.only_perform trivial) ?_
  intro r
  cases r with
  | ok value => trivial
  | error e =>
    refine Prog.only_try (Prog.only_perform trivial) (fun _ => trivial) ?_
    intro u
    exact Prog.only_try (Prog.only_perform rfl) (fun _ => trivial) (fun _ => trivial)

theorem only_nextSavepoint (pending : Nat) : Prog.Only (OfConsumer self.id) (Consumer.nextSavepoint pending : ConnProg ε T _) := by
  unfold Consumer.nextSavepoint
  split
  · exact Prog.only_perform trivial
  · exact Prog.only_perform trivial

theorem only_processLoop (pairs : List (MessageId × Claim)) (pending : Nat) (results : List (ProcessResult ε T))
    (failed : List MessageId) : Prog.Only (OfConsumer self.id) (self.processLoop pairs pending results failed) := by
  induction pairs generalizing pending results failed with
  | nil => trivial
  | cons pair rest ih =>
    obtain ⟨id, claim⟩ := pair
    cases claim with
    | duplicate =>
      rw [Consumer.processLoop]
      split
      · exact ih _ _ _
      · exact ih _ _ _
    | fresh =>
      cases pending with
      | zero => trivial
      | succ pending =>
        refine Prog.only_try (only_handleFresh id) (fun _ => trivial) ?_
        intro result
        refine Prog.only_try (only_nextSavepoint pending) (fun _ => trivial) ?_
        intro u
        exact ih _ _ _

theorem only_processBatch (ids : List MessageId) : Prog.Only (OfConsumer self.id) (self.processBatch ids : ConnProg ε T _) := by
  refine Prog.only_try (only_claimMany ids) (fun _ => trivial) ?_
  intro claims
  simp only [Consumer.processClaimed]
  split
  · refine Prog.only_try (Prog.only_perform trivial) (fun _ => trivial) ?_
    intro u
    exact only_processLoop _ _ _ _
  · exact only_processLoop _ _ _ _

/-- A job makes calls of its consumer only. -/
theorem only_routine {job : Job} {k : InboxError ε → Answer ε T} {body : ConnProg ε T (Finish ε (Answer ε T))}
    (h : job.routine = .begin k body) : Prog.Only (OfConsumer job.consumer) body := by
  cases job with
  | process self id =>
    cases h
    exact Prog.only_bind (only_processInTx id) (fun _ => trivial)
  | processMany self ids =>
    simp only [Job.routine, Consumer.processMany] at h
    split at h
    · cases h
    · cases h
      exact Prog.only_bind (only_processBatch ids) (fun _ => trivial)
  | claimMany self ids ending =>
    cases h
    exact Prog.only_try (only_claimMany ids) (fun _ => trivial) (fun _ => trivial)

end Only

/-! ## Whole calls -/

section Serve

variable {ε T D R H : Type} {b : SqlBackend ε}

/-- What a function ends with on related connections. -/
theorem relates_finish {C α : Type} {rel : Contents C D → Contents C D → Prop} (f : Finish ε α) {s t : Link (Contents C D)}
    (h : LinkRel rel s t) : (Turn.finish f s).1 = (Turn.finish f t).1 ∧ rel (Turn.finish f s).2 (Turn.finish f t).2 := by
  cases f with
  | drop a => exact ⟨rfl, h.committed⟩
  | commit k => exact ⟨rfl, rel_commit h⟩
  | rollback k => exact ⟨rfl, h.committed⟩

/-- A call of a consumer returns the same on related databases, makes the same handler calls, and keeps them related. -/
theorem relates_serve {conns : b.Conn → b.Conn → Prop} {rel : Contents b.Columns D → Contents b.Columns D → Prop}
    {r : Request ε T D R H} (h : Keeps b R r.job.consumer conns rel) {s t : Shared b D}
    (hconn : conns (b.begin r.readings s.conn) (b.begin r.readings t.conn)) (hst : rel s.contents t.contents) :
    (s.serve r).1 = (t.serve r).1 ∧ rel (s.serve r).2.contents (t.serve r).2.contents := by
  unfold Shared.serve
  cases hroutine : r.job.routine with
  | ret a => exact ⟨rfl, hst⟩
  | begin k body =>
    have hrun := Prog.run_related (relates_call h r.handler) (only_routine hroutine)
      (s := ⟨Link.begin s.contents, b.begin r.readings s.conn, r.closure, []⟩)
      (t := ⟨Link.begin t.contents, b.begin r.readings t.conn, r.closure, []⟩) ⟨linkRel_begin hst, hconn, rfl, rfl⟩
    simp only
    generalize Prog.run (Turn.call r.job.consumer r.handler) none body
      (⟨Link.begin s.contents, b.begin r.readings s.conn, r.closure, []⟩ : Turn b T D H) = p at *
    generalize Prog.run (Turn.call r.job.consumer r.handler) none body
      (⟨Link.begin t.contents, b.begin r.readings t.conn, r.closure, []⟩ : Turn b T D H) = q at *
    obtain ⟨ended, turn⟩ := p
    obtain ⟨ended', turn'⟩ := q
    obtain ⟨hended, hturn⟩ := hrun
    obtain rfl : ended = ended' := hended
    have hcalls : turn.calls = turn'.calls := hturn.calls
    have hlink : LinkRel rel turn.link turn'.link := hturn.link
    cases ended with
    | returned f =>
      obtain ⟨hanswer, hcontents⟩ := relates_finish f hlink
      refine ⟨?_, hcontents⟩
      simp only [hanswer, hcalls]
    | panicked =>
      refine ⟨?_, hlink.committed⟩
      simp only [hcalls]
    | dropped =>
      refine ⟨?_, hlink.committed⟩
      simp only [hcalls]

/-- What a call of a consumer may do to what is stored keeps a property. -/
structure KeepsOne (b : SqlBackend ε) (d : ConsumerId) (p : Contents b.Columns D → Prop) : Prop where
  claim : ∀ request : ClaimRequest, request.consumer = d → ∀ conn x, p x →
    p (Turn.claimed (Turn.runClaim b (b.claim request) conn x.table).2 x)
  claimMany : ∀ batch : ClaimBatch, batch.consumer = d → ∀ conn x, p x →
    p (Turn.claimed (Turn.runClaim b (b.claimMany batch) conn x.table).2 x)
  unclaim : ∀ (id : String) x, p x → p { x with table := Function.update x.table (d.asStr, id) none }
  data : ∀ v x, p x → p { x with data := Function.update x.data d v }

/-- Then so does the call. -/
theorem keeps_serve {p : Contents b.Columns D → Prop} {r : Request ε T D R H} (h : KeepsOne b r.job.consumer p) {s : Shared b D}
    (hs : p s.contents) : p (s.serve r).2.contents := by
  have hkeeps : Keeps b R r.job.consumer Eq (fun x y => x = y ∧ p x) := by
    refine ⟨?_, ?_, ?_, ?_⟩
    · rintro request hd conn _ x _ rfl ⟨rfl, hx⟩
      exact ⟨rfl, rfl, rfl, h.claim request hd conn x hx⟩
    · rintro batch hd conn _ x _ rfl ⟨rfl, hx⟩
      exact ⟨rfl, rfl, rfl, h.claimMany batch hd conn x hx⟩
    · rintro id x _ ⟨rfl, hx⟩
      exact Or.inr ⟨_, _, _, rfl, rfl, rfl, h.unclaim id x hx⟩
    · rintro f x _ ⟨rfl, hx⟩
      unfold onData
      cases f (x.data r.job.consumer) with
      | error e => exact Or.inl ⟨e, rfl, rfl⟩
      | ok v => exact Or.inr ⟨_, _, _, rfl, rfl, rfl, h.data v.2 x hx⟩
  exact (relates_serve hkeeps rfl ⟨rfl, hs⟩).2.2

end Serve

/-! ## Backends that keep consumers apart -/

section Separates

variable {ε T D R H C : Type}

/-- The consumer has the same rows in both tables. -/
def SameRows (c : ConsumerId) (t t' : Table C) : Prop := ∀ id, t (c.asStr, id) = t' (c.asStr, id)

/-- The consumer has the same in both. -/
def Agree (c : ConsumerId) (x y : Contents C D) : Prop := SameRows c x.table y.table ∧ x.data c = y.data c

/-- The statements of a backend are keyed by the consumer: those of one consumer (`Of`) depend on its rows and on what the connection
reads (`conns`), and leave the rows of others alone; and a purge looks at every row for itself. -/
structure Separates (b : SqlBackend ε) (Of : ConsumerId → b.Statement → Prop) (conns : b.Conn → b.Conn → Prop) : Prop where
  table_withTable : ∀ conn t, b.table (b.withTable conn t) = t
  begin : ∀ readings conn conn', conns (b.begin readings conn) (b.begin readings conn')
  withTable : ∀ conn conn' t t', conns conn conn' → conns (b.withTable conn t) (b.withTable conn' t')
  claim : ∀ request, Prog.Only (Of request.consumer) (b.claim request)
  claimMany : ∀ batch, Prog.Only (Of batch.consumer) (b.claimMany batch)
  own : ∀ d, Prog.Relates b.exec (Of d) (fun s t => conns s t ∧ SameRows d (b.table s) (b.table t))
  others : ∀ d c s, Of d c → ∀ key, key.1 ≠ d.asStr → b.table (b.exec c s).2 key = b.table s key
  finite : ∀ c s, (b.table s).keys.Finite → (b.table (b.exec c s).2).keys.Finite
  purge : ∀ input, ∃ keep : b.Columns → Bool, ∀ t : Table b.Columns, t.keys.Finite →
    ∀ key, (b.purge input t).2 key = (t key).filter keep

variable {b : SqlBackend ε} {Of : ConsumerId → b.Statement → Prop} {conns : b.Conn → b.Conn → Prop}

/-- A delete keeps a table finite. -/
theorem finite_erase {t : Table C} (key : String × String) (h : t.keys.Finite) :
    Set.Finite (Table.keys (Function.update t key none)) := by
  refine h.subset ?_
  intro k hk
  rw [Table.mem_keys_iff] at hk ⊢
  by_cases hsame : k = key
  · rw [hsame, Function.update_self] at hk
    exact absurd rfl hk
  · rwa [Function.update_of_ne hsame] at hk

/-- The connection after a function of the backend is that after its run. -/
theorem runClaim_eq {α : Type} (p : Prog b.Statement b.Answer (Except (InboxError ε) α)) (conn : b.Conn) (t : Table b.Columns) :
    (Turn.runClaim b p conn t).2 = (Prog.run b.exec none p (b.withTable conn t)).2 ∧
    (Turn.runClaim b p conn t).1 = match (Prog.run b.exec none p (b.withTable conn t)).1 with
      | .returned r => r
      | _ => .error (.backend (.text "claim did not return")) := by
  unfold Turn.runClaim
  obtain ⟨ended, conn'⟩ := Prog.run b.exec none p (b.withTable conn t)
  cases ended <;> exact ⟨rfl, rfl⟩

namespace Separates

variable (hsep : Separates b Of conns) {d : ConsumerId} {α : Type} {p : Prog b.Statement b.Answer (Except (InboxError ε) α)}

include hsep

/-- A claim of a consumer depends on its own rows, and keeps what agrees. -/
theorem claimRelates (hp : Prog.Only (Of d) p) : ClaimRelates conns (Agree (D := D) d) p := by
  intro conn conn' x y hconn hxy
  have hrows : SameRows d (b.table (b.withTable conn x.table)) (b.table (b.withTable conn' y.table)) := by
    rw [hsep.table_withTable, hsep.table_withTable]
    exact hxy.1
  have hstart := And.intro (hsep.withTable conn conn' x.table y.table hconn) hrows
  obtain ⟨hended, hconn', hrows'⟩ := Prog.run_related (hsep.own d) hp hstart
  obtain ⟨hlast, hreply⟩ := runClaim_eq p conn x.table
  obtain ⟨hlast', hreply'⟩ := runClaim_eq p conn' y.table
  refine ⟨?_, ?_, ?_, hxy.2⟩
  · rw [hreply, hreply', hended]
  · rw [hlast, hlast']
    exact hconn'
  · intro id
    simp only [Turn.claimed, hlast, hlast']
    exact hrows' id

/-- A claim of a consumer leaves the rows of others alone. -/
theorem claim_others (hp : Prog.Only (Of d) p) {c : ConsumerId} (hne : c ≠ d) (conn : b.Conn) (t : Table b.Columns) :
    SameRows c (b.table (Turn.runClaim b p conn t).2) t := by
  rw [(runClaim_eq p conn t).1]
  refine Prog.run_keeps (I := fun s => SameRows c (b.table s) t) ?_ hp ?_
  · intro st s hst hs id
    rw [hsep.others d st s hst (c.asStr, id) (fun h => hne (StringNewtype.asStr_injective h))]
    exact hs id
  · intro id
    rw [hsep.table_withTable]

/-- A claim inserts finitely many rows. -/
theorem claim_finite (hp : Prog.Only (Of d) p) (conn : b.Conn) {t : Table b.Columns} (ht : t.keys.Finite) :
    (b.table (Turn.runClaim b p conn t).2).keys.Finite := by
  rw [(runClaim_eq p conn t).1]
  refine Prog.run_keeps (I := fun s => (b.table s).keys.Finite) (fun st s _ hs => hsep.finite st s hs) hp ?_
  rwa [hsep.table_withTable]

/-- The calls of a consumer keep what agrees for it. -/
theorem keeps_own : Keeps b R d conns (Agree (D := D) d) := by
  refine ⟨?_, ?_, ?_, ?_⟩
  · rintro request rfl
    exact hsep.claimRelates (hsep.claim request)
  · rintro batch rfl
    exact hsep.claimRelates (hsep.claimMany batch)
  · intro id x y hxy
    refine Or.inr ⟨_, _, _, rfl, rfl, ?_, hxy.2⟩
    intro id'
    simp only [Function.update_apply]
    rw [hxy.1 id']
  · intro f x y hxy
    unfold onData
    rw [hxy.2]
    cases f (y.data d) with
    | error e => exact Or.inl ⟨e, rfl, rfl⟩
    | ok v =>
      refine Or.inr ⟨_, _, _, rfl, rfl, hxy.1, ?_⟩
      simp

/-- The calls of a consumer leave alone what another has. -/
theorem keeps_others {c : ConsumerId} (hne : c ≠ d) (y : Contents b.Columns D) : KeepsOne b d (fun x => Agree c x y) := by
  refine ⟨?_, ?_, ?_, ?_⟩
  · rintro request rfl conn x hx
    refine ⟨?_, hx.2⟩
    intro id
    exact (hsep.claim_others (hsep.claim request) hne conn x.table id).trans (hx.1 id)
  · rintro batch rfl conn x hx
    refine ⟨?_, hx.2⟩
    intro id
    exact (hsep.claim_others (hsep.claimMany batch) hne conn x.table id).trans (hx.1 id)
  · intro id x hx
    refine ⟨?_, hx.2⟩
    intro id'
    have hkey : (c.asStr, id') ≠ (d.asStr, id) := fun h => hne (StringNewtype.asStr_injective (congrArg Prod.fst h))
    exact (Function.update_of_ne hkey _ _).trans (hx.1 id')
  · intro v x hx
    exact ⟨hx.1, (Function.update_of_ne hne _ _).trans hx.2⟩

/-- The calls of a consumer keep the table finite. -/
theorem keeps_finite : KeepsOne b d (fun x : Contents b.Columns D => x.table.keys.Finite) := by
  refine ⟨?_, ?_, ?_, ?_⟩
  · rintro request rfl conn x hx
    exact hsep.claim_finite (hsep.claim request) conn hx
  · rintro batch rfl conn x hx
    exact hsep.claim_finite (hsep.claimMany batch) conn hx
  · intro id x hx
    exact finite_erase _ hx
  · intro v x hx
    exact hx

/-- A purge keeps what agrees for a consumer, however many rows others have. -/
theorem agree_purge {c : ConsumerId} (input : b.Purge) {s t : Shared b D} (hs : s.contents.table.keys.Finite)
    (ht : t.contents.table.keys.Finite) (h : Agree c s.contents t.contents) :
    Agree c (s.after (.purge input : HistoryStep b T D R H)).contents (t.after (.purge input : HistoryStep b T D R H)).contents := by
  obtain ⟨keep, hkeep⟩ := hsep.purge input
  refine ⟨?_, h.2⟩
  intro id
  exact (hkeep _ hs _).trans ((congrArg (Option.filter keep) (h.1 id)).trans (hkeep _ ht _).symm)

/-- Every step keeps the table finite. -/
theorem finite_after (step : HistoryStep b T D R H) {s : Shared b D} (hs : s.contents.table.keys.Finite) :
    (s.after step).contents.table.keys.Finite := by
  cases step with
  | request r => exact keeps_serve hsep.keeps_finite hs
  | purge input =>
    obtain ⟨keep, hkeep⟩ := hsep.purge input
    refine hs.subset ?_
    intro key hkey
    rw [Table.mem_keys_iff] at hkey ⊢
    intro hnone
    apply hkey
    change (b.purge input s.contents.table).2 key = none
    rw [hkeep _ hs key, hnone]
    rfl

/-- A history, and the history without the calls of others, from databases that agree for a consumer. -/
theorem agree_afterAll (c : ConsumerId) (history : List (HistoryStep b T D R H)) {s t : Shared b D}
    (hs : s.contents.table.keys.Finite) (ht : t.contents.table.keys.Finite) (h : Agree c s.contents t.contents) :
    Shared.outcomes c history s = Shared.outcomes c (history.filter (HistoryStep.concerns c)) t ∧
      Agree c (Shared.afterAll history s).contents (Shared.afterAll (history.filter (HistoryStep.concerns c)) t).contents := by
  induction history generalizing s t with
  | nil => exact ⟨rfl, h⟩
  | cons step history ih =>
    have hs' := hsep.finite_after step hs
    cases step with
    | request r =>
      by_cases hc : r.job.consumer = c
      · -- A call of the consumer itself: both runs make it.
        subst hc
        obtain ⟨houtcome, hagree⟩ := relates_serve (r := r) hsep.keeps_own (hsep.begin _ s.conn t.conn) h
        obtain ⟨hrest, hlast⟩ := ih hs' (hsep.finite_after (.request r) ht) hagree
        have hkept : HistoryStep.concerns r.job.consumer (.request r : HistoryStep b T D R H) = true := by
          simp [HistoryStep.concerns]
        rw [List.filter_cons_of_pos hkept]
        refine ⟨?_, hlast⟩
        simp only [Shared.outcomes, if_true]
        rw [houtcome]
        exact congrArg _ hrest
      · -- A call of another consumer: the second run does not make it.
        have hne : c ≠ r.job.consumer := fun heq => hc heq.symm
        have hagree : Agree c (s.after (.request r : HistoryStep b T D R H)).contents t.contents :=
          keeps_serve (hsep.keeps_others hne t.contents) h
        obtain ⟨hrest, hlast⟩ := ih hs' ht hagree
        have hdropped : ¬ HistoryStep.concerns c (.request r : HistoryStep b T D R H) = true := by
          simp [HistoryStep.concerns, hc]
        rw [List.filter_cons_of_neg hdropped]
        refine ⟨?_, hlast⟩
        simp only [Shared.outcomes, hc, if_false]
        exact hrest
    | purge input =>
      obtain ⟨hrest, hlast⟩ := ih hs' (hsep.finite_after (.purge input) ht) (hsep.agree_purge input hs ht h)
      rw [List.filter_cons_of_pos rfl]
      exact ⟨hrest, hlast⟩

/-- On a backend that keeps consumers apart, every history is isolated for every consumer. -/
theorem isolated (c : ConsumerId) (history : List (HistoryStep b T D R H)) {s : Shared b D}
    (hs : s.contents.table.keys.Finite) : Isolated c history s := by
  have hrefl : Agree c s.contents s.contents := ⟨fun _ => rfl, rfl⟩
  refine ⟨(hsep.agree_afterAll c history hs hs hrefl).1, ?_⟩
  intro before _
  obtain ⟨hrows, hdata⟩ := (hsep.agree_afterAll c before hs hs hrefl).2
  exact Prod.ext (funext hrows) hdata

end Separates

end Separates

end HistoryAux

end Txbox
