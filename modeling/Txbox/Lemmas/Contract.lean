import Txbox.SqlStore
import Txbox.Lemmas.ConformanceCalls

/-!
# The contract of `InboxStore`

What a store has to do, as the store of `tests/it/conformance.rs` does it when it neither folds its ids nor leaks: a claim answers with
what is committed or claimed in its transaction, a commit keeps what the transaction claimed, a rollback and a drop forget it. A
backend whose claims do what they should keeps the contract.
-/

namespace Txbox

open Lib

variable {ε σ : Type}

/-- A store keeps the contract of `InboxStore`: in related states the calls that are made answer as those of the transactional store do,
and the states stay related. -/
def KeepsContract (exec : (op : StoreOp) → σ → StoreReply ε op × σ) (made : σ → StoreOp → Prop) (rel : σ → FakeStore → Prop) : Prop :=
  ∀ op s t, made s op → rel s t →
    (exec op s).1 = (FakeStore.exec (ε := ε) id false op t).1 ∧ rel (exec op s).2 (FakeStore.exec (ε := ε) id false op t).2

namespace FakeStore

/-! ## The claims of the transactional store -/

/-- The rows a claim sees. -/
def sees (t : FakeStore) : Finset (String × String) := t.committed ∪ t.pending.getD ∅

/-- The store with some rows claimed. -/
def add (rows : Finset (String × String)) (t : FakeStore) : FakeStore :=
  match t.pending with
  | some pending => { t with pending := some (pending ∪ rows \ t.committed) }
  | none => { t with committed := t.committed ∪ rows }

/-- The answer to the claim of a row. -/
def answer (t : FakeStore) (consumer id : String) : Claim := if (consumer, id) ∈ t.sees then .duplicate else .fresh

variable {t : FakeStore} {rows rows' : Finset (String × String)}

@[simp] theorem sees_add : (t.add rows).sees = t.sees ∪ rows := by
  rcases t with ⟨committed, leftover, _ | pending⟩
  · simp [sees, add]
  · ext key
    simp only [sees, add, Option.getD_some, Finset.mem_union, Finset.mem_sdiff]
    tauto

theorem add_add : (t.add rows).add rows' = t.add (rows ∪ rows') := by
  rcases t with ⟨committed, leftover, _ | pending⟩
  · simp [add]
  · simp only [add, FakeStore.mk.injEq, Option.some.injEq, true_and]
    ext key
    simp only [Finset.mem_union, Finset.mem_sdiff]
    tauto

theorem add_empty : t.add ∅ = t := by
  rcases t with ⟨committed, leftover, _ | pending⟩ <;> simp [add]

/-- `claim`. -/
theorem claim_eq (request : ClaimRequest) : claim (ε := ε) id request t =
    (.ok (t.answer request.consumer.asStr request.id.asStr), t.add {(request.consumer.asStr, request.id.asStr)}) := by
  rcases t with ⟨committed, leftover, _ | pending⟩
  · by_cases h : (request.consumer.asStr, request.id.asStr) ∈ committed
    · simp [claim, key, answer, sees, add, h]
    · simp [claim, key, answer, sees, add, h]
  · by_cases h : (request.consumer.asStr, request.id.asStr) ∈ committed
    · simp [claim, key, answer, sees, add, h]
    · by_cases h' : (request.consumer.asStr, request.id.asStr) ∈ pending
      · simp [claim, key, answer, sees, add, h, h', Finset.sdiff_eq_self_of_disjoint]
      · simp [claim, key, answer, sees, add, h, h', Finset.sdiff_eq_self_of_disjoint]

/-- The rows of a consumer for some ids. -/
def keys (consumer : String) (ids : List String) : Finset (String × String) := (ids.map fun id => (consumer, id)).toFinset

theorem mem_keys {consumer : String} {ids : List String} {key : String × String} :
    key ∈ keys consumer ids ↔ key.1 = consumer ∧ key.2 ∈ ids := by
  rcases key with ⟨c, id⟩
  simp [keys, and_comm, eq_comm]

/-- `claim_many` on distinct ids. -/
theorem claimMany_eq (consumer : ConsumerId) (lockTimeout : Option Duration) {ids : List MessageId} (hnodup : ids.Nodup)
    (t : FakeStore) : claimMany (ε := ε) id consumer lockTimeout ids t =
      (.ok ((ids.map StringNewtype.asStr).map (t.answer consumer.asStr)), t.add (keys consumer.asStr (ids.map StringNewtype.asStr))) := by
  induction ids generalizing t with
  | nil => simp [claimMany, keys, add_empty]
  | cons id ids ih =>
    rw [List.nodup_cons] at hnodup
    have hsame : (ids.map StringNewtype.asStr).map ((t.add {(consumer.asStr, id.asStr)}).answer consumer.asStr) =
        (ids.map StringNewtype.asStr).map (t.answer consumer.asStr) := by
      refine List.map_congr_left fun other hother => ?_
      obtain ⟨id', hid', rfl⟩ := List.mem_map.1 hother
      have hne : id'.asStr ≠ id.asStr := fun heq => hnodup.1 (StringNewtype.asStr_injective heq ▸ hid')
      simp [answer, hne]
    simp only [claimMany, claim_eq, ClaimRequest.new, ih hnodup.2, hsame, add_add]
    simp [keys, Except.map]

end FakeStore

/-! ## Backends -/

section Backends

variable {b : SqlBackend ε}

/-- A claim of a backend, on a connection and a table that are `ready` for it: it answers with what was there, and claims the ids. -/
def Claims (b : SqlBackend ε) (ready : b.Conn → Table b.Columns → Prop) {α : Type}
    (p : Prog b.Statement b.Answer (Except (InboxError ε) α)) (consumer : String) (ids : List String)
    (answer : Table b.Columns → α) : Prop :=
  ∀ conn t, ready conn t → ∃ conn', Prog.run b.exec none p (b.withTable conn t) = (.returned (.ok (answer t)), conn') ∧
    t.Claimed consumer ids (b.table conn')

/-- A backend whose claims do what they should, on connections and tables that are `ready` for them. -/
structure ClaimsRight (b : SqlBackend ε) (ready : StoreOp → b.Conn → Table b.Columns → Prop) : Prop where
  claim : ∀ request : ClaimRequest, NulFree request.consumer [request.id] →
    Claims b (ready (.claim request)) (b.claim request) request.consumer.asStr [request.id.asStr] fun t =>
      t.answer request.consumer.asStr request.id.asStr
  claimMany : ∀ batch : ClaimBatch, NulFree batch.consumer batch.ids →
    Claims b (ready (.claimMany batch)) (b.claimMany batch) batch.consumer.asStr (batch.ids.map StringNewtype.asStr) fun t =>
      (batch.ids.map StringNewtype.asStr).map (t.answer batch.consumer.asStr)

/-- The rows that a statement on the connection sees. -/
def Pool.sees (s : Pool b) : Table b.Columns :=
  match s.turn.link.tx with
  | .live work => work.cur.table
  | _ => s.turn.link.committed.table

/-- A property of the committed rows and of those that a statement sees. -/
def Pool.Both (F : Table b.Columns → Prop) (s : Pool b) : Prop := F s.table ∧ F s.sees

/-- A plain call for which the connection and the table are ready. -/
def Pool.Made (ready : StoreOp → b.Conn → Table b.Columns → Prop) (s : Pool b) (op : StoreOp) : Prop :=
  op.Plain ∧ ready op s.turn.conn s.sees

/-- A table has these rows. -/
def Table.HasRows {C : Type} (t : Table C) (rows : Finset (String × String)) : Prop := ∀ key, key ∈ t.keys ↔ key ∈ rows

/-- The rows of a table are in another one as they were. -/
def Table.Keeps {C : Type} (t₀ t : Table C) : Prop := ∀ key ∈ t₀.keys, t key = t₀ key

/-- A pool has the rows of the transactional store, committed and in the open transaction, and still those of a table it had. -/
inductive Shows (t₀ : Table b.Columns) : Pool b → FakeStore → Prop where
  | idle {contents : Contents b.Columns Unit} {conn : b.Conn} {calls : List (HandlerRun ε Unit Unit)} {readings : Nat → Readings}
      {rows : Finset (String × String)} (hkeeps : t₀.Keeps contents.table) (hrows : contents.table.HasRows rows) :
      Shows t₀ ⟨⟨⟨contents, .ended⟩, conn, (), calls⟩, readings⟩ ⟨rows, ∅, none⟩
  | busy {contents : Contents b.Columns Unit} {work : Nested (Contents b.Columns Unit)} {conn : b.Conn}
      {calls : List (HandlerRun ε Unit Unit)} {readings : Nat → Readings} {rows pending : Finset (String × String)}
      (hkeeps : t₀.Keeps contents.table) (hrows : contents.table.HasRows rows) (hwork : t₀.Keeps work.cur.table)
      (hpending : work.cur.table.HasRows (rows ∪ pending)) :
      Shows t₀ ⟨⟨⟨contents, .live work⟩, conn, (), calls⟩, readings⟩ ⟨rows, ∅, some pending⟩

namespace ContractAux

variable {ready : StoreOp → b.Conn → Table b.Columns → Prop} {t₀ : Table b.Columns}

theorem keeps_claimed {C : Type} {t₀ t t' : Table C} {consumer : String} {ids : List String} (h : t₀.Keeps t)
    (hclaimed : t.Claimed consumer ids t') : t₀.Keeps t' := by
  intro key hkey
  have hthere : key ∈ t.keys := by
    rw [Table.mem_keys_iff, h key hkey]
    exact Table.mem_keys_iff.1 hkey
  rw [hclaimed.kept key (Or.inr hthere), h key hkey]

theorem answer_eq {C : Type} {t : Table C} {s : FakeStore} (h : t.HasRows s.sees) (consumer id : String) :
    t.answer consumer id = s.answer consumer id := by
  have hiff : (t (consumer, id)).isSome = true ↔ (consumer, id) ∈ s.sees := h (consumer, id)
  simp only [Table.answer, FakeStore.answer, hiff]

theorem hasRows_claimed {C : Type} {t t' : Table C} {rows : Finset (String × String)} {consumer : String} {ids : List String}
    (h : t.HasRows rows) (hclaimed : t.Claimed consumer ids t') : t'.HasRows (rows ∪ FakeStore.keys consumer ids) := by
  intro key
  rw [hclaimed.mem_keys, h, Finset.mem_union, FakeStore.mem_keys]

/-- What is committed. -/
theorem hasRows_committed {s : Pool b} {t : FakeStore} (h : Shows t₀ s t) : s.table.HasRows t.committed := by
  cases h with
  | idle hkeeps hrows => exact hrows
  | busy hkeeps hrows hwork hpending => exact hrows

/-- A claim on the connection, as the transactional store makes it. -/
theorem shows_claim {α : Type} {p : Prog b.Statement b.Answer (Except (InboxError ε) α)} {consumer : String} {ids : List String}
    {answer : Table b.Columns → α} {op : StoreOp} (hclaims : Claims b (ready op) p consumer ids answer) {s : Pool b} {t : FakeStore}
    (hready : ready op s.turn.conn s.sees) (h : Shows t₀ s t) :
    ∃ table : Table b.Columns, table.HasRows t.sees ∧ (s.onTurn (Turn.claim p)).1 = .ok (answer table) ∧
      Shows t₀ (s.onTurn (Turn.claim p)).2 (t.add (FakeStore.keys consumer ids)) := by
  cases h with
  | @idle contents conn calls readings rows hkeeps hrows =>
    obtain ⟨conn', hrun, hclaimed⟩ := hclaims _ _ hready
    simp only [Pool.sees] at hrun hclaimed
    have hsees : contents.table.HasRows (FakeStore.sees ⟨rows, ∅, none⟩) := by simpa [FakeStore.sees] using hrows
    refine ⟨_, hsees, ?_, ?_⟩
    · simp only [Pool.onTurn, Turn.claim, Turn.runClaim, hrun]
    · simp only [Pool.onTurn, Turn.claim, Turn.runClaim, hrun, Turn.claimed, FakeStore.add]
      exact .idle (keeps_claimed hkeeps hclaimed) (hasRows_claimed hrows hclaimed)
  | busy hkeeps hrows hwork hpending =>
    obtain ⟨conn', hrun, hclaimed⟩ := hclaims _ _ hready
    simp only [Pool.sees] at hrun hclaimed
    refine ⟨_, hpending, ?_, ?_⟩
    · simp only [Pool.onTurn, Turn.claim, Turn.runClaim, hrun]
    · simp only [Pool.onTurn, Turn.claim, Turn.runClaim, hrun, Turn.claimed, FakeStore.add, Nested.modify]
      refine .busy hkeeps hrows (keeps_claimed hwork hclaimed) ?_
      have hadd := hasRows_claimed hpending hclaimed
      intro key
      rw [hadd key]
      simp only [Finset.mem_union, Finset.mem_sdiff]
      tauto

/-- A backend whose claims do what they should keeps the contract. -/
theorem keepsContract (hb : ClaimsRight b ready) (t₀ : Table b.Columns) :
    KeepsContract (Pool.exec (b := b)) (Pool.Made ready) (Shows t₀) := by
  rintro op s t ⟨hop, hready⟩ h
  cases op with
  | begin =>
    refine ⟨rfl, ?_⟩
    cases h with
    | idle hkeeps hrows => exact .busy hkeeps hrows hkeeps (by simpa [Nested.start] using hrows)
    | busy hkeeps hrows _ _ => exact .busy hkeeps hrows hkeeps (by simpa [Nested.start] using hrows)
  | commit =>
    refine ⟨rfl, ?_⟩
    cases h with
    | idle hkeeps hrows => exact .idle hkeeps (by simpa [Link.commit] using hrows)
    | busy hkeeps hrows hwork hpending => exact .idle hwork hpending
  | rollback =>
    refine ⟨rfl, ?_⟩
    cases h with
    | idle hkeeps hrows => exact .idle hkeeps hrows
    | busy hkeeps hrows hwork hpending => exact .idle hkeeps hrows
  | drop =>
    refine ⟨rfl, ?_⟩
    cases h with
    | idle hkeeps hrows => exact .idle hkeeps hrows
    | busy hkeeps hrows hwork hpending => exact .idle hkeeps hrows
  | claim request =>
    obtain ⟨table, hrows, hreply, hnext⟩ := shows_claim (hb.claim request hop) hready h
    simp only [Pool.exec, FakeStore.exec, FakeStore.claim_eq, hreply, answer_eq hrows]
    exact ⟨trivial, hnext⟩
  | claimMany batch =>
    obtain ⟨table, hrows, hreply, hnext⟩ := shows_claim (hb.claimMany batch hop.1) hready h
    have hanswers : (batch.ids.map StringNewtype.asStr).map (table.answer batch.consumer.asStr) =
        (batch.ids.map StringNewtype.asStr).map (t.answer batch.consumer.asStr) :=
      List.map_congr_left fun id _ => answer_eq hrows _ id
    simp only [Pool.exec, FakeStore.exec, FakeStore.claimMany_eq _ _ hop.2, hreply, hanswers]
    exact ⟨trivial, hnext⟩
  | savepoint => exact hop.elim
  | releaseAndSavepoint => exact hop.elim
  | release => exact hop.elim
  | rollbackTo => exact hop.elim
  | unclaim consumer id => exact hop.elim

/-! ## What every claim keeps of the tables -/

variable {F : Table b.Columns → Prop} {s : Pool b}

/-- A claim keeps it if its statements do. -/
theorem both_claim {α : Type} {p : Prog b.Statement b.Answer (Except (InboxError ε) α)}
    (hp : ∀ t, F t → F (b.table (Prog.run b.exec none p (b.withTable s.turn.conn t)).2)) (h : s.Both F) :
    Pool.Both F (s.onTurn (Turn.claim p)).2 := by
  have hclaim : ∀ t, F t → F (b.table (Turn.runClaim b p s.turn.conn t).2) := by
    intro t ht
    have hrun := hp t ht
    unfold Turn.runClaim
    generalize Prog.run b.exec none p (b.withTable s.turn.conn t) = out at hrun ⊢
    obtain ⟨ended, conn⟩ := out
    cases ended <;> exact hrun
  obtain ⟨⟨⟨contents, tx⟩, conn, closure, calls⟩, readings⟩ := s
  cases tx with
  | live work =>
    have hseen := hclaim _ h.2
    refine ⟨h.1, ?_⟩
    simp only [Pool.onTurn, Turn.claim, Pool.sees]
    split_ifs
    · exact hseen
    · unfold Link.fail
      cases b.fate .failed with
      | undone => exact hseen
      | aborted => exact h.1
      | ended => exact h.1
  | aborted saves => exact h
  | ended =>
    have hseen := hclaim _ h.2
    exact ⟨hseen, hseen⟩

/-- Every plain call keeps it if the statements of its claims do. -/
theorem both_exec {op : StoreOp} (hop : op.Plain)
    (hclaim : ∀ request, op = .claim request → ∀ t, F t →
      F (b.table (Prog.run b.exec none (b.claim request) (b.withTable s.turn.conn t)).2))
    (hclaimMany : ∀ batch, op = .claimMany batch → ∀ t, F t →
      F (b.table (Prog.run b.exec none (b.claimMany batch) (b.withTable s.turn.conn t)).2))
    (h : s.Both F) : Pool.Both F (Pool.exec op s).2 := by
  cases op with
  | begin => exact ⟨h.1, h.1⟩
  | commit =>
    have hcommit : F s.turn.link.commit.table := by
      obtain ⟨⟨⟨contents, tx⟩, conn, closure, calls⟩, readings⟩ := s
      cases tx with
      | live work => exact h.2
      | aborted saves => exact h.1
      | ended => exact h.1
    exact ⟨hcommit, hcommit⟩
  | rollback => exact ⟨h.1, h.1⟩
  | drop => exact ⟨h.1, h.1⟩
  | claim request => exact both_claim (hclaim request rfl) h
  | claimMany batch => exact both_claim (hclaimMany batch rfl) h
  | savepoint => exact hop.elim
  | releaseAndSavepoint => exact hop.elim
  | release => exact hop.elim
  | rollbackTo => exact hop.elim
  | unclaim consumer id => exact hop.elim

end ContractAux

end Backends

end Txbox
