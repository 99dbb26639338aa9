import Txbox.Lemmas.Tokens

/-!
# The backends refine the transactional store

A program that uses a store, any transactions one after another with any claims in them, comes to the same on a backend as on the
transactional store, and leaves the same rows. On MySQL that rests on the tokens: `claim_many` is right exactly when no row of the batch
carries the token it draws.
-/

namespace Txbox

open Lib ContractAux

/-- Programs over plain calls, with at most one transaction open at a time, come to the same on a backend as on the transactional store
with the same rows, and leave the same rows committed, as long as `needs` holds of the pool and the calls on it. -/
def RefinesStore {ε : Type} (b : SqlBackend ε) (needs : Pool b → List (Pool b × StoreOp × Pool b) → Prop) : Prop :=
  ∀ (α : Type) (p : StoreProg ε α), Prog.Only StoreOp.Plain p → ∀ t conn readings rows,
    let pool := Pool.idle t conn readings
    let steps := Prog.steps Pool.exec p pool
    (∀ step ∈ steps, step.1.Serves step.2.1) → needs pool steps → t.HasRows rows →
      ∃ r s t', Prog.outcome Pool.exec p pool = (r, s) ∧ Prog.outcome (FakeStore.exec id false) p ⟨rows, ∅, none⟩ = (r, t') ∧
        s.table.HasRows t'.committed

namespace ContractAux

theorem refines_of_claimsRight {ε : Type} {b : SqlBackend ε} {needs : Pool b → List (Pool b × StoreOp × Pool b) → Prop}
    {ready : StoreOp → b.Conn → Table b.Columns → Prop} (hb : ClaimsRight b ready)
    (hready : ∀ (α : Type) (p : StoreProg ε α), Prog.Only StoreOp.Plain p → ∀ t conn readings,
      let steps := Prog.steps Pool.exec p (Pool.idle t conn readings)
      needs (Pool.idle t conn readings) steps → ∀ step ∈ steps, step.1.Made ready step.2.1) : RefinesStore b needs := by
  intro α p hp t conn readings rows pool steps _ hneeds hrows
  have hstart : Shows t pool ⟨rows, ∅, none⟩ := .idle (fun _ _ => rfl) hrows
  obtain ⟨hresult, hshows⟩ := Prog.outcome_simulated (keepsContract hb t) (hready α p hp t conn readings hneeds) hstart
  exact ⟨_, _, _, rfl, Prod.ext hresult.symm rfl, hasRows_committed hshows⟩

end ContractAux

/-- The three backends refine the transactional store: PostgreSQL with the lock timeouts that it accepts, MySQL as long as the tokens it
draws do not repeat. -/
theorem backends_refine_store (ε : Type) {ι : Type} [LinearOrder ι] (json : JsonCodec) :
    (∀ server : PurgeServer Int Int ι Duration,
      RefinesStore (PgInbox.sqlBackend ε server) fun _ steps => PgInbox.TimeoutsAccepted steps) ∧
    (∀ server : PurgeServer DateTime Int ι DateTime, RefinesStore (SqliteInbox.sqlBackend ε json server) fun _ _ => True) ∧
    (∀ server : PurgeServer Int MySqlInbox.Columns ι Nat,
      RefinesStore (MySqlInbox.sqlBackend ε json server) MySqlInbox.FreshTokens) := by
  refine ⟨fun server => ?_, fun server => ?_, fun server => ?_⟩
  · refine refines_of_claimsRight (claimsRight_pg server) ?_
    intro α p hp t conn readings steps haccepted step hstep
    exact ⟨Prog.steps_of_only hp hstep, haccepted step hstep⟩
  · refine refines_of_claimsRight (claimsRight_sqlite json server) ?_
    intro α p hp t conn readings steps _ step hstep
    exact ⟨Prog.steps_of_only hp hstep, trivial⟩
  · refine refines_of_claimsRight claimsRight_mysql ?_
    intro α p hp t conn readings steps hfresh
    exact made_of_drawn hp hfresh.distinct ⟨hfresh.free, hfresh.free⟩

namespace PgInbox

/-- A consumer and a message. -/
def dispatch : ClaimRequest := ClaimRequest.new ⟨"dispatch", by decide⟩ ⟨"crate-10", by decide⟩

/-- A claim that is rolled back, and the same claim again, committed. -/
def retry : StoreProg Unit (Except (InboxError Unit) Claim) := do
  let _ ← Prog.perform StoreOp.begin
  let _ ← Prog.perform (StoreOp.claim dispatch)
  let _ ← Prog.perform StoreOp.rollback
  let _ ← Prog.perform StoreOp.begin
  let claim ← Prog.perform (StoreOp.claim dispatch)
  let _ ← Prog.perform StoreOp.commit
  return claim

/-- A claim leaves its transaction open, or aborted. -/
theorem busy_claim {request : ClaimRequest} {s : Pool (sqlBackend Unit purgeServer)} (h : s.busy = true) :
    (Pool.exec (.claim request) s).2.busy = true := by
  obtain ⟨⟨⟨contents, tx⟩, conn, closure, calls⟩, readings⟩ := s
  cases tx with
  | live work =>
    simp only [Pool.exec, Pool.onTurn, Turn.claim, Pool.busy]
    split_ifs <;> rfl
  | aborted saves => rfl
  | ended => cases h

/-- A pool on an empty table. -/
noncomputable def freshPool : Pool (sqlBackend Unit purgeServer) :=
  Pool.idle (fun _ => none) (⟨0, none, fun _ => none⟩ : Conn) fun n => ⟨fun _ => n, fun _ => 0⟩

end PgInbox

open PgInbox in
/-- A retry on an empty table: the second claim is fresh too, and its row is committed. -/
theorem backends_refine_store_retry : ∃ s : Pool (sqlBackend Unit purgeServer),
    Prog.outcome Pool.exec retry freshPool = (.ok (.ok .fresh), s) ∧ ("dispatch", "crate-10") ∈ s.table.keys := by
  have hplain : Prog.Only StoreOp.Plain retry := by
    have hnul : NulFree dispatch.consumer [dispatch.id] := by
      constructor
      · decide
      · decide
    exact ⟨trivial, fun _ => ⟨hnul, fun _ => ⟨trivial, fun _ => ⟨trivial, fun _ => ⟨hnul, fun _ => ⟨trivial, fun _ => trivial⟩⟩⟩⟩⟩⟩
  have hsteps : ∀ step ∈ Prog.steps Pool.exec retry freshPool, step.1.Serves step.2.1 ∧ TimeoutAccepted step.2.1.lockTimeout := by
    have hnone : TimeoutAccepted none := fun timeout h => nomatch h
    let s₁ := (Pool.exec .begin freshPool).2
    let s₂ := (Pool.exec (.claim dispatch) s₁).2
    let s₃ := (Pool.exec .rollback s₂).2
    let s₄ := (Pool.exec .begin s₃).2
    let s₅ := (Pool.exec (.claim dispatch) s₄).2
    have hall : Prog.steps Pool.exec retry freshPool = [(freshPool, .begin, s₁), (s₁, .claim dispatch, s₂), (s₂, .rollback, s₃),
        (s₃, .begin, s₄), (s₄, .claim dispatch, s₅), (s₅, .commit, (Pool.exec .commit s₅).2)] := rfl
    rw [hall]
    simp only [List.forall_mem_cons]
    exact ⟨⟨rfl, hnone⟩, ⟨trivial, hnone⟩, ⟨busy_claim rfl, hnone⟩, ⟨rfl, hnone⟩, ⟨trivial, hnone⟩, ⟨busy_claim rfl, hnone⟩, by simp⟩
  obtain ⟨r, s, t', hrun, hstore, hrows⟩ := (backends_refine_store Unit JsonCodec.list).1 purgeServer _ retry hplain (fun _ => none)
    ⟨0, none, fun _ => none⟩ (fun n => ⟨fun _ => n, fun _ => 0⟩) ∅
    (fun step hstep => (hsteps step hstep).1) (fun step hstep => (hsteps step hstep).2) (fun key => by simp [Table.keys])
  have hresult : Prog.outcome (FakeStore.exec (ε := Unit) id false) retry ⟨∅, ∅, none⟩ =
      (.ok (.ok .fresh), ⟨{("dispatch", "crate-10")}, ∅, none⟩) := by rfl
  rw [hresult] at hstore
  cases hstore
  exact ⟨s, hrun, (hrows _).2 (by simp)⟩

/-- `MySqlInbox::claim_many` answers and claims as it should exactly when no row of the batch carries the token it draws. -/
theorem mysqlClaimMany_right_iff {ε : Type} (json : JsonCodec) (batch : ClaimBatch) (h : NulFree batch.consumer batch.ids)
    (s : MySqlInbox.Conn) :
    ClaimsMany (MySqlInbox.exec (ε := ε) json) MySqlInbox.Conn.table (MySqlInbox.claimMany json batch) batch.consumer.asStr
        (batch.ids.map StringNewtype.asStr) s ↔
      ∀ id ∈ batch.ids, ∀ columns, s.table (batch.consumer.asStr, id.asStr) = some columns → columns.claimToken ≠ some (s.tokens 0) := by
  obtain ⟨s', hrun, htable⟩ := BackendsAux.run_mysqlClaimMany (ε := ε) json batch h s
  obtain ⟨ids, hids⟩ : ∃ ids, ids = batch.ids.map StringNewtype.asStr := ⟨_, rfl⟩
  simp only [← hids] at hrun htable ⊢
  -- One id: what is read back by the token, and what should be answered.
  have hone : ∀ id ∈ ids, ((if (ids.filter fun id => ((s.table.insertEach batch.consumer.asStr ⟨s.clock 0, some (s.tokens 0)⟩
        (sortBytes ids)).2 (batch.consumer.asStr, id)).any fun columns => columns.claimToken = some (s.tokens 0)).contains id
      then Claim.fresh else .duplicate) = s.table.answer batch.consumer.asStr id ↔
      ∀ columns, s.table (batch.consumer.asStr, id) = some columns → columns.claimToken ≠ some (s.tokens 0)) := by
    intro id hid
    simp only [List.contains_eq_mem, List.mem_filter, hid, true_and, Table.insertEach_snd_apply, (perm_sortBytes _).mem_iff, and_true,
      decide_eq_true_eq, Table.answer]
    cases hrow : s.table (batch.consumer.asStr, id) with
    | none => simp
    | some columns => by_cases htoken : columns.claimToken = some (s.tokens 0) <;> simp [htoken]
  constructor
  · rintro ⟨s'', hright, _⟩
    rw [hrun] at hright
    have hanswers := congrArg Prod.fst hright
    simp only [Prog.Ended.returned.injEq, Except.ok.injEq, claimsFromFresh] at hanswers
    intro id hid
    have hmem : id.asStr ∈ ids := hids ▸ List.mem_map_of_mem hid
    exact (hone id.asStr hmem).1 (List.map_inj_left.1 hanswers id.asStr hmem)
  · intro hfree
    refine ⟨s', ?_, ?_⟩
    · rw [hrun, claimsFromFresh]
      congr 3
      refine List.map_congr_left fun id hid => ?_
      obtain ⟨id', hid', rfl⟩ := List.mem_map.1 (hids ▸ hid)
      exact (hone _ hid).2 (hfree id' hid')
    · rw [htable]
      exact Table.claimed_insertEach (perm_sortBytes _)

namespace MySqlInbox

/-- A batch of one id. -/
def depot : ClaimBatch := ClaimBatch.new ⟨"depot", by decide⟩ [⟨"crate-11", by decide⟩]

/-- Its row is there, and carries the token that is drawn next. -/
def unlucky : Conn where
  vars := ⟨50, none⟩
  clock _ := 0
  tokens _ := 4
  table key := if key = ("depot", "crate-11") then some ⟨0, some 4⟩ else none

end MySqlInbox

open MySqlInbox in
/-- A token that repeats: the batch is not answered as it should be. -/
theorem mysqlClaimMany_right_iff_unlucky : ¬ClaimsMany (exec (ε := Unit) JsonCodec.list) Conn.table (claimMany JsonCodec.list depot)
    depot.consumer.asStr (depot.ids.map StringNewtype.asStr) unlucky := by
  have hnul : NulFree depot.consumer depot.ids := by
    constructor
    · decide
    · decide
  rw [mysqlClaimMany_right_iff JsonCodec.list depot hnul unlucky]
  intro hfree
  exact hfree _ List.mem_cons_self _ rfl rfl

end Txbox
