import Txbox.Machine
import Txbox.Lemmas.ClaimMany

/-!
# The jobs against a contract of the database

What a job may rely on, seen from its own transaction and whatever the other workers do (`contract`), and what it owes in return
(`Job.Leaf`): it claims in order and before it holds anything, uses savepoints only where one is open, unclaims only what it
inserted, and commits only rows whose handler succeeded. Each job is verified once, by weakest preconditions.
-/

namespace Txbox

open Lib

variable {ε T : Type} {cfg : Config}

/-! ## The contract -/

/-- The keys of a batch are taken in order. What other workers commit in between, and the clock, may be anything. -/
inductive Claimed (cfg : Config) (consumer : ConsumerId) : Tx → List MessageId → List Claim → Tx → Prop
  | nil (tx : Tx) : Claimed cfg consumer tx [] [] tx
  | cons {tx tx' : Tx} {id : MessageId} {ids : List MessageId} {claims : List Claim} (rows : Key → Option Int)
      (now statement : Int) (h : Claimed cfg consumer (tx.take cfg rows now statement (consumer, id)).2 ids claims tx') :
      Claimed cfg consumer tx (id :: ids) ((tx.take cfg rows now statement (consumer, id)).1 :: claims) tx'

/-- What a call may do to the transaction. Nothing is assumed of a transaction whose call failed. -/
inductive Replies (cfg : Config) (consumer : ConsumerId) (tx : Tx) : (c : Call) → Reply ε T c → Tx → Prop
  | answers {c : Call} {r : Reply ε T c} {tx' : Tx} (h : Tx.Answers consumer tx c r tx') : Replies cfg consumer tx c r tx'
  | claim {request : ClaimRequest} {claim : Claim} {tx' : Tx} (h : Claimed cfg request.consumer tx [request.id] [claim] tx') :
      Replies cfg consumer tx (.claim request) (.ok claim) tx'
  | claimMany {batch : ClaimBatch} {claims : List Claim} {tx' : Tx} (h : Claimed cfg batch.consumer tx batch.ids claims tx') :
      Replies cfg consumer tx (.claimMany batch) (.ok claims) tx'
  | fails {c : Call} {r : Reply ε T c} {tx' : Tx} {e : InboxError ε} (h : c.fail e = some r) (hf : tx'.failed = true) :
      Replies cfg consumer tx c r tx'

/-- When a call may be made: a claim in strict order and before any key is locked or deleted, a savepoint operation while one is
open, and an `unclaim` of a row of this transaction. -/
def Tx.Permits (tx : Tx) : Call → Prop
  | .claim _ => tx.locks = [] ∧ tx.work.cur.deleted = []
  | .claimMany batch => tx.locks = [] ∧ tx.work.cur.deleted = [] ∧ batch.ids.Pairwise (· < ·)
  | .savepoint => True
  | .releaseAndSavepoint => tx.work.saves ≠ []
  | .release => tx.work.saves ≠ []
  | .rollbackTo => tx.work.saves ≠ []
  | .unclaim consumer id => (consumer, id) ∈ tx.work.cur.keys
  | .handler _ => True

/-- The contract of the calls of a job. -/
def contract (cfg : Config) (consumer : ConsumerId) : Prog.Contract Call (Reply ε T) Tx where
  pre := Tx.Permits
  post := Replies cfg consumer

/-- Work that may be committed: every row once, no committed row deleted. -/
structure Work.Clean (work : Work) : Prop where
  deleted : work.deleted = []
  nodup : work.keys.Nodup

/-- The handler of every row returned `Ok`, and no other effects are there. -/
def Work.Balanced (work : Work) : Prop := work.effects.Perm (work.keys.map fun key => (key, true))

/-- What a job owes where it ends. A message is reported settled only if it was recorded already, or if its row is in the commit
that succeeded. -/
def Job.Leaf (job : Job) (f : Finish ε (Answer ε T)) (tx : Tx) : Prop :=
  match f with
  | .drop a => ∀ id ∈ job.settled a, (job.consumer, id) ∈ tx.seen
  | .rollback k => ∀ r, ∀ id ∈ job.settled (k r), (job.consumer, id) ∈ tx.seen
  | .commit k => tx.failed = false ∧ tx.work.cur.Clean ∧ (job.Runs → tx.work.cur.Balanced) ∧
      (∀ e, job.settled (k (.error e)) = []) ∧
      ∀ id ∈ job.settled (k (.ok ())), (job.consumer, id) ∈ tx.seen ∨ (job.consumer, id) ∈ tx.work.cur.keys

namespace JobsAux

/-- A job that drops its transaction owes nothing for an answer that settles nothing. -/
theorem leaf_drop {job : Job} {a : Answer ε T} (h : job.settled a = []) (tx : Tx) : job.Leaf (.drop a) tx := by
  intro id hid
  simp only [h, List.not_mem_nil] at hid

/-- Nor does one that rolls it back. -/
theorem leaf_rollback {job : Job} {k : Except (InboxError ε) Unit → Answer ε T} (h : ∀ r, job.settled (k r) = []) (tx : Tx) :
    job.Leaf (.rollback k) tx := by
  intro r id hid
  simp only [h, List.not_mem_nil] at hid

/-! ## Claims -/

section Take

variable {rows : Key → Option Int} {now statement : Int} {tx : Tx} {key : Key}

/-- The three ways a key is taken. -/
theorem take_cases (cfg : Config) (rows : Key → Option Int) (now statement : Int) (tx : Tx) (key : Key) :
    (key ∈ tx.work.cur.keys ∧ tx.take cfg rows now statement key = (.duplicate, tx)) ∨
    (key ∉ tx.work.cur.keys ∧ (rows key).isSome ∧ tx.take cfg rows now statement key =
      (.duplicate, { tx with seen := key :: tx.seen, locks := if cfg.locksKnown then key :: tx.locks else tx.locks })) ∨
    (key ∉ tx.work.cur.keys ∧ (rows key = none ∨ key ∈ tx.work.cur.deleted) ∧ tx.take cfg rows now statement key =
      (.fresh, { tx with work := tx.work.modify (Work.insert ⟨key, cfg.stamp tx.started statement, statement, now⟩),
                         locks := key :: tx.locks })) := by
  unfold Tx.take
  by_cases hk : key ∈ tx.work.cur.keys
  · rw [if_pos hk]
    exact Or.inl ⟨hk, rfl⟩
  rw [if_neg hk]
  by_cases hr : (rows key).isSome ∧ key ∉ tx.work.cur.deleted
  · rw [if_pos hr]
    exact Or.inr (Or.inl ⟨hk, hr.1, rfl⟩)
  · rw [if_neg hr]
    refine Or.inr (Or.inr ⟨hk, ?_, rfl⟩)
    rw [not_and_not_right] at hr
    cases hrow : rows key with
    | none => exact Or.inl rfl
    | some p => exact Or.inr (hr (by rw [hrow]; rfl))

theorem keys_insert (row : Row) (work : Work) : (work.insert row).keys = work.keys ++ [row.key] := by
  simp [Work.keys, Work.insert]

end Take

/-- The ids of the fresh claims. -/
def freshOf (pairs : List (MessageId × Claim)) : List MessageId := (pairs.filter fun p => p.2 = .fresh).map Prod.fst

theorem freshOf_cons_fresh (id : MessageId) (pairs : List (MessageId × Claim)) :
    freshOf ((id, .fresh) :: pairs) = id :: freshOf pairs := rfl

theorem freshOf_cons_duplicate (id : MessageId) (pairs : List (MessageId × Claim)) :
    freshOf ((id, .duplicate) :: pairs) = freshOf pairs := rfl

/-- What claiming a batch leaves: the rows of the fresh ids are inserted, the others were seen or were there, and nothing else of the
transaction's work is touched. -/
structure ClaimedSpec (consumer : ConsumerId) (tx : Tx) (ids : List MessageId) (claims : List Claim) (tx' : Tx) : Prop where
  length : claims.length = ids.length
  keys : tx'.work.cur.keys = tx.work.cur.keys ++ (freshOf (ids.zip claims)).map fun id => (consumer, id)
  seen : ∀ id, (id, Claim.duplicate) ∈ ids.zip claims → (consumer, id) ∈ tx'.seen ∨ (consumer, id) ∈ tx'.work.cur.keys
  mono : ∀ key ∈ tx.seen, key ∈ tx'.seen
  nodup : tx.work.cur.keys.Nodup → tx'.work.cur.keys.Nodup
  saves : tx'.work.saves = tx.work.saves
  deleted : tx'.work.cur.deleted = tx.work.cur.deleted
  effects : tx'.work.cur.effects = tx.work.cur.effects
  failed : tx'.failed = tx.failed

/-- Claiming a batch, by induction over its keys. -/
theorem claimed_spec {consumer : ConsumerId} {tx tx' : Tx} {ids : List MessageId} {claims : List Claim}
    (h : Claimed cfg consumer tx ids claims tx') : ClaimedSpec consumer tx ids claims tx' := by
  induction h with
  | nil tx =>
    exact ⟨rfl, (List.append_nil _).symm, fun id h => absurd h List.not_mem_nil, fun _ h => h, fun h => h, rfl, rfl, rfl, rfl⟩
  | @cons tx tx' id ids claims rows now statement _ ih =>
    rcases take_cases cfg rows now statement tx (consumer, id) with ⟨hk, he⟩ | ⟨hk, _, he⟩ | ⟨hk, _, he⟩
    · rw [he] at ih ⊢
      refine ⟨congrArg (· + 1) ih.length, ih.keys, ?_, ih.mono, ih.nodup, ih.saves, ih.deleted, ih.effects, ih.failed⟩
      intro x hx
      rcases List.mem_cons.1 hx with hx | hx
      · cases hx
        refine Or.inr ?_
        rw [ih.keys]
        exact List.mem_append_left _ hk
      · exact ih.seen x hx
    · rw [he] at ih ⊢
      refine ⟨congrArg (· + 1) ih.length, ih.keys, ?_, fun key h => ih.mono key (List.mem_cons_of_mem _ h), ih.nodup,
        ih.saves, ih.deleted, ih.effects, ih.failed⟩
      intro x hx
      rcases List.mem_cons.1 hx with hx | hx
      · cases hx
        exact Or.inl (ih.mono _ List.mem_cons_self)
      · exact ih.seen x hx
    · rw [he] at ih ⊢
      have hkeys := ih.keys
      dsimp only [Nested.modify_cur] at hkeys
      rw [keys_insert] at hkeys
      refine ⟨congrArg (· + 1) ih.length, ?_, ?_, ih.mono, ?_, ih.saves, ih.deleted, ih.effects, ih.failed⟩
      · rw [hkeys, List.zip_cons_cons, freshOf_cons_fresh, List.map_cons, List.append_assoc]
        rfl
      · intro x hx
        rcases List.mem_cons.1 hx with hx | hx
        · nomatch hx
        · exact ih.seen x hx
      · intro hn
        apply ih.nodup
        dsimp only [Nested.modify_cur]
        rw [keys_insert, List.nodup_append]
        refine ⟨hn, List.nodup_singleton _, fun a ha b hb => ?_⟩
        rw [List.mem_singleton] at hb
        rintro rfl
        rw [hb] at ha
        exact hk ha

/-! ## The parts of `process_many` -/

section Parts

variable {consumer : ConsumerId} {tx tx' : Tx}

/-- What the handler may answer. -/
theorem replies_handler {id : MessageId} {r : Reply ε T (.handler id)} (h : Replies cfg consumer tx (.handler id) r tx') :
    (∃ value, r = .ok value ∧ tx' = { tx with work := tx.work.modify (Work.apply (consumer, id) true) }) ∨
      ∃ e, r = .error e ∧ tx' = { tx with work := tx.work.modify (Work.apply (consumer, id) false) } := by
  cases h with
  | answers h =>
    cases h with
    | handlerOk value => exact Or.inl ⟨value, rfl, rfl⟩
    | handlerErr e => exact Or.inr ⟨e, rfl, rfl⟩
  | fails h _ => nomatch h

/-- A fresh message: its effects are in, or its handler failed and its claim is gone, or a call failed. -/
theorem wp_handleFresh {R : Except (InboxError ε) (ProcessResult ε T) → Tx → Prop} (self : Consumer) (id : MessageId)
    {cur : Work} (hwork : tx.work = ⟨cur, [cur]⟩) (hkey : (self.id, id) ∈ cur.keys) (herr : ∀ e tx', R (.error e) tx')
    (hok : ∀ value, R (.ok (.ok (.processed value))) { tx with work := ⟨cur.apply (self.id, id) true, [cur]⟩ })
    (hfail : ∀ e, R (.ok (.error e))
      { tx with work := ⟨cur.delete (self.id, id), [cur]⟩, locks := (self.id, id) :: tx.locks }) :
    Prog.wp (contract cfg self.id) R (self.handleFresh id) tx := by
  refine ⟨trivial, fun r tx₁ h₁ => ?_⟩
  rcases replies_handler h₁ with ⟨value, rfl, rfl⟩ | ⟨e, rfl, rfl⟩
  · rw [hwork]
    exact hok value
  rw [hwork]
  refine ⟨List.cons_ne_nil _ _, fun r tx₂ h₂ => ?_⟩
  cases h₂ with
  | fails h _ =>
    cases h
    exact herr _ _
  | answers h =>
    cases h with
    | rollbackTo h =>
      cases h
      refine ⟨hkey, fun r tx₃ h₃ => ?_⟩
      cases h₃ with
      | fails h _ =>
        cases h
        exact herr _ _
      | answers h =>
        cases h
        exact hfail e

/-- After a fresh message the savepoint is released, and opened again while fresh messages wait. -/
theorem wp_nextSavepoint {R : Except (InboxError ε) Unit → Tx → Prop} (pending : Nat) {cur saved : Work}
    (hwork : tx.work = ⟨cur, [saved]⟩) (herr : ∀ e tx', R (.error e) tx')
    (hok : R (.ok ()) { tx with work := ⟨cur, if 0 < pending then [cur] else []⟩ }) :
    Prog.wp (contract (T := T) cfg consumer) R (Consumer.nextSavepoint pending) tx := by
  have hsaves : tx.work.saves ≠ [] := by
    rw [hwork]
    exact List.cons_ne_nil _ _
  have hrelease : tx.work.release = some ⟨cur, []⟩ := by
    rw [hwork]
    rfl
  unfold Consumer.nextSavepoint
  by_cases hp : pending > 0
  · rw [if_pos hp] at hok ⊢
    refine ⟨hsaves, fun r tx' h => ?_⟩
    cases h with
    | fails h _ =>
      cases h
      exact herr _ _
    | answers h =>
      cases h with
      | releaseAndSavepoint h =>
        rw [hrelease] at h
        cases h
        exact hok
  · rw [if_neg hp] at hok ⊢
    refine ⟨hsaves, fun r tx' h => ?_⟩
    cases h with
    | fails h _ =>
      cases h
      exact herr _ _
    | answers h =>
      cases h with
      | release h =>
        rw [hrelease] at h
        cases h
        exact hok

/-- `claim_many` on a transaction that has done nothing: the fresh ids are inserted, and the others were seen. -/
theorem wp_claimMany {R : Except (InboxError ε) (List Claim) → Tx → Prop} (self : Consumer) (ids : List MessageId)
    (now : Int) (mark : Nat) (herr : ∀ e tx', R (.error e) tx')
    (hok : ∀ (f : MessageId → Claim) tx', ClaimedSpec self.id (Tx.begin now mark) (sortUniq ids) ((sortUniq ids).map f) tx' →
      R (.ok (firstAnswers f [] ids)) tx') :
    Prog.wp (contract (T := T) cfg self.id) R (self.claimMany ids) (Tx.begin now mark) := by
  by_cases hids : ids = []
  · subst hids
    exact hok (fun _ => .fresh) _ (claimed_spec (@Claimed.nil cfg self.id _))
  rw [Consumer.claimMany_eq self hids]
  refine ⟨⟨rfl, rfl, pairwise_sortUniq ids⟩, fun r tx' h => ?_⟩
  cases h with
  | fails h _ =>
    cases h
    exact herr _ _
  | answers h => nomatch h
  | claimMany h =>
    have hspec := claimed_spec h
    obtain ⟨f, rfl⟩ := exists_map_of_length (nodup_sortUniq ids) hspec.length
    change Prog.wp _ _ (Consumer.spreadClaims (self.batch ids).ids ids ((self.batch ids).ids.map f)) tx'
    rw [spreadClaims_map f fun id hid => (self.mem_batch ids id).2 hid]
    exact hok f tx' hspec

end Parts

/-! ## The loop of `process_many` -/

/-- The invariant of the loop: `done` are the ids before it, `pairs` those still to come. The rows of the transaction are those whose
effects are in and those of the fresh messages to come; a duplicate to come was recorded, succeeded or failed in this batch, or is a
repeat of a fresh message to come. -/
structure Looping (consumer : ConsumerId) (done : List MessageId) (results : List (ProcessResult ε T))
    (pairs : List (MessageId × Claim)) (pending : Nat) (failed : List MessageId) (tx : Tx) : Prop where
  count : pending = (freshOf pairs).length
  length : done.length = results.length
  live : tx.failed = false
  clean : tx.work.cur.Clean
  saves : 0 < pending → tx.work.saves = [tx.work.cur]
  effects : ∀ p ∈ tx.work.cur.effects, p.2 = true
  keys : tx.work.cur.keys.Perm (tx.work.cur.effects.map Prod.fst ++ (freshOf pairs).map fun id => (consumer, id))
  settled : ∀ p ∈ done.zip results, p.2.isOk = true →
    (consumer, p.1) ∈ tx.seen ∨ (consumer, p.1) ∈ tx.work.cur.effects.map Prod.fst
  duplicates : ∀ before id after, pairs = before ++ (id, .duplicate) :: after →
    id ∈ failed ∨ (consumer, id) ∈ tx.seen ∨ (consumer, id) ∈ tx.work.cur.effects.map Prod.fst ∨ id ∈ freshOf before

section Loop

variable {consumer : ConsumerId} {done : List MessageId} {results : List (ProcessResult ε T)}
  {pairs : List (MessageId × Claim)} {pending : Nat} {failed : List MessageId} {tx : Tx} {id : MessageId}

/-- One more result. -/
theorem mem_zip_append (h : done.length = results.length) (r : ProcessResult ε T) (p : MessageId × ProcessResult ε T) :
    p ∈ (done ++ [id]).zip (results ++ [r]) ↔ p ∈ done.zip results ∨ p = (id, r) := by
  rw [List.zip_append h, List.mem_append, List.zip_cons_cons, List.zip_nil_left, List.mem_singleton]

/-- A duplicate is reported as one if it was settled, and as an error if its first delivery failed. -/
theorem Looping.duplicate (h : Looping consumer done results ((id, .duplicate) :: pairs) pending failed tx)
    (r : ProcessResult ε T) (hr : r.isOk = true → id ∉ failed) :
    Looping consumer (done ++ [id]) (results ++ [r]) pairs pending failed tx := by
  refine ⟨h.count, ?_, h.live, h.clean, h.saves, h.effects, h.keys, ?_, ?_⟩
  · rw [List.length_append, List.length_append, h.length, List.length_singleton, List.length_singleton]
  · intro p hp hok
    rcases (mem_zip_append h.length r p).1 hp with hp | rfl
    · exact h.settled p hp hok
    · rcases h.duplicates [] id pairs rfl with hf | hs | he | hn
      · exact absurd hf (hr hok)
      · exact Or.inl hs
      · exact Or.inr he
      · exact absurd hn List.not_mem_nil
  · intro before x after hx
    have hx' := h.duplicates ((id, .duplicate) :: before) x after (by rw [hx, List.cons_append])
    rw [freshOf_cons_duplicate] at hx'
    exact hx'

/-- The rows of a batch: a fresh message that comes next is among them, once, and its effects are not in. -/
theorem Looping.next (h : Looping consumer done results ((id, .fresh) :: pairs) (pending + 1) failed tx) :
    (consumer, id) ∈ tx.work.cur.keys ∧ (consumer, id) ∉ tx.work.cur.effects.map Prod.fst ∧ id ∉ freshOf pairs := by
  have hkeys := h.keys
  rw [freshOf_cons_fresh, List.map_cons] at hkeys
  have hnodup := hkeys.nodup_iff.1 h.clean.nodup
  have hmid := List.nodup_middle.1 hnodup
  rw [List.nodup_cons, List.mem_append, not_or] at hmid
  refine ⟨hkeys.mem_iff.2 (List.mem_append_right _ List.mem_cons_self), hmid.1.1, fun hm => hmid.1.2 ?_⟩
  exact List.mem_map.2 ⟨id, hm, rfl⟩

/-- What is known of the duplicates to come once a fresh message is settled one way or the other. -/
theorem Looping.duplicates_next (h : Looping consumer done results ((id, .fresh) :: pairs) (pending + 1) failed tx)
    {before after : List (MessageId × Claim)} {x : MessageId} (hx : pairs = before ++ (x, .duplicate) :: after) :
    x = id ∨ x ∈ failed ∨ (consumer, x) ∈ tx.seen ∨ (consumer, x) ∈ tx.work.cur.effects.map Prod.fst ∨ x ∈ freshOf before := by
  have hx' := h.duplicates ((id, .fresh) :: before) x after (by rw [hx, List.cons_append])
  rw [freshOf_cons_fresh, List.mem_cons] at hx'
  tauto

/-- A fresh message whose handler succeeded. -/
theorem Looping.ok (h : Looping consumer done results ((id, .fresh) :: pairs) (pending + 1) failed tx) (value : T) :
    Looping consumer (done ++ [id]) (results ++ [.ok (.processed value)]) pairs pending failed
      { tx with work := ⟨tx.work.cur.apply (consumer, id) true,
                         if 0 < pending then [tx.work.cur.apply (consumer, id) true] else []⟩ } := by
  have heff : (tx.work.cur.apply (consumer, id) true).effects.map Prod.fst =
      tx.work.cur.effects.map Prod.fst ++ [(consumer, id)] := by
    simp [Work.apply]
  refine ⟨?_, ?_, h.live, ⟨h.clean.deleted, h.clean.nodup⟩, fun hp => if_pos hp, ?_, ?_, ?_, ?_⟩
  · have := h.count
    rw [freshOf_cons_fresh, List.length_cons] at this
    omega
  · rw [List.length_append, List.length_append, h.length, List.length_singleton, List.length_singleton]
  · intro p hp
    rcases List.mem_append.1 hp with hp | hp
    · exact h.effects p hp
    · rw [List.mem_singleton.1 hp]
  · have hkeys := h.keys
    rw [freshOf_cons_fresh, List.map_cons] at hkeys
    dsimp only
    rw [heff, List.append_assoc]
    exact hkeys
  · intro p hp hok
    dsimp only
    rw [heff, List.mem_append]
    rcases (mem_zip_append h.length _ p).1 hp with hp | rfl
    · rcases h.settled p hp hok with hs | he
      · exact Or.inl hs
      · exact Or.inr (Or.inl he)
    · exact Or.inr (Or.inr List.mem_cons_self)
  · intro before x after hx
    dsimp only
    rw [heff, List.mem_append, List.mem_singleton]
    rcases h.duplicates_next hx with rfl | hf | hs | he | hn
    · exact Or.inr (Or.inr (Or.inl (Or.inr rfl)))
    · exact Or.inl hf
    · exact Or.inr (Or.inl hs)
    · exact Or.inr (Or.inr (Or.inl (Or.inl he)))
    · exact Or.inr (Or.inr (Or.inr hn))

/-- The keys left when a row is deleted. -/
theorem keys_delete {key : Key} {work : Work} (h : key ∈ work.keys) :
    (work.delete key).keys = work.keys.filter (fun k => k ≠ key) ∧ (work.delete key).deleted = work.deleted ∧
      (work.delete key).effects = work.effects := by
  unfold Work.delete
  rw [if_pos h]
  refine ⟨?_, rfl, rfl⟩
  unfold Work.keys
  rw [List.filter_map]
  rfl

/-- Taking away a key that is not there changes nothing. -/
theorem filter_ne_eq_self {l : List Key} {key : Key} (h : key ∉ l) : l.filter (fun k => k ≠ key) = l := by
  rw [List.filter_eq_self]
  intro k hk
  rw [decide_eq_true_eq]
  rintro rfl
  exact h hk

/-- A fresh message whose handler failed, and whose claim was deleted. -/
theorem Looping.error (h : Looping consumer done results ((id, .fresh) :: pairs) (pending + 1) failed tx) (e : HandlerError ε) :
    Looping consumer (done ++ [id]) (results ++ [.error e]) pairs pending (id :: failed)
      { tx with work := ⟨tx.work.cur.delete (consumer, id), if 0 < pending then [tx.work.cur.delete (consumer, id)] else []⟩,
                locks := (consumer, id) :: tx.locks } := by
  obtain ⟨hmem, hnew, honce⟩ := h.next
  obtain ⟨hkeys, hdel, heff⟩ := keys_delete hmem
  refine ⟨?_, ?_, h.live, ⟨?_, ?_⟩, fun hp => if_pos hp, ?_, ?_, ?_, ?_⟩
  · have := h.count
    rw [freshOf_cons_fresh, List.length_cons] at this
    omega
  · rw [List.length_append, List.length_append, h.length, List.length_singleton, List.length_singleton]
  · dsimp only
    rw [hdel, h.clean.deleted]
  · dsimp only
    rw [hkeys]
    exact h.clean.nodup.filter _
  · dsimp only
    rw [heff]
    exact h.effects
  · have hperm := (h.keys.filter (fun k => k ≠ (consumer, id)))
    rw [freshOf_cons_fresh, List.map_cons, List.filter_append, List.filter_cons_of_neg (by simp)] at hperm
    have hout : (consumer, id) ∉ (freshOf pairs).map fun x => (consumer, x) := by
      intro hmem
      obtain ⟨x, hx, hxe⟩ := List.mem_map.1 hmem
      cases hxe
      exact honce hx
    rw [filter_ne_eq_self hnew, filter_ne_eq_self hout] at hperm
    dsimp only
    rw [hkeys, heff]
    exact hperm
  · intro p hp hok
    dsimp only
    rw [heff]
    rcases (mem_zip_append h.length _ p).1 hp with hp | rfl
    · exact h.settled p hp hok
    · nomatch hok
  · intro before x after hx
    dsimp only
    rw [heff, List.mem_cons]
    rcases h.duplicates_next hx with rfl | hf | hs | he | hn
    · exact Or.inl (Or.inl rfl)
    · exact Or.inl (Or.inr hf)
    · exact Or.inr (Or.inl hs)
    · exact Or.inr (Or.inr (Or.inl he))
    · exact Or.inr (Or.inr (Or.inr hn))

/-- With no message left the transaction holds the rows it may commit, each with its effects. -/
theorem Looping.leaf {self : Consumer} (h : Looping self.id done results [] pending failed tx) :
    (Job.processMany self done).Leaf (.commit fun r => .many (r.map fun _ => results)) tx := by
  have hkeys := h.keys
  rw [freshOf, List.filter_nil, List.map_nil, List.map_nil, List.append_nil] at hkeys
  refine ⟨h.live, h.clean, fun _ => ?_, fun e => rfl, fun id hid => ?_⟩
  · have hid : ∀ p ∈ tx.work.cur.effects, ((fun key => (key, true)) ∘ Prod.fst) p = id p :=
      fun p hp => Prod.ext rfl (h.effects p hp).symm
    have heff : (tx.work.cur.effects.map Prod.fst).map (fun key => (key, true)) = tx.work.cur.effects := by
      rw [List.map_map, List.map_congr_left hid, List.map_id]
    have hperm := (hkeys.map fun key => (key, true)).symm
    rw [heff] at hperm
    exact hperm
  · obtain ⟨p, hp, rfl⟩ := List.mem_map.1 hid
    rw [List.mem_filter] at hp
    rcases h.settled p hp.1 hp.2 with hs | he
    · exact Or.inl hs
    · exact Or.inr (hkeys.mem_iff.2 he)

/-- The loop ends in a commit of what it owes, or in a failed call. -/
theorem wp_processLoop (self : Consumer) {ids : List MessageId} (hids : ids = done ++ pairs.map Prod.fst)
    (h : Looping self.id done results pairs pending failed tx) :
    Prog.wp (contract cfg self.id) (fun fin tx => (Job.processMany self ids).Leaf (fin.map .many) tx)
      (self.processLoop pairs pending results failed) tx := by
  induction pairs generalizing done results pending failed tx with
  | nil =>
    rw [List.map_nil, List.append_nil] at hids
    subst hids
    exact h.leaf
  | cons p pairs ih =>
    obtain ⟨id, claim⟩ := p
    rw [List.map_cons] at hids
    have hids' : ids = (done ++ [id]) ++ pairs.map Prod.fst := by
      rw [hids, List.append_assoc, List.singleton_append]
    cases claim with
    | duplicate =>
      unfold Consumer.processLoop
      by_cases hf : failed.contains id
      · rw [if_pos hf]
        exact ih hids' (h.duplicate _ (nomatch ·))
      · rw [if_neg hf]
        refine ih hids' (h.duplicate _ fun _ hmem => hf ?_)
        rw [List.contains_iff_mem]
        exact hmem
    | fresh =>
      cases pending with
      | zero =>
        have := h.count
        rw [freshOf_cons_fresh, List.length_cons] at this
        omega
      | succ pending =>
        have hwork : tx.work = ⟨tx.work.cur, [tx.work.cur]⟩ := by
          rw [← h.saves (Nat.succ_pos pending)]
        refine Prog.wp_bind (wp_handleFresh self id hwork h.next.1 ?_ ?_ ?_)
        · intro e tx'
          exact leaf_drop rfl tx'
        · intro value
          refine Prog.wp_bind (wp_nextSavepoint pending rfl ?_ ?_)
          · intro e tx'
            exact leaf_drop rfl tx'
          · exact ih hids' (h.ok value)
        · intro e
          refine Prog.wp_bind (wp_nextSavepoint pending rfl ?_ ?_)
          · intro e tx'
            exact leaf_drop rfl tx'
          · exact ih hids' (h.error e)

end Loop

/-! ## Where the loop begins -/

theorem length_freshOf {ids : List MessageId} {claims : List Claim} (h : claims.length = ids.length) :
    (freshOf (ids.zip claims)).length = claims.count .fresh := by
  have hsnd : (ids.zip claims).map Prod.snd = claims := List.map_snd_zip h.le
  rw [freshOf, List.length_map, ← List.countP_eq_length_filter]
  conv_rhs => rw [← hsnd]
  rw [List.count, List.countP_map]
  refine List.countP_congr fun p _ => ?_
  simp

/-- The fresh answers: one for each distinct id that was not seen and that the backend calls fresh. -/
theorem mem_freshOf_firstAnswers (f : MessageId → Claim) (seen ids : List MessageId) (id : MessageId) :
    id ∈ freshOf (ids.zip (firstAnswers f seen ids)) ↔ id ∈ ids ∧ id ∉ seen ∧ f id = .fresh := by
  induction ids generalizing seen with
  | nil => simp [freshOf]
  | cons x ids ih =>
    rw [firstAnswers, List.zip_cons_cons]
    by_cases hx : x ∈ seen
    · rw [if_pos hx, freshOf_cons_duplicate, ih]
      grind
    · rw [if_neg hx]
      cases hf : f x with
      | duplicate =>
        rw [freshOf_cons_duplicate, ih]
        grind
      | fresh =>
        rw [freshOf_cons_fresh, List.mem_cons, ih]
        grind

theorem nodup_freshOf_firstAnswers (f : MessageId → Claim) (seen ids : List MessageId) :
    (freshOf (ids.zip (firstAnswers f seen ids))).Nodup := by
  induction ids generalizing seen with
  | nil => exact List.nodup_nil
  | cons x ids ih =>
    rw [firstAnswers, List.zip_cons_cons]
    by_cases hx : x ∈ seen
    · rw [if_pos hx, freshOf_cons_duplicate]
      exact ih _
    · rw [if_neg hx]
      cases hf : f x with
      | duplicate =>
        rw [freshOf_cons_duplicate]
        exact ih _
      | fresh =>
        rw [freshOf_cons_fresh, List.nodup_cons, mem_freshOf_firstAnswers]
        exact ⟨fun h => h.2.1 List.mem_cons_self, ih _⟩

/-- Why an answer is a duplicate: the id was seen, or the backend says so, or a fresh answer went before. -/
theorem duplicate_of_firstAnswers {f : MessageId → Claim} {seen ids : List MessageId} {before after : List (MessageId × Claim)}
    {id : MessageId} (h : ids.zip (firstAnswers f seen ids) = before ++ (id, .duplicate) :: after) :
    id ∈ ids ∧ (id ∈ seen ∨ f id = .duplicate ∨ id ∈ freshOf before) := by
  induction ids generalizing seen before with
  | nil =>
    rw [List.zip_nil_left] at h
    exact absurd h.symm (List.append_ne_nil_of_right_ne_nil _ (List.cons_ne_nil _ _))
  | cons x ids ih =>
    rw [firstAnswers, List.zip_cons_cons] at h
    cases before with
    | nil =>
      rw [List.nil_append, List.cons.injEq, Prod.mk.injEq] at h
      obtain ⟨⟨rfl, hd⟩, _⟩ := h
      refine ⟨List.mem_cons_self, ?_⟩
      by_cases hx : x ∈ seen
      · exact Or.inl hx
      · rw [if_neg hx] at hd
        exact Or.inr (Or.inl hd)
    | cons p before =>
      rw [List.cons_append, List.cons.injEq] at h
      obtain ⟨hp, h⟩ := h
      obtain ⟨hmem, hcase⟩ := ih h
      refine ⟨List.mem_cons_of_mem _ hmem, ?_⟩
      by_cases hx : x ∈ seen
      · rw [if_pos hx] at hp
        subst hp
        rw [freshOf_cons_duplicate]
        grind
      · rw [if_neg hx] at hp
        cases hf : f x with
        | duplicate =>
          rw [hf] at hp
          subst hp
          rw [freshOf_cons_duplicate]
          grind
        | fresh =>
          rw [hf] at hp
          subst hp
          rw [freshOf_cons_fresh]
          grind

/-- What the claims of a batch leave is where its loop begins. -/
theorem looping_start {consumer : ConsumerId} {ids : List MessageId} {f : MessageId → Claim} {now : Int} {mark : Nat} {tx : Tx}
    (h : ClaimedSpec consumer (Tx.begin now mark) (sortUniq ids) ((sortUniq ids).map f) tx) {pending : Nat} {saves : List Work}
    (hpending : pending = (freshOf (ids.zip (firstAnswers f [] ids))).length) (hsaves : 0 < pending → saves = [tx.work.cur]) :
    Looping (ε := ε) (T := T) consumer [] [] (ids.zip (firstAnswers f [] ids)) pending []
      { tx with work := ⟨tx.work.cur, saves⟩ } := by
  have hmap : (sortUniq ids).map f = firstAnswers f [] (sortUniq ids) :=
    (firstAnswers_of_nodup (nodup_sortUniq ids) fun _ _ => List.not_mem_nil).symm
  have heff : tx.work.cur.effects = [] := h.effects
  have hperm : (freshOf ((sortUniq ids).zip ((sortUniq ids).map f))).Perm (freshOf (ids.zip (firstAnswers f [] ids))) := by
    rw [hmap, List.perm_ext_iff_of_nodup (nodup_freshOf_firstAnswers ..) (nodup_freshOf_firstAnswers ..)]
    intro id
    rw [mem_freshOf_firstAnswers, mem_freshOf_firstAnswers, mem_sortUniq]
  have hkeys : tx.work.cur.keys = (freshOf ((sortUniq ids).zip ((sortUniq ids).map f))).map fun id => (consumer, id) := h.keys
  refine ⟨hpending, rfl, h.failed, ⟨h.deleted, h.nodup List.nodup_nil⟩, hsaves, ?_, ?_, ?_, ?_⟩
  · intro p hp
    dsimp only at hp
    rw [heff] at hp
    exact absurd hp List.not_mem_nil
  · dsimp only
    rw [heff, List.map_nil, List.nil_append, hkeys]
    exact hperm.map _
  · intro p hp
    simp only [List.zip_nil_left, List.not_mem_nil] at hp
  · intro before id after hsplit
    obtain ⟨hid, hseen | hdup | hfresh⟩ := duplicate_of_firstAnswers hsplit
    · exact absurd hseen List.not_mem_nil
    · have hmem : (id, Claim.duplicate) ∈ (sortUniq ids).zip ((sortUniq ids).map f) := by
        rw [List.mem_iff_getElem?]
        obtain ⟨i, hi⟩ := List.mem_iff_getElem?.1 ((mem_sortUniq id ids).2 hid)
        refine ⟨i, ?_⟩
        rw [List.getElem?_zip_eq_some, List.getElem?_map, hi]
        exact ⟨rfl, congrArg some hdup⟩
      rcases h.seen id hmem with hs | hk
      · exact Or.inr (Or.inl hs)
      · rw [hkeys, List.mem_map] at hk
        obtain ⟨x, hx, hxe⟩ := hk
        cases hxe
        rw [hmap, mem_freshOf_firstAnswers, hdup] at hx
        nomatch hx.2.2
    · exact Or.inr (Or.inr (Or.inr hfresh))

/-! ## The jobs -/

/-- `process` owes what it ends in. -/
theorem wp_process (self : Consumer) (id : MessageId) (now : Int) (mark : Nat) :
    Prog.wp (contract (T := T) (ε := ε) cfg self.id) (fun fin tx => (Job.process self id).Leaf (fin.map .one) tx)
      (self.processInTx id) (Tx.begin now mark) := by
  refine ⟨⟨rfl, rfl⟩, fun r tx h => ?_⟩
  cases h with
  | fails h _ =>
    cases h
    exact leaf_drop rfl _
  | answers h => nomatch h
  | @claim _ claim _ h =>
    have hspec := claimed_spec h
    cases claim with
    | duplicate =>
      intro r x hx
      have hseen := hspec.seen id List.mem_cons_self
      rw [hspec.keys] at hseen
      cases r with
      | error e => exact absurd hx List.not_mem_nil
      | ok u =>
        cases List.mem_singleton.1 hx
        exact hseen.resolve_right List.not_mem_nil
    | fresh =>
      refine ⟨trivial, fun r tx' h' => ?_⟩
      rcases replies_handler h' with ⟨value, rfl, rfl⟩ | ⟨e, rfl, rfl⟩
      · have hkeys : tx.work.cur.keys = [(self.id, id)] := hspec.keys
        have heff : tx.work.cur.effects = [] := hspec.effects
        refine ⟨hspec.failed, ⟨hspec.deleted, hspec.nodup List.nodup_nil⟩, fun _ => ?_, fun e => rfl, fun x hx => Or.inr ?_⟩
        · change (tx.work.cur.effects ++ [((self.id, id), true)]).Perm (tx.work.cur.keys.map fun key => (key, true))
          rw [heff, hkeys]
          exact List.Perm.refl _
        · cases List.mem_singleton.1 hx
          change (self.id, id) ∈ tx.work.cur.keys
          rw [hkeys]
          exact List.mem_cons_self
      · exact leaf_rollback (fun _ => rfl) _

/-- `process_many` owes what it ends in. -/
theorem wp_processMany (self : Consumer) (ids : List MessageId) (now : Int) (mark : Nat) :
    Prog.wp (contract (T := T) (ε := ε) cfg self.id) (fun fin tx => (Job.processMany self ids).Leaf (fin.map .many) tx)
      (self.processBatch ids) (Tx.begin now mark) := by
  refine Prog.wp_bind (wp_claimMany self ids now mark ?_ fun f tx h => ?_)
  · intro e tx'
    exact leaf_drop rfl tx'
  have hlen := firstAnswers_length f [] ids
  have hfst : ids = [] ++ (ids.zip (firstAnswers f [] ids)).map Prod.fst := by
    rw [List.nil_append, List.map_fst_zip hlen.ge]
  change Prog.wp _ _ (self.processClaimed ids (firstAnswers f [] ids)) tx
  simp only [Consumer.processClaimed]
  by_cases hp : (firstAnswers f [] ids).count .fresh > 0
  · rw [if_pos hp]
    refine ⟨trivial, fun r tx' h' => ?_⟩
    cases h' with
    | fails h' _ =>
      cases h'
      exact leaf_drop rfl _
    | answers h' =>
      cases h'
      have hsaves : tx.work.savepoint = ⟨tx.work.cur, [tx.work.cur]⟩ := by
        rw [Nested.savepoint, h.saves]
        rfl
      rw [hsaves]
      exact wp_processLoop self hfst (looping_start h (length_freshOf hlen).symm fun _ => rfl)
  · rw [if_neg hp]
    exact wp_processLoop self hfst (looping_start h (length_freshOf hlen).symm fun hpos => absurd hpos hp)

/-- A caller of `claim_many` owes what it ends in. -/
theorem wp_claimManyJob (self : Consumer) (ids : List MessageId) (ending : Ending) (now : Int) (mark : Nat) :
    Prog.wp (contract cfg self.id) (Job.claimMany self ids ending).Leaf
      ((self.claimMany ids).bind fun
        | .error e => (.ret (.drop (.claims (.error e))) : ConnProg ε T (Finish ε (Answer ε T)))
        | .ok claims => .ret (ending.finish claims)) (Tx.begin now mark) := by
  refine Prog.wp_bind (wp_claimMany self ids now mark ?_ fun f tx h => ?_)
  · intro e tx'
    exact leaf_drop rfl tx'
  cases ending with
  | commit =>
    exact ⟨h.failed, ⟨h.deleted, h.nodup List.nodup_nil⟩, fun hr => hr.elim, fun e => rfl,
      fun x hx => absurd hx List.not_mem_nil⟩
  | rollback => exact leaf_rollback (fun _ => rfl) tx
  | drop => exact leaf_drop rfl tx

/-- `process_many` opens a transaction unless there is nothing to process. -/
theorem routine_processMany (self : Consumer) (ids : List MessageId) : ((Job.processMany self ids).routine : Routine ε T _) =
    if ids.isEmpty then .ret (.many (.ok []))
    else .begin (Answer.many ∘ .error) ((self.processBatch ids).bind fun fin => .ret (fin.map .many)) := by
  change Routine.map Answer.many (self.processMany ids) = _
  unfold Consumer.processMany
  split <;> rfl

end JobsAux

open JobsAux

/-- A job that opens a transaction keeps the contract from there to its end, and reports nothing settled when it cannot open one. -/
theorem Job.wp_routine {job : Job} {k : InboxError ε → Answer ε T} {body : ConnProg ε T (Finish ε (Answer ε T))}
    (h : job.routine = .begin k body) (cfg : Config) (now : Int) (mark : Nat) :
    Prog.wp (contract cfg job.consumer) job.Leaf body (Tx.begin now mark) ∧ ∀ e, job.settled (k e) = [] := by
  cases job with
  | process self id =>
    cases h
    exact ⟨Prog.wp_bind (wp_process self id now mark), fun e => rfl⟩
  | processMany self ids =>
    rw [routine_processMany] at h
    by_cases hids : ids.isEmpty
    · rw [if_pos hids] at h
      nomatch h
    · rw [if_neg hids] at h
      cases h
      exact ⟨Prog.wp_bind (wp_processMany self ids now mark), fun e => rfl⟩
  | claimMany self ids ending =>
    cases h
    exact ⟨wp_claimManyJob self ids ending now mark, fun e => rfl⟩

/-- A job that opens no transaction has nothing to settle. -/
theorem Job.settled_of_ret {job : Job} {a : Answer ε T} (h : job.routine = .ret a) : job.settled a = [] := by
  cases job with
  | process self id => nomatch h
  | processMany self ids =>
    rw [routine_processMany] at h
    by_cases hids : ids.isEmpty
    · rw [if_pos hids] at h
      cases h
      rw [List.isEmpty_iff.1 hids]
      rfl
    · rw [if_neg hids] at h
      nomatch h
  | claimMany self ids ending => nomatch h

end Txbox
