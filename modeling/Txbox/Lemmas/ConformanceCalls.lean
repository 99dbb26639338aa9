import Txbox.Lemmas.Backends
import Txbox.Lemmas.Conformance

/-!
# The calls of the conformance suite

The suite only makes calls of `InboxStore`, as `Consumer` makes them: the ids of a batch are distinct, and no identifier holds U+0000.
It sets no lock timeout, and calls `claim_many` once.
-/

namespace Txbox

open Lib Testing BackendsAux

/-- A method of `InboxStore` as `Consumer` and the suite call it: the ids of a batch are distinct, and nothing holds U+0000. -/
def StoreOp.Plain : StoreOp → Prop
  | .claim request => NulFree request.consumer [request.id]
  | .claimMany batch => NulFree batch.consumer batch.ids ∧ batch.ids.Nodup
  | op => op.IsInboxStore

/-- The lock timeout of a claim. -/
def StoreOp.lockTimeout : StoreOp → Option Duration
  | .claim request => request.lockTimeout
  | .claimMany batch => batch.lockTimeout
  | _ => none

/-- The method is `claim_many`. -/
def StoreOp.isClaimMany : StoreOp → Bool
  | .claimMany _ => true
  | _ => false

namespace ConformanceAux

variable {ε : Type}

/-! ## Only plain calls -/

/-- A program makes plain calls without lock timeouts, at most so many of them to `claim_many`. -/
structure Plainly (many : Nat) {α : Type} (p : StoreProg ε α) : Prop where
  only : Prog.Only (fun op => op.Plain ∧ op.lockTimeout = none) p
  atMost : Prog.AtMost StoreOp.isClaimMany many p

variable {α β : Type} {many : Nat}

theorem only_add {m n : Nat} {p : StoreProg ε α} {f : α → StoreProg ε β} (hp : Plainly m p) (hf : ∀ a, Plainly n (f a)) :
    Plainly (m + n) (p.bind f) :=
  ⟨Prog.only_bind hp.only fun a => (hf a).only, Prog.atMost_bind hp.atMost fun a => (hf a).atMost⟩

/-- A first part that does not call `claim_many`. -/
theorem only_bind {p : StoreProg ε α} {f : α → StoreProg ε β} (hp : Plainly 0 p) (hf : ∀ a, Plainly many (f a)) :
    Plainly many (p.bind f) := by
  have h := only_add hp hf
  rw [Nat.zero_add] at h
  exact h

theorem only_do {p : StoreProg ε α} {f : α → StoreProg ε β} (hp : Plainly 0 p) (hf : ∀ a, Plainly many (f a)) :
    Plainly many (p >>= f) := only_bind hp hf

/-- A rest that does not. -/
theorem only_doMany {p : StoreProg ε α} {f : α → StoreProg ε β} (hp : Plainly many p) (hf : ∀ a, Plainly 0 (f a)) :
    Plainly many (p >>= f) := only_add hp hf

theorem only_ret (a : α) : Plainly many (pure a : StoreProg ε α) := ⟨trivial, trivial⟩

theorem only_panic (m : String) : Plainly many (.panic m : StoreProg ε α) := ⟨trivial, trivial⟩

theorem only_op {op : StoreOp} (h : op.Plain) (htimeout : op.lockTimeout = none) (hmany : op.isClaimMany.toNat = many) :
    Plainly many (Prog.perform op : StoreProg ε (StoreReply ε op)) :=
  ⟨Prog.only_perform ⟨h, htimeout⟩, Nat.le_of_eq hmany, fun _ => trivial⟩

theorem only_expect {E : Type} (m : String) (r : Except E α) : Plainly many (Testing.expect m r : StoreProg ε α) := by
  cases r with
  | error e => exact only_panic m
  | ok a => exact only_ret a

theorem only_assert (b : Bool) (m : String) : Plainly many (Testing.assert b m : StoreProg ε Unit) := by
  cases b with
  | false => exact only_panic m
  | true => exact only_ret ()

/-- What is validated from a text without U+0000 has none. -/
theorem only_tryFrom {maxLen : Nat} (m : String) {value : String} (hvalue : hasNul value = false)
    {f : StringNewtype maxLen → StoreProg ε β} (hf : ∀ a, hasNul a.asStr = false → Plainly many (f a)) :
    Plainly many (Testing.expect m (StringNewtype.tryFrom value) >>= f) := by
  unfold StringNewtype.tryFrom
  split
  · rename_i hvalid
    exact hf ⟨value, hvalid⟩ hvalue
  · exact only_panic m

theorem hasNul_append (s t : String) : hasNul (s ++ t) = (hasNul s || hasNul t) := by
  simp [hasNul]

theorem hasNul_repeated (c : Char) (n : Nat) (hc : c ≠ '\x00') : hasNul (repeated c n) = false := by
  simp [hasNul, repeated, hc.symm]

theorem hasNul_start (run : Run) : hasNul run.start = false := by
  have hdigit : ∀ k, Nat.digitChar (k % 16) ≠ '\x00' := by
    intro k
    have hall : ∀ i < 16, Nat.digitChar i ≠ '\x00' := by decide
    exact hall _ (Nat.mod_lt k (by decide))
  have hhex : hasNul (hex run.n) = false := by
    simp only [hasNul, hex, String.toList_ofList, List.contains_eq_mem, List.mem_map, decide_eq_false_iff_not, not_exists, not_and]
    intro i _
    exact hdigit _
  have hfirst : hasNul "conformance-" = false := by decide
  have hlast : hasNul "-" = false := by decide
  rw [Run.start, Run.nonce, hasNul_append, hasNul_append, hhex, hfirst, hlast]
  rfl

theorem only_consumer (run : Run) {check : String} (hcheck : hasNul check = false) {f : ConsumerId → StoreProg ε β}
    (hf : ∀ c, hasNul c.asStr = false → Plainly many (f c)) : Plainly many (run.consumer check >>= f) := by
  refine only_tryFrom _ ?_ hf
  rw [hasNul_append, hasNul_start, hcheck]
  rfl

theorem only_message {id : String} (hid : hasNul id = false) {f : MessageId → StoreProg ε β}
    (hf : ∀ m, hasNul m.asStr = false → Plainly many (f m)) : Plainly many (message id >>= f) := only_tryFrom _ hid hf

theorem nulFree_one {consumer : ConsumerId} {id : MessageId} (hconsumer : hasNul consumer.asStr = false) (hid : hasNul id.asStr = false) :
    NulFree consumer [id] := ⟨hconsumer, by simpa using hid⟩

theorem only_claimAndCommit {consumer : ConsumerId} {id : MessageId} (h : NulFree consumer [id]) :
    Plainly 0 (claimAndCommit consumer id : StoreProg ε Claim) := by
  refine only_do (only_op trivial rfl rfl) fun _ => only_do (only_expect _ _) fun _ => ?_
  refine only_do (only_op h rfl rfl) fun _ => only_do (only_expect _ _) fun _ => ?_
  exact only_do (only_op trivial rfl rfl) fun _ => only_do (only_expect _ _) fun _ => only_ret _

theorem only_isCommitted {consumer : ConsumerId} {id : MessageId} (h : NulFree consumer [id]) :
    Plainly 0 (isCommitted consumer id : StoreProg ε Bool) := by
  refine only_do (only_op trivial rfl rfl) fun _ => only_do (only_expect _ _) fun _ => ?_
  refine only_do (only_op h rfl rfl) fun _ => only_do (only_expect _ _) fun _ => ?_
  exact only_do (only_op trivial rfl rfl) fun _ => only_do (only_expect _ _) fun _ => only_ret _

theorem only_claimInTx {consumer : ConsumerId} {id : MessageId} (h : NulFree consumer [id]) :
    Plainly 0 (claimInTx consumer id : StoreProg ε Unit) := by
  refine only_do (only_op trivial rfl rfl) fun _ => only_do (only_expect _ _) fun _ => ?_
  exact only_do (only_op h rfl rfl) fun _ => only_do (only_expect _ _) fun _ => only_ret _

/-- `process` makes plain calls when its handler does. -/
theorem only_process {T : Type} {handler : StoreHandler ε T} (hhandler : ∀ id, Plainly 0 (handler id)) {self : Consumer} {id : MessageId}
    (hself : self.lockTimeout = none) (h : NulFree self.id [id]) : Plainly 0 (routine handler (self.process id)) := by
  have hfinish : ∀ f : Finish ε (Except (InboxError ε) (Outcome T)), Plainly 0 (finish f) := by
    intro f
    cases f with
    | drop a => exact only_do (only_op trivial rfl rfl) fun _ => only_ret _
    | commit k => exact only_do (only_op trivial rfl rfl) fun _ => only_ret _
    | rollback k => exact only_do (only_op trivial rfl rfl) fun _ => only_ret _
  refine only_do (only_op trivial rfl rfl) fun r => ?_
  cases r with
  | error e => exact only_ret _
  | ok u =>
    refine only_bind ?_ hfinish
    rw [Consumer.processInTx_eq, Prog.interp]
    refine only_bind (only_op h hself rfl) fun r => ?_
    rcases r with e | _ | _
    · exact only_ret _
    · refine only_bind (hhandler id) fun r => ?_
      cases r <;> exact only_ret _
    · exact only_ret _

/-- `claim_many` makes one plain call. -/
theorem only_claimMany {self : Consumer} (hself : self.lockTimeout = none) {ids : List MessageId} (h : NulFree self.id ids) :
    Plainly 1 ((self.claimMany ids : ConnProg ε Unit _).interp (onConn fun _ => .ret (.ok ()))) := by
  by_cases hids : ids = []
  · subst hids
    exact only_ret _
  · have hbatch : NulFree self.id (self.batch ids).ids := ⟨h.1, fun id hid => h.2 id ((mem_sortUniq id ids).1 hid)⟩
    rw [Consumer.claimMany_eq _ hids, Prog.interp]
    refine only_doMany (only_op ⟨hbatch, nodup_sortUniq ids⟩ hself rfl) fun r => ?_
    cases r with
    | error e => exact only_ret _
    | ok claims =>
      change Plainly 0 ((Consumer.spreadClaims _ _ _).interp _)
      unfold Consumer.spreadClaims
      split_ifs
      · exact only_ret _
      · split
        · exact only_ret _
        · exact only_panic _

/-! ## The checks -/

theorem only_freshThenDuplicate (run : Run) : Plainly 0 (freshThenDuplicate run : StoreProg ε Unit) := by
  refine only_consumer run (by decide) fun c hc => only_message (by decide) fun m hm => ?_
  have hprocess := only_process (ε := ε) (fun _ => only_ret (Except.ok ())) rfl
    (show NulFree (consumerOf c).id [m] from nulFree_one hc hm)
  refine only_do hprocess fun _ => only_do (only_expect _ _) fun _ => ?_
  refine only_do hprocess fun _ => only_do (only_expect _ _) fun _ => ?_
  exact only_do (only_assert _ _) fun _ => only_assert _ _

theorem only_handlerFailureRollsBack (boxed : InboxError ε → HandlerError ε) (run : Run) :
    Plainly 0 (handlerFailureRollsBack boxed run) := by
  refine only_consumer run (by decide) fun c hc => only_consumer run (by decide) fun c' hc' => only_message (by decide) fun m hm => ?_
  have hhandler : ∀ message, Plainly 0 (failAfterClaim boxed c' m message) := by
    intro _
    refine only_do (only_op (nulFree_one hc' hm) rfl rfl) fun r => ?_
    cases r <;> exact only_ret _
  refine only_do (only_process hhandler rfl (nulFree_one hc hm)) fun _ => only_do (only_assert _ _) fun _ => ?_
  refine only_do (only_isCommitted (nulFree_one hc hm)) fun _ => only_do (only_assert _ _) fun _ => ?_
  exact only_do (only_isCommitted (nulFree_one hc' hm)) fun _ => only_assert _ _

theorem only_explicitRollbackDiscards (run : Run) : Plainly 0 (explicitRollbackDiscards run : StoreProg ε Unit) := by
  refine only_consumer run (by decide) fun c hc => only_message (by decide) fun m hm => ?_
  refine only_do (only_claimInTx (nulFree_one hc hm)) fun _ => ?_
  refine only_do (only_op trivial rfl rfl) fun _ => only_do (only_expect _ _) fun _ => ?_
  exact only_do (only_isCommitted (nulFree_one hc hm)) fun _ => only_assert _ _

theorem only_droppedTransaction (run : Run) : Plainly 0 (droppedTransactionDoesNotPersist run : StoreProg ε Unit) := by
  refine only_consumer run (by decide) fun c hc => only_message (by decide) fun m hm => only_message (by decide) fun m' hm' => ?_
  refine only_do (only_claimInTx (nulFree_one hc hm)) fun _ => only_do (only_op trivial rfl rfl) fun _ => ?_
  refine only_do (only_claimInTx (nulFree_one hc hm')) fun _ => ?_
  refine only_do (only_op trivial rfl rfl) fun _ => only_do (only_expect _ _) fun _ => ?_
  refine only_do (only_isCommitted (nulFree_one hc hm')) fun _ => only_do (only_assert _ _) fun _ => ?_
  exact only_do (only_isCommitted (nulFree_one hc hm)) fun _ => only_assert _ _

theorem only_acceptsAndDeduplicates {consumer : ConsumerId} {id : MessageId} (h : NulFree consumer [id]) :
    Plainly 0 (acceptsAndDeduplicates consumer id : StoreProg ε Unit) := by
  refine only_do (only_claimAndCommit h) fun _ => only_do (only_assert _ _) fun _ => ?_
  exact only_do (only_claimAndCommit h) fun _ => only_assert _ _

theorem only_maxLengthIdsAreAccepted (run : Run) : Plainly 0 (maxLengthIdsAreAccepted run : StoreProg ε Unit) := by
  have hascii : ∀ n, hasNul (run.start ++ repeated 'x' n) = false := by
    intro n
    rw [hasNul_append, hasNul_start, hasNul_repeated _ _ (by decide)]
    rfl
  have hwide : ∀ m n, hasNul (run.start ++ repeated wideChar m ++ repeated 'y' n) = false := by
    intro m n
    rw [hasNul_append, hasNul_append, hasNul_start, hasNul_repeated _ _ (by decide), hasNul_repeated _ _ (by decide)]
    rfl
  refine only_tryFrom _ (hascii _) fun c hc => only_tryFrom _ (hwide _ _) fun c' hc' => ?_
  refine only_message (hasNul_repeated _ _ (by decide)) fun m hm => only_message (hasNul_repeated _ _ (by decide)) fun m' hm' => ?_
  exact only_do (only_acceptsAndDeduplicates (nulFree_one hc hm)) fun _ => only_acceptsAndDeduplicates (nulFree_one hc' hm')

theorem only_eachIsFresh {consumer : ConsumerId} (hconsumer : hasNul consumer.asStr = false) {ids : List String}
    (hids : ∀ id ∈ ids, hasNul id = false) : Plainly 0 (eachIsFresh consumer ids : StoreProg ε Unit) := by
  induction ids with
  | nil => exact only_ret _
  | cons id ids ih =>
    refine only_message (hids id List.mem_cons_self) fun m hm => only_do (only_claimAndCommit (nulFree_one hconsumer hm)) fun _ => ?_
    exact only_do (only_assert _ _) fun _ => ih fun id' hid' => hids id' (List.mem_cons_of_mem _ hid')

theorem only_idsCompareByteForByte (run : Run) : Plainly 0 (idsCompareByteForByte run : StoreProg ε Unit) := by
  refine only_consumer run (by decide) fun c hc => only_eachIsFresh hc ?_
  have hlong : ∀ s, hasNul s = false → hasNul (repeated 'm' 511 ++ s) = false := by
    intro s hs
    rw [hasNul_append, hasNul_repeated _ _ (by decide), hs]
    rfl
  simp only [distinctIds, List.mem_cons, List.not_mem_nil, or_false, forall_eq_or_imp, forall_eq]
  exact ⟨hlong _ (by decide), hlong _ (by decide), by decide, by decide, by decide, by decide⟩

theorem only_claimManyMatchesSingleClaims (run : Run) : Plainly 1 (claimManyMatchesSingleClaims run : StoreProg ε Unit) := by
  refine only_consumer run (by decide) fun c hc => only_message (by decide) fun known hknown => ?_
  refine only_do (only_claimAndCommit (nulFree_one hc hknown)) fun _ => only_do (only_assert _ _) fun _ => ?_
  refine only_message (by decide) fun m₁ h₁ => only_message (by decide) fun m₂ h₂ => ?_
  refine only_message (by decide) fun m₃ h₃ => only_message (by decide) fun m₄ h₄ => ?_
  have hbatch : NulFree (consumerOf c).id [m₁, m₂, m₃, m₄] := ⟨hc, by simp [h₁, h₂, h₃, h₄]⟩
  refine only_do (only_op trivial rfl rfl) fun _ => only_do (only_expect _ _) fun _ => ?_
  refine only_doMany (only_claimMany rfl hbatch) fun _ => only_do (only_expect _ _) fun _ => ?_
  refine only_do (only_op trivial rfl rfl) fun _ => only_do (only_expect _ _) fun _ => only_do (only_assert _ _) fun _ => ?_
  refine only_message (by decide) fun a ha => only_do (only_isCommitted (nulFree_one hc ha)) fun _ => only_do (only_assert _ _) fun _ => ?_
  exact only_message (by decide) fun a ha => only_do (only_isCommitted (nulFree_one hc ha)) fun _ => only_assert _ _

/-- The suite makes plain calls, one of them to `claim_many`. -/
theorem only_conformance (boxed : InboxError ε → HandlerError ε) (run : Run) : Plainly 1 (conformance boxed run) := by
  refine only_do (only_freshThenDuplicate run) fun _ => ?_
  refine only_do (only_handlerFailureRollsBack boxed run) fun _ => ?_
  refine only_do (only_explicitRollbackDiscards run) fun _ => ?_
  refine only_do (only_droppedTransaction run) fun _ => ?_
  refine only_do (only_maxLengthIdsAreAccepted run) fun _ => ?_
  exact only_do (only_idsCompareByteForByte run) fun _ => only_claimManyMatchesSingleClaims run

end ConformanceAux

end Txbox
