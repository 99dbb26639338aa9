import Txbox.Testing
import Txbox.Lemmas.ClaimMany
import Txbox.Theorems.Scoped

/-!
# The checks of the conformance suite, one by one

Every check of the suite on the store of `tests/it/conformance.rs`, with any function in the place of its case folding and with or
without its leak: what it comes to, and the rows it leaves. The rows of a check are its own, because its consumer is, so that the checks
follow one another. `outcome_conformance` is the whole suite.
-/

namespace Txbox

open Lib Testing

namespace ConformanceAux

variable {ε : Type}

/-! ## The ids of a run -/

/-- The random number is shown by sixteen characters of one byte. -/
theorem hex_length (n : UInt64) : (hex n).toList.length = 16 ∧ (hex n).utf8ByteSize = 16 := by
  have hdigit : ∀ k, (Nat.digitChar (k % 16)).utf8Size = 1 := by
    intro k
    have hall : ∀ i < 16, (Nat.digitChar i).utf8Size = 1 := by decide
    exact hall _ (Nat.mod_lt k (by decide))
  have hlen : ∀ l : List Nat, String.utf8Len (l.map fun i => Nat.digitChar (n.toNat / 16 ^ (15 - i) % 16)) = l.length := by
    intro l
    induction l with
    | nil => rfl
    | cons i l ih => simp [hdigit, ih]
  constructor
  · simp [hex]
  · rw [hex, String.utf8ByteSize_ofList, hlen, List.length_range]

theorem start_length (run : Run) : run.start.toList.length = 29 ∧ run.start.utf8ByteSize = 29 := by
  obtain ⟨hlength, hsize⟩ := hex_length run.n
  have hfirst : ("conformance-" : String).utf8ByteSize = 12 := by decide
  have hlast : ("-" : String).utf8ByteSize = 1 := by decide
  constructor
  · simp [Run.start, Run.nonce, hlength]
  · rw [Run.start, Run.nonce, String.utf8ByteSize_append, String.utf8ByteSize_append, hfirst, hlast, hsize]

/-- What may follow the start of a run in a consumer id. -/
structure Follows (check : String) : Prop where
  last : ∃ c, check.toList.getLast? = some c ∧ isWhitespace c = false
  size : check.utf8ByteSize ≤ 226

/-- Then the id is valid. -/
theorem valid_start (run : Run) {check : String} (h : Follows check) : checkId 255 (run.start ++ check) = .ok () := by
  obtain ⟨⟨c, hlast, hc⟩, hsize⟩ := h
  have hne : run.start ++ check ≠ "" := by
    intro heq
    have hl := congrArg (fun s : String => s.toList.length) heq
    simp [(start_length run).1] at hl
  have htrimmed : TrimmedEnds (run.start ++ check) := by
    constructor
    · intro d hd
      have hhead : (run.start ++ check).toList.head? = some 'c' := by simp [Run.start]
      rw [hhead] at hd
      cases hd
      decide
    · intro d hd
      have hnil : check.toList ≠ [] := by
        intro hnil
        simp [hnil] at hlast
      have hlast' : (run.start ++ check).toList.getLast? = some c := by
        rw [String.toList_append, List.getLast?_append, hlast]
        rfl
      rw [hlast'] at hd
      cases hd
      exact hc
  rw [ScopedAux.checkId_of_trimmed hne htrimmed, String.utf8ByteSize_append, (start_length run).2, if_neg (by omega)]

/-- The consumer of a check. -/
def Follows.consumerId {check : String} (h : Follows check) (run : Run) : ConsumerId := ⟨run.start ++ check, valid_start run h⟩

@[simp] theorem asStr_consumerId {check : String} (h : Follows check) (run : Run) :
    (h.consumerId run).asStr = run.start ++ check := rfl

@[simp] theorem outcome_consumer {σ : Type} {exec : (op : StoreOp) → σ → StoreReply ε op × σ} (run : Run) {check : String}
    (h : Follows check) (s : σ) : Prog.outcome exec (run.consumer check) s = (.ok (h.consumerId run), s) := by
  simp [Run.consumer, ScopedAux.tryFrom_of_ok (valid_start run h), Testing.expect, Follows.consumerId]

@[simp] theorem outcome_message {σ : Type} {exec : (op : StoreOp) → σ → StoreReply ε op × σ} {id : String}
    (h : checkId 512 id = .ok ()) (s : σ) : Prog.outcome exec (message id) s = (.ok ⟨id, h⟩, s) := by
  simp [message, ScopedAux.tryFrom_of_ok h, Testing.expect]

/-! ## Panics -/

section Panics

variable {σ : Type} {exec : (op : StoreOp) → σ → StoreReply ε op × σ}

@[simp] theorem outcome_expect_ok {α E : Type} (m : String) (a : α) (s : σ) :
    Prog.outcome exec (Testing.expect m (.ok a : Except E α) : StoreProg ε α) s = (.ok a, s) := rfl

@[simp] theorem outcome_assert_true (m : String) (s : σ) :
    Prog.outcome exec (Testing.assert true m : StoreProg ε Unit) s = (.ok (), s) := rfl

@[simp] theorem outcome_assert_false (m : String) (s : σ) :
    Prog.outcome exec (Testing.assert false m : StoreProg ε Unit) s = (.error m, s) := rfl

end Panics

@[simp] theorem duplicate_beq_fresh : (Claim.duplicate == Claim.fresh) = false := rfl

/-! ## The steps of the checks -/

/-- The store between two transactions. -/
def between (rows : Finset (String × String)) : FakeStore := ⟨rows, ∅, none⟩

/-- The answer to a claim of a key. -/
def answer (rows : Finset (String × String)) (key : String × String) : Claim := if key ∈ rows then .duplicate else .fresh

section Steps

variable (fold : String → String) (leak : Bool) (consumer : ConsumerId) (id : MessageId) (rows : Finset (String × String))

@[simp] theorem outcome_claimAndCommit :
    Prog.outcome (FakeStore.exec (ε := ε) fold leak) (claimAndCommit consumer id) (between rows) =
      (.ok (answer rows (consumer.asStr, fold id.asStr)), between (insert (consumer.asStr, fold id.asStr) rows)) := by
  by_cases h : (consumer.asStr, fold id.asStr) ∈ rows
  · simp [claimAndCommit, FakeStore.exec, FakeStore.claim, FakeStore.key, ClaimRequest.new, h, between, answer]
  · simp [claimAndCommit, FakeStore.exec, FakeStore.claim, FakeStore.key, ClaimRequest.new, h, between, answer]

@[simp] theorem outcome_isCommitted :
    Prog.outcome (FakeStore.exec (ε := ε) fold leak) (isCommitted consumer id) (between rows) =
      (.ok (decide ((consumer.asStr, fold id.asStr) ∈ rows)), between rows) := by
  by_cases h : (consumer.asStr, fold id.asStr) ∈ rows
  · simp [isCommitted, FakeStore.exec, FakeStore.claim, FakeStore.key, ClaimRequest.new, h, between]
  · simp [isCommitted, FakeStore.exec, FakeStore.claim, FakeStore.key, ClaimRequest.new, h, between]

/-- `process` with a handler that succeeds. -/
@[simp] theorem outcome_process :
    Prog.outcome (FakeStore.exec (ε := ε) fold leak) (routine (fun _ => return .ok ()) ((consumerOf consumer).process id))
        (between rows) =
      (.ok (.ok (if (consumer.asStr, fold id.asStr) ∈ rows then .duplicate else .processed ())),
        between (insert (consumer.asStr, fold id.asStr) rows)) := by
  by_cases h : (consumer.asStr, fold id.asStr) ∈ rows
  · simp [routine, Consumer.process, Consumer.processInTx_eq, Prog.interp, onConn, Testing.finish, FakeStore.exec, FakeStore.claim,
      FakeStore.key, ClaimRequest.new, consumerOf, h, between, Except.map]
  · simp [routine, Consumer.process, Consumer.processInTx_eq, Prog.interp, onConn, Testing.finish, FakeStore.exec, FakeStore.claim,
      FakeStore.key, ClaimRequest.new, consumerOf, h, between, Except.map]

end Steps

/-! ## The checks -/

/-- No row of a run's check. -/
def NoRow (run : Run) (check : String) (rows : Finset (String × String)) : Prop := ∀ row ∈ rows, row.1 ≠ run.start ++ check

/-- No row of a run at all. -/
def Unused (run : Run) (rows : Finset (String × String)) : Prop := ∀ row ∈ rows, ¬run.start.toList <+: row.1.toList

theorem Unused.noRow {run : Run} {rows : Finset (String × String)} (h : Unused run rows) (check : String) :
    NoRow run check rows := by
  intro row hrow heq
  refine h row hrow ?_
  rw [heq, String.toList_append]
  exact List.prefix_append _ _

/-- A row of another check. -/
theorem NoRow.insert {run : Run} {check : String} {rows : Finset (String × String)} (h : NoRow run check rows) (other : String)
    (hne : other.toList.head? ≠ check.toList.head? ∨ other ≠ check) (x : String) :
    NoRow run check (insert (run.start ++ other, x) rows) := by
  intro row hrow heq
  rcases Finset.mem_insert.1 hrow with rfl | hrow
  · have hlist : run.start.toList ++ other.toList = run.start.toList ++ check.toList := by
      rw [← String.toList_append, ← String.toList_append]
      exact congrArg String.toList heq
    have hother : other = check := String.toList_injective (List.append_cancel_left hlist)
    rcases hne with hne | hne
    · exact hne (by rw [hother])
    · exact hne hother
  · exact h row hrow heq

theorem NoRow.not_mem {run : Run} {check : String} {rows : Finset (String × String)} (h : NoRow run check rows) (x : String) :
    (run.start ++ check, x) ∉ rows := fun hmem => h _ hmem rfl

section Checks

variable (fold : String → String) (leak : Bool) (run : Run) {rows : Finset (String × String)}

theorem follows_fresh : Follows "fresh" := ⟨⟨'h', by decide, by decide⟩, by decide⟩

/-- A new message and a redelivery. -/
theorem outcome_freshThenDuplicate (h : NoRow run "fresh" rows) :
    Prog.outcome (FakeStore.exec (ε := ε) fold leak) (freshThenDuplicate run) (between rows) =
      (.ok (), between (insert (run.start ++ "fresh", fold "m") rows)) := by
  simp [freshThenDuplicate, outcome_consumer run follows_fresh, outcome_message (by decide : checkId 512 "m" = .ok ()),
    h.not_mem]

theorem follows_handlerFailure : Follows "handler-failure" := ⟨⟨'e', by decide, by decide⟩, by decide⟩

theorem follows_handlerFailureEffect : Follows "handler-failure-effect" := ⟨⟨'t', by decide, by decide⟩, by decide⟩

/-- A handler that fails. -/
theorem outcome_handlerFailureRollsBack (boxed : InboxError ε → HandlerError ε) (h : NoRow run "handler-failure" rows)
    (heffect : NoRow run "handler-failure-effect" rows) :
    Prog.outcome (FakeStore.exec (ε := ε) fold leak) (handlerFailureRollsBack boxed run) (between rows) = (.ok (), between rows) := by
  have hne : run.start ++ "handler-failure-effect" ≠ run.start ++ "handler-failure" := by
    intro heq
    have hlist := congrArg String.toList heq
    rw [String.toList_append, String.toList_append] at hlist
    exact absurd (List.append_cancel_left hlist) (by decide)
  have hprocess : Prog.outcome (FakeStore.exec (ε := ε) fold leak)
      (routine (failAfterClaim boxed (follows_handlerFailureEffect.consumerId run) ⟨"m", by decide⟩)
        ((consumerOf (follows_handlerFailure.consumerId run)).process ⟨"m", by decide⟩)) (between rows) =
      (.ok (.error (.handler (.text "deliberate handler failure"))), between rows) := by
    simp [routine, Consumer.process, Consumer.processInTx_eq, Prog.interp, onConn, Testing.finish, failAfterClaim, FakeStore.exec,
      FakeStore.claim, FakeStore.key, ClaimRequest.new, consumerOf, between, h.not_mem, heffect.not_mem, hne]
  simp [handlerFailureRollsBack, outcome_consumer run follows_handlerFailure, outcome_consumer run follows_handlerFailureEffect,
    outcome_message (by decide : checkId 512 "m" = .ok ()), hprocess, isHandlerError, h.not_mem, heffect.not_mem]

theorem follows_rollback : Follows "rollback" := ⟨⟨'k', by decide, by decide⟩, by decide⟩

/-- A claim in a transaction of the suite's own. -/
theorem outcome_claimInTx (rows : Finset (String × String)) (consumer : ConsumerId) (id : MessageId) (left : Finset (String × String)) :
    Prog.outcome (FakeStore.exec (ε := ε) fold leak) (claimInTx consumer id) ⟨rows, left, none⟩ =
      (.ok (), ⟨rows, ∅, some (if (consumer.asStr, fold id.asStr) ∈ rows then left
        else insert (consumer.asStr, fold id.asStr) left)⟩) := by
  by_cases h : (consumer.asStr, fold id.asStr) ∈ rows
  · simp [claimInTx, Consumer.claim, Store.claim, onConn, FakeStore.exec, FakeStore.claim, FakeStore.key,
      ClaimRequest.new, consumerOf, h]
  · by_cases hl : (consumer.asStr, fold id.asStr) ∈ left
    · simp [claimInTx, Consumer.claim, Store.claim, onConn, FakeStore.exec, FakeStore.claim, FakeStore.key,
        ClaimRequest.new, consumerOf, h, hl]
    · simp [claimInTx, Consumer.claim, Store.claim, onConn, FakeStore.exec, FakeStore.claim, FakeStore.key,
        ClaimRequest.new, consumerOf, h, hl]

/-- A transaction that is rolled back. -/
theorem outcome_explicitRollbackDiscards (h : NoRow run "rollback" rows) :
    Prog.outcome (FakeStore.exec (ε := ε) fold leak) (explicitRollbackDiscards run) (between rows) = (.ok (), between rows) := by
  have hclaim := outcome_claimInTx (ε := ε) fold leak rows (follows_rollback.consumerId run) ⟨"m", by decide⟩ ∅
  have hafter : (⟨rows, ∅, none⟩ : FakeStore) = between rows := rfl
  rw [hafter] at hclaim
  simp [explicitRollbackDiscards, outcome_consumer run follows_rollback, outcome_message (by decide : checkId 512 "m" = .ok ()),
    hclaim, FakeStore.exec, hafter, h.not_mem]

theorem follows_dropped : Follows "dropped" := ⟨⟨'d', by decide, by decide⟩, by decide⟩

/-- A transaction that is dropped: its claim must not come back with the next one. -/
theorem outcome_droppedTransaction (h : NoRow run "dropped" rows) :
    Prog.outcome (FakeStore.exec (ε := ε) fold leak) (droppedTransactionDoesNotPersist run) (between rows) =
      if leak = true then (.error droppedMessage, between (insert (run.start ++ "dropped", fold "later")
        (insert (run.start ++ "dropped", fold "dropped") rows)))
      else if fold "dropped" = fold "later" then
        (.error droppedMessage, between (insert (run.start ++ "dropped", fold "later") rows))
      else (.ok (), between (insert (run.start ++ "dropped", fold "later") rows)) := by
  have hfirst := outcome_claimInTx (ε := ε) fold leak rows (follows_dropped.consumerId run) ⟨"dropped", by decide⟩ ∅
  have hnext := outcome_claimInTx (ε := ε) fold leak rows (follows_dropped.consumerId run) ⟨"later", by decide⟩
  have hbetween : ∀ rows, (⟨rows, ∅, none⟩ : FakeStore) = between rows := fun _ => rfl
  rw [hbetween] at hfirst
  cases leak with
  | true =>
    simp only [droppedTransactionDoesNotPersist, Prog.outcome_do, outcome_consumer run follows_dropped,
      outcome_message (by decide : checkId 512 "dropped" = .ok ()), outcome_message (by decide : checkId 512 "later" = .ok ()),
      Prog.andThen_ok, hfirst, Prog.outcome_perform, FakeStore.exec, hnext]
    simp [h.not_mem, hbetween]
  | false =>
    simp only [droppedTransactionDoesNotPersist, Prog.outcome_do, outcome_consumer run follows_dropped,
      outcome_message (by decide : checkId 512 "dropped" = .ok ()), outcome_message (by decide : checkId 512 "later" = .ok ()),
      Prog.andThen_ok, hfirst, Prog.outcome_perform, FakeStore.exec, hnext]
    by_cases hfold : fold "dropped" = fold "later"
    · simp [h.not_mem, hbetween, hfold]
    · simp [h.not_mem, hbetween, hfold]

/-! ### Ids of the greatest length -/

theorem toList_repeated (c : Char) (n : Nat) : (repeated c n).toList = List.replicate n c := by
  simp [repeated]

theorem head_repeated (c : Char) {n : Nat} (h : 0 < n) : (repeated c n).toList.head? = some c := by
  rw [toList_repeated, List.head?_replicate, if_neg (by omega)]

theorem size_repeated (c : Char) (n : Nat) : (repeated c n).utf8ByteSize = n * c.utf8Size := by
  rw [repeated, String.utf8ByteSize_ofList]
  induction n with
  | zero => simp
  | succ n ih =>
    rw [List.replicate_succ, String.utf8Len_cons, ih, Nat.succ_mul]

/-- A string that begins and ends with a character that is no whitespace is a valid id, if it fits. -/
theorem valid_of_ends {maxLen : Nat} {s : String} {c d : Char} (hhead : s.toList.head? = some c)
    (hlast : s.toList.getLast? = some d) (hc : isWhitespace c = false) (hd : isWhitespace d = false)
    (hsize : s.utf8ByteSize ≤ maxLen) : checkId maxLen s = .ok () := by
  have hne : s ≠ "" := by
    rintro rfl
    simp at hhead
  have htrimmed : TrimmedEnds s := by
    constructor
    · intro e he
      rw [hhead] at he
      cases he
      exact hc
    · intro e he
      rw [hlast] at he
      cases he
      exact hd
  rw [ScopedAux.checkId_of_trimmed hne htrimmed, if_neg (by omega)]

/-- So is a repeated character. -/
theorem valid_repeated {maxLen n : Nat} {c : Char} (hn : 0 < n) (hc : isWhitespace c = false) (hsize : n * c.utf8Size ≤ maxLen) :
    checkId maxLen (repeated c n) = .ok () := by
  refine valid_of_ends (c := c) (d := c) ?_ ?_ hc hc (by rw [size_repeated]; exact hsize)
  · exact head_repeated c hn
  · rw [toList_repeated, List.getLast?_replicate, if_neg (by omega)]

/-- The two consumers of the check. -/
theorem follows_ascii : Follows (repeated 'x' 226) := by
  refine ⟨⟨'x', ?_, by decide⟩, ?_⟩
  · rw [toList_repeated, List.getLast?_replicate, if_neg (by omega)]
  · rw [size_repeated]
    decide

theorem head_wide : (repeated wideChar 56 ++ repeated 'y' 2).toList.head? = some wideChar := by
  rw [String.toList_append, List.head?_append, head_repeated wideChar (by omega)]
  rfl

theorem follows_wide : Follows (repeated wideChar 56 ++ repeated 'y' 2) := by
  refine ⟨⟨'y', ?_, by decide⟩, ?_⟩
  · rw [String.toList_append, toList_repeated, toList_repeated, List.getLast?_append, List.getLast?_replicate, if_neg (by omega)]
    rfl
  · rw [String.utf8ByteSize_append, size_repeated, size_repeated]
    decide

/-- One pair. -/
theorem outcome_acceptsAndDeduplicates (consumer : ConsumerId) (id : MessageId) (h : (consumer.asStr, fold id.asStr) ∉ rows) :
    Prog.outcome (FakeStore.exec (ε := ε) fold leak) (acceptsAndDeduplicates consumer id) (between rows) =
      (.ok (), between (insert (consumer.asStr, fold id.asStr) rows)) := by
  simp [acceptsAndDeduplicates, answer, h]

/-- Two pairs, whatever their texts. -/
theorem outcome_twoPairs (c c' : ConsumerId) {x y : String} (hx : checkId 512 x = .ok ()) (hy : checkId 512 y = .ok ())
    (h : (c.asStr, fold x) ∉ rows) (h' : (c'.asStr, fold y) ∉ insert (c.asStr, fold x) rows) (m m' : String) :
    Prog.outcome (FakeStore.exec (ε := ε) fold leak) (do
        let c ← Testing.expect m (.ok c : Except InvalidId ConsumerId)
        let c' ← Testing.expect m' (.ok c' : Except InvalidId ConsumerId)
        let id ← message x
        let id' ← message y
        acceptsAndDeduplicates c id
        acceptsAndDeduplicates c' id') (between rows) =
      (.ok (), between (insert (c'.asStr, fold y) (insert (c.asStr, fold x) rows))) := by
  have hfirst := outcome_acceptsAndDeduplicates (ε := ε) fold leak c ⟨x, hx⟩ h
  have hsecond := outcome_acceptsAndDeduplicates (ε := ε) fold leak c' ⟨y, hy⟩ h'
  simp [Testing.expect, outcome_message hx, outcome_message hy, hfirst, hsecond]

/-- Ids of the greatest length are accepted, of characters of one byte and of four. -/
theorem outcome_maxLengthIdsAreAccepted (hascii : NoRow run (repeated 'x' 226) rows)
    (hwide : NoRow run (repeated wideChar 56 ++ repeated 'y' 2) rows) :
    Prog.outcome (FakeStore.exec (ε := ε) fold leak) (maxLengthIdsAreAccepted run) (between rows) =
      (.ok (), between (insert (run.start ++ (repeated wideChar 56 ++ repeated 'y' 2), fold (repeated wideChar 128))
        (insert (run.start ++ repeated 'x' 226, fold (repeated 'm' 512)) rows))) := by
  have hroom : 255 - run.start.utf8ByteSize = 226 := by rw [(start_length run).2]
  have hdiv : 226 / 4 = 56 ∧ 226 % 4 = 2 ∧ 512 / 4 = 128 := by decide
  have hid : checkId 512 (repeated 'm' 512) = .ok () := valid_repeated (by decide) (by decide) (by decide)
  have hwideId : checkId 512 (repeated wideChar 128) = .ok () := valid_repeated (by decide) (by decide) (by decide)
  have hheads : (repeated 'x' 226).toList.head? ≠ (repeated wideChar 56 ++ repeated 'y' 2).toList.head? := by
    rw [head_repeated 'x' (by omega), head_wide]
    decide
  have hwide' := hwide.insert (repeated 'x' 226) (Or.inl hheads) (fold (repeated 'm' 512))
  have hasciiConsumer : StringNewtype.tryFrom (run.start ++ repeated 'x' 226) = .ok (follows_ascii.consumerId run) :=
    ScopedAux.tryFrom_of_ok (valid_start run follows_ascii)
  have hwideConsumer : StringNewtype.tryFrom (run.start ++ repeated wideChar 56 ++ repeated 'y' 2) =
      .ok (follows_wide.consumerId run) := by
    rw [String.append_assoc]
    exact ScopedAux.tryFrom_of_ok (valid_start run follows_wide)
  unfold maxLengthIdsAreAccepted
  rw [hroom]
  dsimp only
  rw [hdiv.1, hdiv.2.1, hdiv.2.2, hasciiConsumer, hwideConsumer]
  exact outcome_twoPairs fold leak _ _ hid hwideId (hascii.not_mem _) (hwide'.not_mem _) _ _

/-! ### Ids that differ -/

theorem follows_bytes : Follows "bytes" := ⟨⟨'s', by decide, by decide⟩, by decide⟩

theorem valid_distinctIds : ∀ id ∈ distinctIds, checkId 512 id = .ok () := by
  have hhead : ∀ s : String, (repeated 'm' 511 ++ s).toList.head? = some 'm' := by
    intro s
    rw [String.toList_append, List.head?_append, head_repeated 'm' (by omega)]
    rfl
  have hlast : ∀ (s : String) (c : Char), s.toList = [c] → (repeated 'm' 511 ++ s).toList.getLast? = some c := by
    intro s c hs
    simp [hs]
  have hsize : ∀ s : String, s.utf8ByteSize = 1 → (repeated 'm' 511 ++ s).utf8ByteSize ≤ 512 := by
    intro s hs
    have hm : 'm'.utf8Size = 1 := by decide
    rw [String.utf8ByteSize_append, size_repeated, hs, hm]
  intro id hid
  simp only [distinctIds, List.mem_cons, List.not_mem_nil, or_false] at hid
  rcases hid with rfl | rfl | rfl | rfl | rfl | rfl
  · exact valid_of_ends (hhead "a") (hlast "a" 'a' (by decide)) (by decide) (by decide) (hsize "a" (by decide))
  · exact valid_of_ends (hhead "b") (hlast "b" 'b' (by decide)) (by decide) (by decide) (hsize "b" (by decide))
  all_goals decide

/-- The first id that a fold takes for an earlier one. -/
def firstCollision (fold : String → String) : (seen : List String) → List String → Option String
  | _, [] => none
  | seen, id :: ids => if fold id ∈ seen then some id else firstCollision fold (fold id :: seen) ids

/-- The rows of a consumer for some ids. -/
def rowsOf (fold : String → String) (consumer : String) (ids : List String) : Finset (String × String) :=
  (ids.map fun id => (consumer, fold id)).toFinset

/-- The loop stops at the first collision, or adds all rows. -/
theorem outcome_eachIsFresh (consumer : ConsumerId) {ids : List String} (hvalid : ∀ id ∈ ids, checkId 512 id = .ok ())
    {seen : List String} (hseen : ∀ x, (consumer.asStr, x) ∈ rows ↔ x ∈ seen) :
    match firstCollision fold seen ids with
    | none => Prog.outcome (FakeStore.exec (ε := ε) fold leak) (eachIsFresh consumer ids) (between rows) =
        (.ok (), between (rowsOf fold consumer.asStr ids ∪ rows))
    | some id => (Prog.outcome (FakeStore.exec (ε := ε) fold leak) (eachIsFresh consumer ids) (between rows)).1 =
        .error (collisionMessage id) := by
  induction ids generalizing rows seen with
  | nil => simp [firstCollision, eachIsFresh, rowsOf]
  | cons id ids ih =>
    have hid : checkId 512 id = .ok () := hvalid id List.mem_cons_self
    by_cases hmem : fold id ∈ seen
    · have hrow := (hseen (fold id)).2 hmem
      simp [firstCollision, hmem, eachIsFresh, outcome_message hid, answer, hrow]
    · have hrow : (consumer.asStr, fold id) ∉ rows := fun h => hmem ((hseen _).1 h)
      have hseen' : ∀ x, (consumer.asStr, x) ∈ insert (consumer.asStr, fold id) rows ↔ x ∈ fold id :: seen := by
        intro x
        simp [hseen]
      have hnext := ih (fun id hid => hvalid id (List.mem_cons_of_mem _ hid)) hseen'
      have hunion : rowsOf fold consumer.asStr (id :: ids) ∪ rows =
          rowsOf fold consumer.asStr ids ∪ insert (consumer.asStr, fold id) rows := by
        simp [rowsOf]
      rw [firstCollision, if_neg hmem, hunion]
      cases hfirst : firstCollision fold (fold id :: seen) ids with
      | none =>
        rw [hfirst] at hnext
        simp [eachIsFresh, outcome_message hid, answer, hrow, hnext]
      | some other =>
        rw [hfirst] at hnext
        simp [eachIsFresh, outcome_message hid, answer, hrow, hnext]

/-! ### Batches -/

theorem follows_claimMany : Follows "claim-many" := ⟨⟨'y', by decide, by decide⟩, by decide⟩

theorem valid_a : checkId 512 "a" = .ok () := by decide

theorem valid_b : checkId 512 "b" = .ok () := by decide

theorem valid_c : checkId 512 "c" = .ok () := by decide

/-- The three ids of the check. -/
def idA : MessageId := ⟨"a", valid_a⟩

def idB : MessageId := ⟨"b", valid_b⟩

def idC : MessageId := ⟨"c", valid_c⟩

@[simp] theorem asStr_abc : idA.asStr = "a" ∧ idB.asStr = "b" ∧ idC.asStr = "c" := ⟨rfl, rfl, rfl⟩

theorem spread_abc (x y z : Claim) : (Consumer.spreadClaims [idA, idB, idC] [idC, idB, idA, idC] [x, y, z] : ConnProg ε Unit _) =
    .ret (.ok [z, y, x, .duplicate]) := by
  rfl

theorem batch_abc (consumer : ConsumerId) :
    (consumerOf consumer).batch [idC, idB, idA, idC] = ⟨consumer, [idA, idB, idC], none⟩ := by
  rfl

/-- The claims of the batch, once the second id is recorded. -/
theorem claimMany_abc (consumer : ConsumerId) (h : ∀ x, (consumer.asStr, x) ∈ rows ↔ x = fold "b") :
    ∃ pending : Finset (String × String), (∀ row ∈ pending, row.1 = consumer.asStr) ∧
      (fold "a" ≠ fold "b" → fold "c" ≠ fold "b" → fold "c" ≠ fold "a" →
        (consumer.asStr, fold "a") ∈ pending ∧ (consumer.asStr, fold "c") ∈ pending) ∧
      FakeStore.claimMany (ε := ε) fold consumer none [idA, idB, idC] ⟨rows, ∅, some ∅⟩ =
        (.ok [if fold "a" = fold "b" then .duplicate else .fresh, .duplicate,
          if fold "c" = fold "b" ∨ fold "c" = fold "a" then .duplicate else .fresh], ⟨rows, ∅, some pending⟩) := by
  by_cases hab : fold "a" = fold "b"
  · by_cases hcb : fold "c" = fold "b"
    · refine ⟨∅, by simp, fun hne => absurd hab hne, ?_⟩
      simp [FakeStore.claimMany, FakeStore.claim, FakeStore.key, ClaimRequest.new, idA, idB, idC, h, hab, hcb, Except.map]
    · refine ⟨{(consumer.asStr, fold "c")}, by simp, fun hne => absurd hab hne, ?_⟩
      simp [FakeStore.claimMany, FakeStore.claim, FakeStore.key, ClaimRequest.new, idA, idB, idC, h, hab, hcb, Except.map]
  · by_cases hcb : fold "c" = fold "b"
    · refine ⟨{(consumer.asStr, fold "a")}, by simp, fun _ hne => absurd hcb hne, ?_⟩
      simp [FakeStore.claimMany, FakeStore.claim, FakeStore.key, ClaimRequest.new, idA, idB, idC, h, hab, hcb, Except.map]
    · by_cases hca : fold "c" = fold "a"
      · refine ⟨{(consumer.asStr, fold "a")}, by simp, fun _ _ hne => absurd hca hne, ?_⟩
        simp [FakeStore.claimMany, FakeStore.claim, FakeStore.key, ClaimRequest.new, idA, idB, idC, h, hab, hca, Except.map]
      · refine ⟨{(consumer.asStr, fold "c"), (consumer.asStr, fold "a")}, by simp, fun _ _ _ => by simp, ?_⟩
        simp [FakeStore.claimMany, FakeStore.claim, FakeStore.key, ClaimRequest.new, idA, idB, idC, h, hab, hcb, hca, Except.map]

/-- `Consumer::claim_many` sends the ids in order, each once, and puts the answers back in place. -/
theorem outcome_batch_abc (consumer : ConsumerId) {fold : String → String} {x y z : Claim} {s s' : FakeStore}
    (h : FakeStore.claimMany (ε := ε) fold consumer none [idA, idB, idC] s = (.ok [x, y, z], s')) (leak : Bool) :
    Prog.outcome (FakeStore.exec (ε := ε) fold leak)
      (((consumerOf consumer).claimMany [idC, idB, idA, idC] : ConnProg ε Unit _).interp (onConn fun _ => .ret (.ok ()))) s =
        (.ok (.ok [z, y, x, .duplicate]), s') := by
  rw [Consumer.claimMany_eq _ (by simp), batch_abc]
  simp [Prog.interp, onConn, FakeStore.exec, h, spread_abc]

/-- A batch is answered like one claim per id, if the fold keeps its ids apart. -/
theorem outcome_claimManyMatchesSingleClaims (h : NoRow run "claim-many" rows) :
    ∃ rows', (∀ row ∈ rows', row ∈ rows ∨ run.start.toList <+: row.1.toList) ∧
      Prog.outcome (FakeStore.exec (ε := ε) fold leak) (claimManyMatchesSingleClaims run) (between rows) =
        (if fold "a" = fold "b" ∨ fold "c" = fold "b" ∨ fold "c" = fold "a" then .error claimManyMessage else .ok (),
          between rows') := by
  have hknown : ∀ x, ((follows_claimMany.consumerId run).asStr, x) ∈
      insert (run.start ++ "claim-many", fold "b") rows ↔ x = fold "b" := by
    intro x
    simp [h.not_mem]
  obtain ⟨pending, hpending, hboth, hclaims⟩ := claimMany_abc (ε := ε) fold (follows_claimMany.consumerId run) hknown
  refine ⟨insert (run.start ++ "claim-many", fold "b") rows ∪ pending, ?_, ?_⟩
  · intro row hrow
    have hstart : row.1 = run.start ++ "claim-many" → run.start.toList <+: row.1.toList := by
      intro heq
      rw [heq, String.toList_append]
      exact List.prefix_append _ _
    rcases Finset.mem_union.1 hrow with hrow | hrow
    · rcases Finset.mem_insert.1 hrow with rfl | hrow
      · exact Or.inr (hstart rfl)
      · exact Or.inl hrow
    · exact Or.inr (hstart (hpending row hrow))
  · have hA : ∀ s, Prog.outcome (FakeStore.exec (ε := ε) fold leak) (message "a") s = (.ok idA, s) := outcome_message idA.valid
    have hB : ∀ s, Prog.outcome (FakeStore.exec (ε := ε) fold leak) (message "b") s = (.ok idB, s) := outcome_message idB.valid
    have hC : ∀ s, Prog.outcome (FakeStore.exec (ε := ε) fold leak) (message "c") s = (.ok idC, s) := outcome_message idC.valid
    have hbatch := outcome_batch_abc (follows_claimMany.consumerId run) hclaims leak
    have hbegin : ∀ rows, FakeStore.exec (ε := ε) fold leak .begin (between rows) = (.ok (), ⟨rows, ∅, some ∅⟩) := fun _ => rfl
    have hcommit : ∀ rows pending, FakeStore.exec (ε := ε) fold leak .commit ⟨rows, ∅, some pending⟩ =
        (.ok (), between (rows ∪ pending)) := fun _ _ => rfl
    have hanswer : answer rows (run.start ++ "claim-many", fold "b") = .fresh := if_neg (h.not_mem _)
    have hfresh : (Claim.fresh == Claim.fresh) = true := rfl
    simp only [claimManyMatchesSingleClaims, Prog.outcome_do, outcome_consumer run follows_claimMany, hA, hB, hC, Prog.andThen_ok,
      outcome_claimAndCommit, asStr_consumerId, asStr_abc, hanswer, hfresh, outcome_assert_true, Prog.outcome_perform, hbegin,
      outcome_expect_ok, hbatch, hcommit]
    by_cases hab : fold "a" = fold "b"
    · simp [hab]
    · by_cases hcb : fold "c" = fold "b"
      · simp [hab, hcb]
      · by_cases hca : fold "c" = fold "a"
        · simp [hab, hca]
        · obtain ⟨ha, hc⟩ := hboth hab hcb hca
          rw [asStr_consumerId] at ha hc
          simp [hab, hcb, hca, ha, hc]

end Checks

end ConformanceAux

open ConformanceAux

/-- What the last checks say of a store that folds its ids: nothing, or the panic of the first that fails. -/
def foldVerdict (fold : String → String) : Except String Unit :=
  match firstCollision fold [] distinctIds with
  | some id => .error (collisionMessage id)
  | none => if fold "a" = fold "b" ∨ fold "c" = fold "b" ∨ fold "c" = fold "a" then .error claimManyMessage else .ok ()

/-- What the suite says of a store that folds its ids and may leak. -/
def verdict (fold : String → String) (leak : Bool) : Except String Unit :=
  if leak = true ∨ fold "dropped" = fold "later" then .error droppedMessage else foldVerdict fold

namespace ConformanceAux

variable {ε : Type}

/-- A fold has no collision when it keeps the ids apart, from each other and from those seen. -/
theorem firstCollision_eq_none_iff (fold : String → String) (seen ids : List String) :
    firstCollision fold seen ids = none ↔ (ids.map fold).Nodup ∧ ∀ id ∈ ids, fold id ∉ seen := by
  induction ids generalizing seen with
  | nil => simp [firstCollision]
  | cons id ids ih =>
    rw [firstCollision]
    by_cases hmem : fold id ∈ seen
    · simp [hmem]
    · rw [if_neg hmem, ih]
      simp only [List.map_cons, List.nodup_cons, List.mem_map, List.mem_cons, not_or, forall_eq_or_imp]
      constructor
      · rintro ⟨hnodup, hall⟩
        refine ⟨⟨?_, hnodup⟩, hmem, fun other hother => (hall other hother).2⟩
        rintro ⟨other, hother, heq⟩
        exact (hall other hother).1 heq
      · rintro ⟨⟨hnot, hnodup⟩, _, hall⟩
        refine ⟨hnodup, fun other hother => ⟨?_, hall other hother⟩⟩
        intro heq
        exact hnot ⟨other, hother, heq⟩

theorem verdict_eq_ok_iff (fold : String → String) (leak : Bool) : verdict fold leak = .ok () ↔
    leak = false ∧ fold "dropped" ≠ fold "later" ∧ (distinctIds.map fold).Nodup ∧ (["a", "b", "c"].map fold).Nodup := by
  have hcollision := firstCollision_eq_none_iff fold [] distinctIds
  have habc : (["a", "b", "c"].map fold).Nodup ↔ ¬(fold "a" = fold "b" ∨ fold "c" = fold "b" ∨ fold "c" = fold "a") := by
    simp [eq_comm]
    tauto
  unfold verdict
  by_cases hleak : leak = true ∨ fold "dropped" = fold "later"
  · rw [if_pos hleak]
    rcases hleak with rfl | heq
    · simp
    · simp [heq]
  · rw [if_neg hleak, foldVerdict]
    simp only [not_or, Bool.not_eq_true] at hleak
    cases hfirst : firstCollision fold [] distinctIds with
    | some id =>
      have hnot : ¬(distinctIds.map fold).Nodup := fun hnodup => by simp [hcollision.2 ⟨hnodup, by simp⟩] at hfirst
      simp [hnot]
    | none =>
      have hnodup := (hcollision.1 hfirst).1
      by_cases hthree : fold "a" = fold "b" ∨ fold "c" = fold "b" ∨ fold "c" = fold "a"
      · simp only [if_pos hthree, habc]
        simp [hthree]
      · exact ⟨fun _ => ⟨hleak.1, hleak.2, hnodup, habc.2 hthree⟩, fun _ => if_neg hthree⟩

/-- The rows a run adds are its own. -/
def Adds (run : Run) (rows rows' : Finset (String × String)) : Prop :=
  ∀ row ∈ rows', row ∈ rows ∨ run.start.toList <+: row.1.toList

theorem Adds.trans {run : Run} {rows rows' rows'' : Finset (String × String)} (h : Adds run rows rows') (h' : Adds run rows' rows'') :
    Adds run rows rows'' := by
  intro row hrow
  rcases h' row hrow with hrow | hstart
  · exact h row hrow
  · exact Or.inr hstart

theorem Adds.insert (run : Run) (rows : Finset (String × String)) (check x : String) :
    Adds run rows (insert (run.start ++ check, x) rows) := by
  intro row hrow
  rcases Finset.mem_insert.1 hrow with rfl | hrow
  · refine Or.inr ?_
    rw [String.toList_append]
    exact List.prefix_append _ _
  · exact Or.inl hrow

/-- The rows of a run so far are of checks whose names begin with one of some characters. -/
def OnlyHeads (run : Run) (heads : List Char) (rows : Finset (String × String)) : Prop :=
  ∀ check : String, (∀ c ∈ heads, check.toList.head? ≠ some c) → NoRow run check rows

/-- The rows of a check whose name begins in none of these ways. -/
theorem OnlyHeads.noRow {run : Run} {heads : List Char} {rows : Finset (String × String)} (h : OnlyHeads run heads rows)
    (check : String) {c : Char} (hhead : check.toList.head? = some c) (hc : c ∉ heads) : NoRow run check rows := by
  refine h check fun d hd heq => hc ?_
  rw [hhead, Option.some.injEq] at heq
  exact heq ▸ hd

theorem Unused.onlyHeads {run : Run} {rows : Finset (String × String)} (h : Unused run rows) : OnlyHeads run [] rows :=
  fun check _ => h.noRow check

theorem OnlyHeads.insert {run : Run} {heads : List Char} {rows : Finset (String × String)} (h : OnlyHeads run heads rows)
    (check : String) {c : Char} (hc : check.toList.head? = some c) (x : String) :
    OnlyHeads run (c :: heads) (insert (run.start ++ check, x) rows) := by
  intro other hother
  refine (h other fun d hd => hother d (List.mem_cons_of_mem _ hd)).insert check (Or.inl ?_) x
  rw [hc]
  exact (hother c List.mem_cons_self).symm

/-- The rows of a list of ids. -/
theorem OnlyHeads.rowsOf {run : Run} {heads : List Char} {rows : Finset (String × String)} (h : OnlyHeads run heads rows)
    (check : String) {c : Char} (hc : check.toList.head? = some c) (fold : String → String) (ids : List String) :
    OnlyHeads run (c :: heads) (rowsOf fold (run.start ++ check) ids ∪ rows) := by
  intro other hother row hrow heq
  rcases Finset.mem_union.1 hrow with hrow | hrow
  · obtain ⟨id, _, rfl⟩ := List.mem_map.1 (List.mem_toFinset.1 hrow)
    have hempty : NoRow run other ∅ := fun row hrow => absurd hrow (Finset.notMem_empty row)
    have hhead : check.toList.head? ≠ other.toList.head? := by
      rw [hc]
      exact (hother c List.mem_cons_self).symm
    exact hempty.insert check (Or.inl hhead) (fold id) _ (Finset.mem_insert_self _ _) heq
  · exact h other (fun d hd => hother d (List.mem_cons_of_mem _ hd)) row hrow heq

theorem Adds.rowsOf (run : Run) (rows : Finset (String × String)) (check : String) (fold : String → String) (ids : List String) :
    Adds run rows (rowsOf fold (run.start ++ check) ids ∪ rows) := by
  intro row hrow
  rcases Finset.mem_union.1 hrow with hrow | hrow
  · obtain ⟨id, _, rfl⟩ := List.mem_map.1 (List.mem_toFinset.1 hrow)
    refine Or.inr ?_
    rw [String.toList_append]
    exact List.prefix_append _ _
  · exact Or.inl hrow

/-- The last two checks. -/
theorem outcome_lastChecks (fold : String → String) (leak : Bool) {run : Run} {heads : List Char} {rows : Finset (String × String)}
    (h : OnlyHeads run heads rows) (hb : 'b' ∉ heads) (hc : 'c' ∉ heads) :
    ∃ r s, Prog.outcome (FakeStore.exec (ε := ε) fold leak)
        (do idsCompareByteForByte run; claimManyMatchesSingleClaims run) (between rows) = (r, s) ∧ r = foldVerdict fold ∧
      (r = .ok () → ∃ rows', Adds run rows rows' ∧ s = between rows') := by
  have hbytes : NoRow run "bytes" rows := h.noRow (c := 'b') "bytes" rfl hb
  have hcheck : Prog.outcome (FakeStore.exec (ε := ε) fold leak) (idsCompareByteForByte run) (between rows) =
      Prog.outcome (FakeStore.exec (ε := ε) fold leak) (eachIsFresh (follows_bytes.consumerId run) distinctIds) (between rows) := by
    rw [idsCompareByteForByte, Prog.outcome_do, outcome_consumer run follows_bytes, Prog.andThen_ok]
  rw [Prog.outcome_do, hcheck, foldVerdict]
  have hloop := outcome_eachIsFresh (ε := ε) fold leak (follows_bytes.consumerId run) valid_distinctIds
    (fun x => ⟨fun hrow => absurd hrow (hbytes.not_mem x), fun hnil => absurd hnil List.not_mem_nil⟩)
  cases hfirst : firstCollision fold [] distinctIds with
  | some id =>
    rw [hfirst] at hloop
    generalize Prog.outcome (FakeStore.exec (ε := ε) fold leak) (eachIsFresh (follows_bytes.consumerId run) distinctIds)
      (between rows) = out at hloop
    obtain ⟨r, s⟩ := out
    dsimp only at hloop
    subst hloop
    exact ⟨_, _, rfl, rfl, fun hok => by cases hok⟩
  | none =>
    rw [hfirst] at hloop
    have hmany := (h.rowsOf (c := 'b') "bytes" rfl fold distinctIds).noRow (c := 'c') "claim-many" rfl (by simp [hc])
    obtain ⟨rows', hadds, hout⟩ := outcome_claimManyMatchesSingleClaims (ε := ε) fold leak run hmany
    rw [hloop, Prog.andThen_ok]
    exact ⟨_, _, hout, rfl, fun _ => ⟨rows', (Adds.rowsOf run rows "bytes" fold distinctIds).trans hadds, rfl⟩⟩

/-- The suite on a database in which its start is not used. -/
theorem outcome_conformance (fold : String → String) (leak : Bool) (boxed : InboxError ε → HandlerError ε) {run : Run}
    {rows : Finset (String × String)} (h : Unused run rows) :
    ∃ r s, Prog.outcome (FakeStore.exec fold leak) (conformance boxed run) (between rows) = (r, s) ∧ r = verdict fold leak ∧
      (r = .ok () → ∃ rows', Adds run rows rows' ∧ s = between rows') := by
  have hfresh : OnlyHeads run ['f'] (insert (run.start ++ "fresh", fold "m") rows) :=
    h.onlyHeads.insert "fresh" rfl _
  have hfirst := outcome_freshThenDuplicate (ε := ε) fold leak run (h.noRow "fresh")
  have hsecond := outcome_handlerFailureRollsBack (ε := ε) fold leak run boxed (hfresh.noRow (c := 'h') "handler-failure" rfl (by decide))
    (hfresh.noRow (c := 'h') "handler-failure-effect" rfl (by decide))
  have hthird := outcome_explicitRollbackDiscards (ε := ε) fold leak run (hfresh.noRow (c := 'r') "rollback" rfl (by decide))
  have hfourth := outcome_droppedTransaction (ε := ε) fold leak run (hfresh.noRow (c := 'd') "dropped" rfl (by decide))
  unfold conformance
  rw [Prog.outcome_do, hfirst, Prog.andThen_ok, Prog.outcome_do, hsecond, Prog.andThen_ok, Prog.outcome_do, hthird, Prog.andThen_ok,
    Prog.outcome_do, hfourth, verdict]
  by_cases hleak : leak = true ∨ fold "dropped" = fold "later"
  · rw [if_pos hleak]
    rcases hleak with rfl | heq
    · rw [if_pos rfl, Prog.andThen_error]
      exact ⟨_, _, rfl, rfl, fun hok => by cases hok⟩
    · cases leak with
      | true =>
        rw [if_pos rfl, Prog.andThen_error]
        exact ⟨_, _, rfl, rfl, fun hok => by cases hok⟩
      | false =>
        rw [if_neg (by decide), if_pos heq, Prog.andThen_error]
        exact ⟨_, _, rfl, rfl, fun hok => by cases hok⟩
  · rw [if_neg hleak]
    simp only [not_or] at hleak
    rw [if_neg hleak.1, if_neg hleak.2, Prog.andThen_ok]
    have hdropped := hfresh.insert (c := 'd') "dropped" rfl (fold "later")
    have hx : (repeated 'x' 226).toList.head? = some 'x' := head_repeated 'x' (by omega)
    have hfifth := outcome_maxLengthIdsAreAccepted (ε := ε) fold leak run (hdropped.noRow _ hx (by decide))
      (hdropped.noRow _ head_wide (by decide))
    rw [Prog.outcome_do, hfifth, Prog.andThen_ok]
    have hheads := (hdropped.insert _ hx (fold (repeated 'm' 512))).insert _ head_wide (fold (repeated wideChar 128))
    obtain ⟨r, s, hout, hr, hrows⟩ := outcome_lastChecks (ε := ε) fold leak hheads (by decide) (by decide)
    refine ⟨r, s, hout, hr, fun hok => ?_⟩
    obtain ⟨rows', hadds, hs⟩ := hrows hok
    refine ⟨rows', ?_, hs⟩
    exact ((((Adds.insert run rows "fresh" (fold "m")).trans (Adds.insert run _ "dropped" (fold "later"))).trans
      (Adds.insert run _ _ _)).trans (Adds.insert run _ _ _)).trans hadds

end ConformanceAux

end Txbox
