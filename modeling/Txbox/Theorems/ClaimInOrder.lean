import Txbox.Lemmas.ClaimMany

/-!
# `Consumer::claim_many` is one claim after another

The ids are sorted, rid of repeats, answered by the backend in that order and answered to the caller from a map that is consumed as it
is read. Over any backend that keeps rows, and whose own `claim_many` answers a strictly sorted batch as one claim per id would, the
caller's answers and the rows left behind are those of `Consumer::claim` for each id in the caller's order, repeats included.
-/

namespace Txbox

open Lib

/-- `Consumer::claim` for each id in order, stopping at the first error. -/
def Consumer.claimInOrder {ε T : Type} (self : Consumer) : List MessageId → ConnProg ε T (Except (InboxError ε) (List Claim))
  | [] => return .ok []
  | id :: ids => do
    match ← self.claim id with
    | .error e => return .error e
    | .ok claim =>
      match ← self.claimInOrder ids with
      | .error e => return .error e
      | .ok claims => return .ok (claim :: claims)

section Spec

variable {ε T σ : Type} (exec : (c : Call) → σ → Reply ε T c × σ) (rows : σ → Set Key)

/-- Two programs run from one state return the same claims and leave the same rows. -/
def SameClaims (p q : ConnProg ε T (Except (InboxError ε) (List Claim))) (s : σ) : Prop :=
  ∃ claims s₁ s₂, Prog.run exec none p s = (.returned (.ok claims), s₁) ∧
    Prog.run exec none q s = (.returned (.ok claims), s₂) ∧ rows s₁ = rows s₂

/-- A claim inserts its row, and is fresh when the row was not there. -/
def ClaimsRow (request : ClaimRequest) (s : σ) : Prop :=
  ∃ claim s', exec (.claim request) s = (.ok claim, s') ∧
    (claim = .fresh ↔ (request.consumer, request.id) ∉ rows s) ∧ rows s' = insert (request.consumer, request.id) (rows s)

/-- A backend that keeps the rows of a table. -/
structure KeepsRows : Prop where
  claim : ∀ request s, ClaimsRow exec rows request s
  /-- A strictly sorted batch is answered as one claim per id would be. -/
  claimMany : ∀ batch s, batch.ids.Pairwise (· < ·) →
    SameClaims exec rows (Store.claimMany batch) (Consumer.claimInOrder ⟨batch.consumer, batch.lockTimeout⟩ batch.ids) s

end Spec

namespace ClaimInOrderAux

variable {ε T σ : Type} {exec : (c : Call) → σ → Reply ε T c × σ} {rows : σ → Set Key}

open Classical in
/-- The answer of a claim on a set of rows. -/
noncomputable def answerOf (consumer : ConsumerId) (R : Set Key) (id : MessageId) : Claim :=
  if (consumer, id) ∈ R then .duplicate else .fresh

/-- An answer that is fresh exactly for a row that is not there is the answer. -/
theorem eq_answerOf {consumer : ConsumerId} {R : Set Key} {id : MessageId} {claim : Claim}
    (h : claim = .fresh ↔ (consumer, id) ∉ R) : claim = answerOf consumer R id := by
  unfold answerOf
  by_cases hmem : (consumer, id) ∈ R
  · rw [if_pos hmem]
    cases claim with
    | fresh => exact absurd hmem (h.1 rfl)
    | duplicate => rfl
  · rw [if_neg hmem]
    exact h.2 hmem

/-- One claim per id, after the claims of some other ids: the first occurrence of an id has the rows' own answer and a repeat is a
duplicate, and the keys join the rows. -/
theorem run_claimInOrder (h : ∀ request s, ClaimsRow exec rows request s) (self : Consumer) (R : Set Key) {seen : List MessageId} (ids : List MessageId)
    {s : σ} (hrows : ∀ key, key ∈ rows s ↔ key ∈ R ∨ key.1 = self.id ∧ key.2 ∈ seen) :
    ∃ s', Prog.run exec none (self.claimInOrder ids) s = (.returned (.ok (firstAnswers (answerOf self.id R) seen ids)), s') ∧
      ∀ key, key ∈ rows s' ↔ key ∈ R ∨ key.1 = self.id ∧ (key.2 ∈ seen ∨ key.2 ∈ ids) := by
  induction ids generalizing seen s with
  | nil =>
    refine ⟨s, rfl, ?_⟩
    intro key
    rw [hrows]
    simp
  | cons id ids ih =>
    obtain ⟨claim, s', hclaim, hfresh, hins⟩ := h { ClaimRequest.new self.id id with lockTimeout := self.lockTimeout } s
    have hanswer : claim = if id ∈ seen then .duplicate else answerOf self.id R id := by
      by_cases hseen : id ∈ seen
      · rw [if_pos hseen]
        have hmem : (self.id, id) ∈ rows s := (hrows _).2 (Or.inr ⟨rfl, hseen⟩)
        cases claim with
        | fresh => exact absurd hmem (hfresh.1 rfl)
        | duplicate => rfl
      · rw [if_neg hseen]
        refine eq_answerOf (hfresh.trans (not_congr ?_))
        exact (hrows (self.id, id)).trans (by simp [hseen])
    have hrows' : ∀ key, key ∈ rows s' ↔ key ∈ R ∨ key.1 = self.id ∧ key.2 ∈ id :: seen := by
      rintro ⟨c, i⟩
      rw [hins, Set.mem_insert_iff, hrows, List.mem_cons]
      simp only [ClaimRequest.new, Prod.mk.injEq]
      tauto
    obtain ⟨s'', hrun, hmem⟩ := ih hrows'
    refine ⟨s'', ?_, ?_⟩
    · rw [firstAnswers, ← hanswer]
      exact (Prog.run_perform_bind exec hclaim).trans (Prog.run_bind exec hrun)
    · intro key
      rw [hmem, List.mem_cons, List.mem_cons]
      tauto

/-- One claim per id from the rows as they are. -/
theorem run_claimInOrder_rows (h : ∀ request s, ClaimsRow exec rows request s) (self : Consumer) (ids : List MessageId) (s : σ) :
    ∃ s', Prog.run exec none (self.claimInOrder ids) s =
        (.returned (.ok (firstAnswers (answerOf self.id (rows s)) [] ids)), s') ∧
      ∀ key, key ∈ rows s' ↔ key ∈ rows s ∨ key.1 = self.id ∧ key.2 ∈ ids := by
  obtain ⟨s', hrun, hmem⟩ := @run_claimInOrder _ _ _ _ _ h self (rows s) [] ids s (by simp)
  refine ⟨s', hrun, ?_⟩
  intro key
  rw [hmem]
  simp

/-- The backend's answer to the batch: the rows' own answer for each id, and the keys join the rows. -/
theorem exec_batch (h : KeepsRows exec rows) (self : Consumer) (ids : List MessageId) (s : σ) :
    ∃ s', exec (.claimMany (self.batch ids)) s = (.ok ((self.batch ids).ids.map (answerOf self.id (rows s))), s') ∧
      ∀ key, key ∈ rows s' ↔ key ∈ rows s ∨ key.1 = self.id ∧ key.2 ∈ ids := by
  obtain ⟨claims, s₁, s₂, hrun, hrun', hrows⟩ := h.claimMany (self.batch ids) s (pairwise_sortUniq ids)
  obtain ⟨s', horder, hmem⟩ := run_claimInOrder_rows h.claim ⟨self.id, self.lockTimeout⟩ (self.batch ids).ids s
  obtain ⟨heq, hs⟩ := Prod.mk.inj (hrun'.symm.trans horder)
  have hunseen : ∀ id ∈ (self.batch ids).ids, id ∉ ([] : List MessageId) := by simp
  cases heq
  subst hs
  rw [firstAnswers_of_nodup (self.nodup_batch ids) hunseen] at hrun
  rw [Store.claimMany, Prog.perform, Prog.run_call, Prog.run_ret] at hrun
  obtain ⟨hreply, hstate⟩ := Prod.mk.inj hrun
  refine ⟨s₁, Prod.ext (Prog.Ended.returned.inj hreply) hstate, ?_⟩
  intro key
  rw [hrows, hmem, self.mem_batch]

/-- `claim_many` run from a reply. -/
theorem run_claimMany {self : Consumer} {ids : List MessageId} (hids : ids ≠ []) {s s' : σ} {claims : List Claim}
    (hexec : exec (.claimMany (self.batch ids)) s = (.ok claims, s')) :
    Prog.run exec none (self.claimMany ids) s =
      Prog.run exec none (Consumer.spreadClaims (self.batch ids).ids ids claims) s' := by
  rw [self.claimMany_eq hids, Prog.run_call, hexec]

/-- A reply of the right length is answered. -/
theorem run_claimMany_of_length {self : Consumer} {ids : List MessageId} (hids : ids ≠ []) {s s' : σ} {claims : List Claim}
    (hexec : exec (.claimMany (self.batch ids)) s = (.ok claims, s')) (hlen : claims.length = (self.batch ids).ids.length) :
    ∃ f, claims = (self.batch ids).ids.map f ∧
      Prog.run exec none (self.claimMany ids) s = (.returned (.ok (firstAnswers f [] ids)), s') := by
  obtain ⟨f, hf⟩ := exists_map_of_length (self.nodup_batch ids) hlen
  refine ⟨f, hf, ?_⟩
  rw [run_claimMany hids hexec, hf, spreadClaims_map f (fun id hid => (self.mem_batch ids id).2 hid), Prog.run_ret]

/-- The rows agree with one claim after another. -/
theorem sameClaims_claimMany (h : KeepsRows exec rows) (self : Consumer) (ids : List MessageId) (s : σ) :
    SameClaims exec rows (self.claimMany ids) (self.claimInOrder ids) s := by
  by_cases hids : ids = []
  · subst hids
    exact ⟨[], s, s, rfl, rfl, rfl⟩
  · obtain ⟨s₁, hexec, hmem₁⟩ := exec_batch h self ids s
    obtain ⟨s₂, horder, hmem₂⟩ := run_claimInOrder_rows h.claim self ids s
    refine ⟨_, s₁, s₂, ?_, horder, ?_⟩
    · rw [run_claimMany hids hexec, spreadClaims_map _ (fun id hid => (self.mem_batch ids id).2 hid), Prog.run_ret]
    · apply Set.ext
      intro key
      rw [hmem₁, hmem₂]

/-- Answering the caller makes no call. -/
theorem trace_spreadClaims (unique ids : List MessageId) (claims : List Claim) (s : σ) :
    Prog.trace exec (Consumer.spreadClaims unique ids claims) s = [] := by
  unfold Consumer.spreadClaims
  split
  · rfl
  · split
    · rfl
    · rfl

/-- The one call `claim_many` makes is the batch. -/
theorem calls_claimMany (self : Consumer) (ids : List MessageId) (s : σ) :
    (Prog.trace exec (self.claimMany ids : ConnProg ε T _) s).map Sigma.fst =
      if ids = [] then [] else [.claimMany (self.batch ids)] := by
  by_cases hids : ids = []
  · subst hids
    rfl
  · rw [if_neg hids, self.claimMany_eq hids, Prog.trace, List.map_cons]
    cases (exec (.claimMany (self.batch ids)) s).1 with
    | error e => rfl
    | ok claims => rw [trace_spreadClaims, List.map_nil]

/-- `claim_many` does not panic, whatever the backend replies. -/
theorem run_claimMany_ne_panicked (self : Consumer) (ids : List MessageId) (s : σ) :
    (Prog.run exec none (self.claimMany ids : ConnProg ε T _) s).1 ≠ .panicked := by
  by_cases hids : ids = []
  · subst hids
    simp [Consumer.claimMany, pure]
  · cases hexec : exec (.claimMany (self.batch ids)) s with
    | mk reply s' =>
      cases reply with
      | error e =>
        rw [self.claimMany_eq hids, Prog.run_call, hexec]
        simp
      | ok claims =>
        by_cases hlen : claims.length = (self.batch ids).ids.length
        · obtain ⟨f, _, hrun⟩ := run_claimMany_of_length hids hexec hlen
          simp [hrun]
        · rw [run_claimMany hids hexec, spreadClaims_of_length_ne hlen]
          simp

/-! ## The reference rows -/

section ReferenceRows

variable {H D : Type} (handler : Handler ε T H D) (db : Database D)

/-- The rows of the reference backend, as a set. -/
def referenceRows (s : HandlerState ε T H D × Nested (Database D)) : Set Key := {key | key ∈ s.2.cur.rows}

theorem mem_referenceRows (s : HandlerState ε T H D × Nested (Database D)) (key : Key) :
    key ∈ referenceRows s ↔ key ∈ s.2.cur.rows := Iff.rfl

/-- A claim on the reference backend. -/
theorem claimsRow_reference (request : ClaimRequest) (s : HandlerState ε T H D × Nested (Database D)) :
    ClaimsRow ((Reference.backend handler).exec db) referenceRows request s := by
  by_cases hmem : (request.consumer, request.id) ∈ s.2.cur.rows
  · have hexec : (Reference.backend handler).exec db (.claim request) s = (.ok .duplicate, s) := by
      simp only [Backend.exec, Reference.backend, Reference.call, claimRow, if_pos hmem]
      rfl
    refine ⟨_, _, hexec, ?_, ?_⟩
    · simp [mem_referenceRows, hmem]
    · rw [Set.insert_eq_of_mem ((mem_referenceRows _ _).2 hmem)]
  · have hexec : (Reference.backend handler).exec db (.claim request) s =
        (.ok .fresh, s.1, s.2.modify ({ · with rows := insert (request.consumer, request.id) s.2.cur.rows })) := by
      simp only [Backend.exec, Reference.backend, Reference.call, claimRow, if_neg hmem]
    refine ⟨_, _, hexec, ?_, ?_⟩
    · simp [mem_referenceRows, hmem]
    · apply Set.ext
      intro key
      simp [mem_referenceRows]

/-- The reference backend keeps rows. -/
theorem keepsRows_reference : KeepsRows ((Reference.backend handler).exec db) referenceRows := by
  refine ⟨claimsRow_reference handler db, ?_⟩
  intro batch s _
  obtain ⟨s', hrun, hmem⟩ := run_claimInOrder_rows (claimsRow_reference handler db) ⟨batch.consumer, batch.lockTimeout⟩ batch.ids s
  have hanswer : answerOf batch.consumer (referenceRows s) = claimOf batch.consumer s.2.cur.rows := by
    funext id
    refine (eq_answerOf ?_).symm
    rw [mem_referenceRows, claimOf]
    by_cases hrow : (batch.consumer, id) ∈ s.2.cur.rows
    · simp [hrow]
    · simp [hrow]
  have hexec : (Reference.backend handler).exec db (.claimMany batch) s =
      (.ok (firstAnswers (answerOf batch.consumer (referenceRows s)) [] batch.ids), s.1,
        s.2.modify ({ · with rows := s.2.cur.rows ∪ keysOf batch.consumer batch.ids })) := by
    simp only [Backend.exec, Reference.backend, Reference.call, claimEach_rows, hanswer]
  refine ⟨_, _, s', Prog.run_perform_bind _ hexec, hrun, ?_⟩
  apply Set.ext
  intro key
  rw [hmem]
  simp [mem_referenceRows, mem_keysOf]

end ReferenceRows

end ClaimInOrderAux

open ClaimInOrderAux

/-- `Consumer::claim_many` is `Consumer::claim` for each id in the caller's order: the same list of claims and the same rows, over
every backend that keeps rows. What it sends is strictly increasing with the elements of the ids, and it sends nothing else. Over any
backend at all it does not panic: a reply of the right length is answered with one claim per id, and one of another length is a
backend error. -/
theorem claimMany_eq_claimInOrder {ε T σ : Type} (exec : (c : Call) → σ → Reply ε T c × σ) (self : Consumer)
    (ids : List MessageId) (s : σ) :
    (∀ rows : σ → Set Key, KeepsRows exec rows → SameClaims exec rows (self.claimMany ids) (self.claimInOrder ids) s) ∧
    ((self.batch ids).ids.Pairwise (· < ·) ∧ (∀ id, id ∈ (self.batch ids).ids ↔ id ∈ ids) ∧
      (Prog.trace exec (self.claimMany ids : ConnProg ε T _) s).map Sigma.fst =
        if ids = [] then [] else [.claimMany (self.batch ids)]) ∧
    (Prog.run exec none (self.claimMany ids : ConnProg ε T _) s).1 ≠ .panicked ∧
    (∀ claims s', ids ≠ [] → exec (.claimMany (self.batch ids)) s = (.ok claims, s') →
      (claims.length = (self.batch ids).ids.length →
        ∃ answers, Prog.run exec none (self.claimMany ids) s = (.returned (.ok answers), s') ∧ answers.length = ids.length) ∧
      (claims.length ≠ (self.batch ids).ids.length →
        Prog.run exec none (self.claimMany ids) s = (.returned (.error (.backend (.text
          s!"claim_many returned {claims.length} claims for {(self.batch ids).ids.length} ids"))), s'))) := by
  refine ⟨fun rows h => sameClaims_claimMany h self ids s, ⟨pairwise_sortUniq ids, self.mem_batch ids, calls_claimMany self ids s⟩,
    run_claimMany_ne_panicked self ids s, ?_⟩
  intro claims s' hids hexec
  constructor
  · intro hlen
    obtain ⟨f, _, hrun⟩ := run_claimMany_of_length hids hexec hlen
    exact ⟨_, hrun, firstAnswers_length f [] ids⟩
  · intro hlen
    rw [run_claimMany hids hexec, spreadClaims_of_length_ne hlen, Prog.run_ret]
    rfl

/-- A handler that does nothing. -/
def idleHandler : Handler Unit Unit Unit Unit := fun h d _ => (.ok (), h, d)

/-- A consumer of ledger entries. -/
def ledger : Consumer := ⟨⟨"ledger", by decide⟩, none⟩

/-- Entries out of order, one of them twice. -/
def entries : List MessageId := [⟨"entry-2", by decide⟩, ⟨"entry-1", by decide⟩, ⟨"entry-2", by decide⟩]

/-- A transaction that sees one of the entries recorded. -/
def ledgerTx : HandlerState Unit Unit Unit Unit × Nested (Database Unit) :=
  (⟨(), []⟩, Nested.start ⟨{(ledger.id, ⟨"entry-1", by decide⟩)}, ()⟩)

/-- The entries, claimed on the reference backend. -/
theorem claimMany_eq_claimInOrder_ledger :
    KeepsRows ((Reference.backend idleHandler).exec ⟨∅, ()⟩) referenceRows ∧
      SameClaims ((Reference.backend idleHandler).exec ⟨∅, ()⟩) referenceRows (ledger.claimMany entries)
        (ledger.claimInOrder entries) ledgerTx := by
  have h := keepsRows_reference idleHandler ⟨∅, ()⟩
  exact ⟨h, (claimMany_eq_claimInOrder _ ledger entries ledgerTx).1 _ h⟩

end Txbox
