import Txbox.Known
import Txbox.Lemmas.Backends
import Txbox.Theorems.ExactlyOnce

/-!
# A known duplicate stays one

`true` from `is_known_duplicate` is definitive. One execution of the handler is committed; and whatever the workers do after it, as
long as no purge deletes the row: the row stays as it is, and no execution of its handler is committed any more. On every backend the
answer is that of the claim statement.
-/

namespace Txbox

open Lib InvariantAux

variable {ε T W C : Type} {cfg : Config}

/-- From one state to a later one: unless a purge deleted it, the row is as it was, and none of the commits in between holds an
execution of its handler. -/
def KeptUntilPurged (key : Key) (s s' : State ε T W) : Prop :=
  ∃ newer, s'.history = newer ++ s.history ∧ ((∀ keys, .purged keys ∈ newer → key ∉ keys) →
    s'.rows key = s.rows key ∧ ∀ work, .committed work ∈ newer → ∀ e ∈ work.effects, e.1 ≠ key)

/-- In every run from the state. -/
def State.Settled [DecidableEq W] (cfg : Config) (s : State ε T W) (key : Key) : Prop :=
  ∀ s', Relation.ReflTransGen (machine cfg).step s s' → KeptUntilPurged key s s'

namespace KnownDuplicateAux

variable {s s' s'' : State ε T W} {key : Key}

/-- Nothing happened. -/
theorem kept_of_eq (hrows : s'.rows = s.rows) (hhistory : s'.history = s.history) : KeptUntilPurged key s s' := by
  refine ⟨[], hhistory, ?_⟩
  intro _
  rw [hrows]
  exact ⟨rfl, by simp⟩

/-- One stretch after another. -/
theorem kept_trans (h : KeptUntilPurged key s s')
    (h' : s'.rows key = s.rows key → KeptUntilPurged key s' s'') (hgrows : ∃ newer, s''.history = newer ++ s'.history) :
    KeptUntilPurged key s s'' := by
  obtain ⟨older, hh, hkept⟩ := h
  obtain ⟨newer, hh'⟩ := hgrows
  refine ⟨newer ++ older, by rw [hh', hh, List.append_assoc], ?_⟩
  intro hnot
  obtain ⟨hrows, heff⟩ := hkept (fun keys hmem => hnot keys (List.mem_append_right _ hmem))
  obtain ⟨newer', hh'', hkept'⟩ := h' hrows
  have hsame : newer' = newer := List.append_cancel_right (hh''.symm.trans hh')
  subst hsame
  obtain ⟨hrows', heff'⟩ := hkept' (fun keys hmem => hnot keys (List.mem_append_left _ hmem))
  refine ⟨hrows'.trans hrows, ?_⟩
  intro work hwork
  rcases List.mem_append.1 hwork with hwork | hwork
  · exact heff' work hwork
  · exact heff work hwork

/-- The query of the backends on a table that holds the committed rows. -/
theorem rows_of_answer {t : Table C} (ht : s.Shows t) {consumer : ConsumerId} {id : MessageId}
    (h : KnownQuery.answer ⟨consumer.asStr, id.asStr⟩ t = true) : (s.rows (consumer, id)).isSome := by
  rw [← ht (consumer, id)]
  exact h

variable [DecidableEq W]

/-- One step from a state in which the row is committed. -/
theorem kept_of_moved (hjobs : ∀ job, cfg.jobs job → job.Runs) (hI : Inv cfg s) (hm : Moved cfg s s') (hkey : (s.rows key).isSome) :
    KeptUntilPurged key s s' := by
  cases hm with
  | change hc => exact kept_of_eq rfl rfl
  | tick h => exact kept_of_eq rfl rfl
  | @commit w p job tx k hw hjob hleaf hp =>
    obtain ⟨_, hclean, hbal, _⟩ := hleaf
    -- a transaction holds no row of a committed key, so the commit touches neither the row nor the effects of the key
    have hout : key ∉ tx.work.cur.keys := by
      intro hmem
      obtain ⟨row, hrow, rfl⟩ := List.mem_map.1 hmem
      have hnone := hI.unrecorded w row (by rw [hw]; exact List.mem_append_left _ hrow)
      rw [hnone] at hkey
      cases hkey
    refine ⟨[.committed tx.work.cur], rfl, ?_⟩
    intro _
    refine ⟨publish_rows_of_notMem (s := s) hclean.deleted hout, ?_⟩
    intro work hwork e he heq
    cases List.mem_singleton.1 hwork
    obtain ⟨key', hkey', rfl⟩ := List.mem_map.1 ((hbal (hjobs job hjob)).mem_iff.1 he)
    exact hout (heq ▸ hkey')
  | @purge keys clock hclock h =>
    refine ⟨[.purged keys], rfl, ?_⟩
    intro hnot
    have hk := hnot keys List.mem_cons_self
    refine ⟨?_, by simp⟩
    simp only [State.purge, if_neg hk]

/-- A run from a state in which the row is committed. -/
theorem settled_of_rows (hjobs : ∀ job, cfg.jobs job → job.Runs) (h : (machine cfg).Reachable s) (hkey : (s.rows key).isSome) :
    s.Settled cfg key := by
  intro s' hrun
  induction hrun with
  | refl => exact kept_of_eq rfl rfl
  | tail hrun hstep ih =>
    have hI := inv_of_reachable (h.run hrun)
    have hm := moved_of_step hI hstep
    refine kept_trans ih ?_ (history_of_moved hm)
    intro hrows
    exact kept_of_moved hjobs hI hm (by rw [hrows]; exact hkey)

/-- The query on PostgreSQL. -/
theorem run_pgKnown {consumer : ConsumerId} {id : MessageId} (t : Table C) :
    Prog.run PgInbox.execKnown none (PgInbox.isKnownDuplicate (ε := ε) consumer id) t =
      (.returned (if hasNul consumer.asStr || hasNul id.asStr then .error (SqlxError.database "22021" : SqlxError ε String).into
        else .ok (KnownQuery.answer ⟨consumer.asStr, id.asStr⟩ t)), t) := by
  by_cases hnul : (hasNul consumer.asStr || hasNul id.asStr) = true
  · have hexec : PgInbox.execKnown (ε := ε) ⟨consumer.asStr, id.asStr⟩ t = (.error (.database "22021"), t) := if_pos hnul
    rw [if_pos hnul]
    exact Prog.run_perform_bind PgInbox.execKnown hexec
  · have hexec : PgInbox.execKnown (ε := ε) ⟨consumer.asStr, id.asStr⟩ t =
        (.ok (KnownQuery.answer ⟨consumer.asStr, id.asStr⟩ t), t) := if_neg hnul
    rw [if_neg hnul]
    exact Prog.run_perform_bind PgInbox.execKnown hexec

/-- It answers `true` only where it raises no error and the row is there. -/
theorem answer_of_pg {t : Table C} {consumer : ConsumerId} {id : MessageId}
    (h : Prog.run PgInbox.execKnown none (PgInbox.isKnownDuplicate (ε := ε) consumer id) t = (.returned (.ok true), t)) :
    KnownQuery.answer ⟨consumer.asStr, id.asStr⟩ t = true := by
  rw [run_pgKnown] at h
  have hok := Prog.Ended.returned.inj (Prod.mk.inj h).1
  split at hok
  · cases hok
  · exact Except.ok.inj hok

end KnownDuplicateAux

open KnownDuplicateAux

/-- On every backend `true` is definitive, in every state that workers running `process` and `process_many` can reach: one execution of
the handler is committed, and in every run from there it stays the only one. -/
theorem isKnownDuplicate_definitive [DecidableEq W] (hjobs : ∀ job, cfg.jobs job → job.Runs) {s : State ε T W}
    (h : (machine cfg).Reachable s) {t : Table C} (ht : s.Shows t) (consumer : ConsumerId) (id : MessageId) :
    (Prog.run PgInbox.execKnown none (PgInbox.isKnownDuplicate (ε := ε) consumer id) t = (.returned (.ok true), t) →
      executions (consumer, id) s.history = 1 ∧ s.Settled cfg (consumer, id)) ∧
    (Prog.run MySqlInbox.execKnown none (MySqlInbox.isKnownDuplicate (ε := ε) consumer id) t = (.returned (.ok true), t) →
      executions (consumer, id) s.history = 1 ∧ s.Settled cfg (consumer, id)) ∧
    (Prog.run SqliteInbox.execKnown none (SqliteInbox.isKnownDuplicate (ε := ε) consumer id) t = (.returned (.ok true), t) →
      executions (consumer, id) s.history = 1 ∧ s.Settled cfg (consumer, id)) := by
  have hsettled : KnownQuery.answer ⟨consumer.asStr, id.asStr⟩ t = true →
      executions (consumer, id) s.history = 1 ∧ s.Settled cfg (consumer, id) := by
    intro hanswer
    have hrow := rows_of_answer ht hanswer
    have honce := (ExactlyOnceAux.once_of_reachable hjobs h).1 (consumer, id)
    exact ⟨honce.1.1 hrow, settled_of_rows hjobs h hrow⟩
  refine ⟨fun hrun => hsettled (answer_of_pg hrun), fun hrun => hsettled ?_, fun hrun => hsettled ?_⟩
  · exact Except.ok.inj (Prog.Ended.returned.inj (Prod.mk.inj hrun).1)
  · exact Except.ok.inj (Prog.Ended.returned.inj (Prod.mk.inj hrun).1)

/-- A message that one worker has processed, on a database where any row may be purged at any time. -/
theorem isKnownDuplicate_definitive_processed :
    let key : Key := (⟨"newsletter", by decide⟩, ⟨"issue-9", by decide⟩)
    ∃ s : State String Nat Bool, (s.rows key).isSome ∧ executions key s.history = 1 ∧
      s.Settled ⟨fun _ statement => statement, true, fun _ _ => True, Job.Runs⟩ key := by
  intro key
  have h0 : (machine ⟨fun _ statement => statement, true, fun _ _ => True, Job.Runs⟩).Reachable
      (⟨fun _ => none, [], 0, fun _ => .idle⟩ : State String Nat Bool) := .init ⟨rfl, rfl, rfl⟩
  obtain ⟨s, hs, h⟩ := exists_processed h0 (fun _ => trivial) true ⟨key.1, none⟩ key.2 7 rfl trivial
  have hrow : (s.rows key).isSome := by
    rw [h.rows, Function.update_self]
    rfl
  have hshows : s.Shows (fun k => if k = ("newsletter", "issue-9") then some () else none) := by
    intro k
    by_cases hk : k = key
    · subst hk
      exact hrow.symm
    · have hne : (k.1.asStr, k.2.asStr) ≠ ("newsletter", "issue-9") := by
        intro heq
        obtain ⟨h1, h2⟩ := Prod.mk.inj heq
        exact hk (Prod.ext (StringNewtype.asStr_injective h1) (StringNewtype.asStr_injective h2))
      have hnone : s.rows k = none := by
        rw [h.rows]
        exact Function.update_of_ne hk _ _
      simp only [if_neg hne, hnone, Option.isSome_none]
  exact ⟨s, hrow, (isKnownDuplicate_definitive (fun _ h => h) hs hshows key.1 key.2).2.1 rfl⟩

/-! ## The query and the claim -/

/-- The query says `true` where the claim says `Duplicate`, and `false` where it says `Fresh`. -/
def KnownAgrees (known : Prog.Ended (Except (InboxError ε) Bool)) (claim : Prog.Ended (Except (InboxError ε) Claim)) : Prop :=
  ∃ b : Bool, known = .returned (.ok b) ∧ claim = .returned (.ok (if b then .duplicate else .fresh))

/-- Both fail, with the same error. -/
def BothFail (known : Prog.Ended (Except (InboxError ε) Bool)) (claim : Prog.Ended (Except (InboxError ε) Claim)) : Prop :=
  ∃ e, known = .returned (.error e) ∧ claim = .returned (.error e)

namespace KnownDuplicateAux

/-- A query that answers with what is there agrees with a claim that does what it should. -/
theorem agrees_of_claimsOne {Op : Type} {R : Op → Type} {σ : Type} {exec : (c : Op) → σ → R c × σ} {table : σ → Table C}
    {p : Prog Op R (Except (InboxError ε) Claim)} {consumer : ConsumerId} {id : MessageId} {s : σ}
    {known : Prog.Ended (Except (InboxError ε) Bool)} (hclaim : ClaimsOne exec table p consumer.asStr id.asStr s)
    (hknown : known = .returned (.ok (KnownQuery.answer ⟨consumer.asStr, id.asStr⟩ (table s)))) :
    KnownAgrees known (Prog.run exec none p s).1 := by
  obtain ⟨s', hrun, _⟩ := hclaim
  refine ⟨_, hknown, ?_⟩
  rw [hrun]
  rfl

/-- No U+0000 in the two strings. -/
theorem nulFree_one_iff {consumer : ConsumerId} {id : MessageId} :
    NulFree consumer [id] ↔ ¬ (hasNul consumer.asStr || hasNul id.asStr) = true := by
  simp [NulFree]

/-- A claim on PostgreSQL with U+0000 in a string raises the error of the query. -/
theorem run_pgClaim_of_nul {request : ClaimRequest} (ht : PgInbox.TimeoutAccepted request.lockTimeout)
    (h : (hasNul request.consumer.asStr || hasNul request.id.asStr) = true) (s : PgInbox.Conn) :
    (Prog.run (PgInbox.exec (ε := ε)) none (PgInbox.claim request) s).1 =
      .returned (.error (SqlxError.database "22021" : SqlxError ε String).into) := by
  obtain ⟨s', hset, _⟩ := BackendsAux.run_pgSetLockTimeout (ε := ε) ht s
  have htext : PgInbox.textError request.consumer.asStr [request.id.asStr] = some "22021" := by
    simp only [PgInbox.textError, List.any_cons, List.any_nil, Bool.or_false, h, if_true]
  have hexec : PgInbox.exec (ε := ε) (.claim request.consumer.asStr request.id.asStr) s' = (.error (.database "22021"), s') := by
    simp only [PgInbox.exec, htext]
  have hcode : PgInbox.claimError (SqlxError.database "22021" : SqlxError ε String) = (SqlxError.database "22021").into := by
    simp [PgInbox.claimError]
  have hrun : Prog.run (PgInbox.exec (ε := ε)) none (PgInbox.claim request) s =
      (.returned (.error (PgInbox.claimError (.database "22021"))), s') :=
    (Prog.run_bind (PgInbox.exec (ε := ε)) hset).trans (Prog.run_perform_bind _ hexec)
  rw [hrun, hcode]

end KnownDuplicateAux

/-- On every table the query and a claim on the same connection agree. On PostgreSQL strings with U+0000 make both fail alike, and a
lock timeout that the server refuses makes the claim fail. -/
theorem isKnownDuplicate_agrees_claim (ε : Type) (json : JsonCodec) (request : ClaimRequest) :
    (∀ s : PgInbox.Conn,
      let known := (Prog.run PgInbox.execKnown none (PgInbox.isKnownDuplicate (ε := ε) request.consumer request.id) s.table).1
      let claim := (Prog.run (PgInbox.exec (ε := ε)) none (PgInbox.claim request) s).1
      (PgInbox.TimeoutAccepted request.lockTimeout →
        (NulFree request.consumer [request.id] → KnownAgrees known claim) ∧
          (¬ NulFree request.consumer [request.id] → BothFail known claim)) ∧
      (¬ PgInbox.TimeoutAccepted request.lockTimeout → claim = .returned (.error PgInbox.timeoutError))) ∧
    (∀ s : MySqlInbox.Conn, KnownAgrees
      (Prog.run MySqlInbox.execKnown none (MySqlInbox.isKnownDuplicate (ε := ε) request.consumer request.id) s.table).1
      (Prog.run (MySqlInbox.exec (ε := ε) json) none (MySqlInbox.claim json request) s).1) ∧
    (∀ s : SqliteInbox.Conn, KnownAgrees
      (Prog.run SqliteInbox.execKnown none (SqliteInbox.isKnownDuplicate (ε := ε) request.consumer request.id) s.table).1
      (Prog.run (SqliteInbox.exec (ε := ε) json) none (SqliteInbox.claim json request) s).1) := by
  refine ⟨?_, ?_, ?_⟩
  · intro s known claim
    refine ⟨fun ht => ⟨?_, ?_⟩, ?_⟩
    · intro hfree
      refine agrees_of_claimsOne (BackendsAux.claimsOne_pg request ht hfree s) ?_
      simp only [known, run_pgKnown, if_neg (nulFree_one_iff.1 hfree)]
    · intro hnul
      have hnul' := not_not.1 (mt nulFree_one_iff.2 hnul)
      refine ⟨(SqlxError.database "22021" : SqlxError ε String).into, ?_, run_pgClaim_of_nul ht hnul' s⟩
      simp only [known, run_pgKnown, if_pos hnul']
    · intro hrefused
      simp only [claim, BackendsAux.run_pgClaim_refused hrefused s]
  · intro s
    exact agrees_of_claimsOne (BackendsAux.claimsOne_mysql json request s) rfl
  · intro s
    exact agrees_of_claimsOne (BackendsAux.claimsOne_sqlite json request s) rfl

/-- On an empty PostgreSQL table: a message without U+0000, one with it, and one with a lock timeout of thirty days. -/
theorem isKnownDuplicate_agrees_claim_empty :
    let s : PgInbox.Conn := ⟨0, none, fun _ => none⟩
    let plain : ClaimRequest := ⟨⟨"newsletter", by decide⟩, ⟨"issue-10", by decide⟩, none⟩
    let odd : ClaimRequest := ⟨⟨"newsletter", by decide⟩, ⟨"issue\x00", by decide⟩, none⟩
    let patient : ClaimRequest := { plain with lockTimeout := some ⟨2592000000000000, by decide⟩ }
    KnownAgrees (Prog.run PgInbox.execKnown none (PgInbox.isKnownDuplicate (ε := Unit) plain.consumer plain.id) s.table).1
      (Prog.run PgInbox.exec none (PgInbox.claim plain) s).1 ∧
    BothFail (Prog.run PgInbox.execKnown none (PgInbox.isKnownDuplicate (ε := Unit) odd.consumer odd.id) s.table).1
      (Prog.run PgInbox.exec none (PgInbox.claim odd) s).1 ∧
    (Prog.run (PgInbox.exec (ε := Unit)) none (PgInbox.claim patient) s).1 = .returned (.error PgInbox.timeoutError) := by
  intro s plain odd patient
  have hnone : PgInbox.TimeoutAccepted none := fun t ht => nomatch ht
  have hlong : ¬ PgInbox.TimeoutAccepted patient.lockTimeout := fun h => absurd (h _ rfl) (by decide)
  have hplain : NulFree plain.consumer [plain.id] := nulFree_one_iff.2 (by decide)
  have hodd : ¬ NulFree odd.consumer [odd.id] := fun h => nulFree_one_iff.1 h (by decide)
  exact ⟨(((isKnownDuplicate_agrees_claim Unit JsonCodec.list plain).1 s).1 hnone).1 hplain,
    (((isKnownDuplicate_agrees_claim Unit JsonCodec.list odd).1 s).1 hnone).2 hodd,
    ((isKnownDuplicate_agrees_claim Unit JsonCodec.list patient).1 s).2 hlong⟩

end Txbox
