import Txbox.Lemmas.Backends
import Txbox.Lemmas.ClaimMany

/-!
# What validation leaves to the backends

The checks of `ConsumerId` and `MessageId` bound the bytes of an identifier, and so its characters and its index entry. They do not
exclude U+0000, which PostgreSQL's `TEXT` refuses. So the backends accept and store every validated identifier exactly when it is
without U+0000, as long as PostgreSQL does not refuse the claim for its lock timeout; and one that is not makes its whole batch fail.
-/

namespace Txbox

open Lib

section Accepted

variable {Op : Type} {R : Op → Type} {ε σ C α : Type} (exec : (c : Op) → σ → R c × σ) (table : σ → Table C)

/-- On every connection the program returns `Ok` and the ids are stored as they are: their keys, and no others, join the table. -/
def Accepted (p : Prog Op R (Except (InboxError ε) α)) (consumer : ConsumerId) (ids : List MessageId) : Prop :=
  ∀ s, ∃ a s', Prog.run exec none p s = (.returned (.ok a), s') ∧
    ∀ key, key ∈ (table s').keys ↔ key ∈ (table s).keys ∨ ∃ id ∈ ids, key = (consumer.asStr, id.asStr)

end Accepted

section Backends

variable (ε : Type) (json : JsonCodec)

/-- Every backend's `claim` accepts the request. -/
structure ClaimAccepted (request : ClaimRequest) : Prop where
  postgres : Accepted (PgInbox.exec (ε := ε)) PgInbox.Conn.table (PgInbox.claim request) request.consumer [request.id]
  mysql : Accepted (MySqlInbox.exec (ε := ε) json) MySqlInbox.Conn.table (MySqlInbox.claim json request) request.consumer
    [request.id]
  sqlite : Accepted (SqliteInbox.exec (ε := ε) json) SqliteInbox.Conn.table (SqliteInbox.claim json request) request.consumer
    [request.id]

/-- Every backend's `claim_many` accepts the batch. -/
structure BatchAccepted (batch : ClaimBatch) : Prop where
  postgres : Accepted (PgInbox.exec (ε := ε)) PgInbox.Conn.table (PgInbox.claimMany batch) batch.consumer batch.ids
  mysql : Accepted (MySqlInbox.exec (ε := ε) json) MySqlInbox.Conn.table (MySqlInbox.claimMany json batch) batch.consumer batch.ids
  sqlite : Accepted (SqliteInbox.exec (ε := ε) json) SqliteInbox.Conn.table (SqliteInbox.claimMany json batch) batch.consumer
    batch.ids

end Backends

namespace ValidationAux

open BackendsAux

variable {Op : Type} {R : Op → Type} {ε σ C α : Type} {exec : (c : Op) → σ → R c × σ} {table : σ → Table C}

/-- Claiming ids stores them as they are. -/
theorem mem_keys_of_claimed {consumer : ConsumerId} {ids : List MessageId} {t t' : Table C}
    (h : t.Claimed consumer.asStr (ids.map StringNewtype.asStr) t') (key : String × String) :
    key ∈ t'.keys ↔ key ∈ t.keys ∨ ∃ id ∈ ids, key = (consumer.asStr, id.asStr) := by
  rw [h.mem_keys]
  refine or_congr Iff.rfl ?_
  obtain ⟨c, i⟩ := key
  simp only [List.mem_map, Prod.mk.injEq]
  constructor
  · rintro ⟨hc, id, hid, rfl⟩
    exact ⟨id, hid, hc, rfl⟩
  · rintro ⟨id, hid, hc, rfl⟩
    exact ⟨hc, id, hid, rfl⟩

/-- A claim that does what it should accepts its id. -/
theorem accepted_of_claimsOne {p : Prog Op R (Except (InboxError ε) Claim)} {consumer : ConsumerId} {id : MessageId}
    (h : ∀ s, ClaimsOne exec table p consumer.asStr id.asStr s) : Accepted exec table p consumer [id] := by
  intro s
  obtain ⟨s', hrun, hclaimed⟩ := h s
  exact ⟨_, s', hrun, mem_keys_of_claimed hclaimed⟩

/-- So does a batch. -/
theorem accepted_of_claimsMany {p : Prog Op R (Except (InboxError ε) (List Claim))} {consumer : ConsumerId} {ids : List MessageId}
    (h : ∀ s, ClaimsMany exec table p consumer.asStr (ids.map StringNewtype.asStr) s) : Accepted exec table p consumer ids := by
  intro s
  obtain ⟨s', hrun, hclaimed⟩ := h s
  exact ⟨_, s', hrun, mem_keys_of_claimed hclaimed⟩

/-- A connection to a database with nothing in it. -/
def emptyConn : PgInbox.Conn := ⟨0, none, fun _ => none⟩

/-- A claim whose strings raise an error returns it. -/
theorem run_pgClaim_error {request : ClaimRequest} (ht : PgInbox.TimeoutAccepted request.lockTimeout) {code : String}
    (h : PgInbox.textError request.consumer.asStr [request.id.asStr] = some code) (s : PgInbox.Conn) :
    ∃ s', Prog.run (PgInbox.exec (ε := ε)) none (PgInbox.claim request) s =
      (.returned (.error (PgInbox.claimError (.database code))), s') ∧ s'.table = s.table := by
  obtain ⟨s', hset, htable⟩ := run_pgSetLockTimeout (ε := ε) ht s
  have hexec : PgInbox.exec (ε := ε) (.claim request.consumer.asStr request.id.asStr) s' = (.error (.database code), s') := by
    simp only [PgInbox.exec, h]
  exact ⟨s', (Prog.run_bind _ hset).trans (Prog.run_perform_bind _ hexec), htable⟩

/-- So does a batch, whichever of its strings raises it. -/
theorem run_pgClaimMany_error {batch : ClaimBatch} (ht : PgInbox.TimeoutAccepted batch.lockTimeout) {code : String}
    (h : PgInbox.textError batch.consumer.asStr (batch.ids.map StringNewtype.asStr) = some code) (s : PgInbox.Conn) :
    ∃ s', Prog.run (PgInbox.exec (ε := ε)) none (PgInbox.claimMany batch) s =
      (.returned (.error (PgInbox.claimError (.database code))), s') ∧ s'.table = s.table := by
  obtain ⟨s', hset, htable⟩ := run_pgSetLockTimeout (ε := ε) ht s
  have hexec : PgInbox.exec (ε := ε) (.claimMany batch.consumer.asStr (batch.ids.map StringNewtype.asStr)) s' =
      (.error (.database code), s') := by
    simp only [PgInbox.exec, h]
  exact ⟨s', (Prog.run_bind _ hset).trans (Prog.run_perform_bind _ hexec), htable⟩

/-- A program that returns an error on some connection does not accept. -/
theorem not_accepted_of_error {p : Prog Op R (Except (InboxError ε) α)} {consumer : ConsumerId} {ids : List MessageId} {s s' : σ}
    {e : InboxError ε} (h : Prog.run exec none p s = (.returned (.error e), s')) : ¬ Accepted exec table p consumer ids := by
  intro haccepted
  obtain ⟨a, s'', hrun, _⟩ := haccepted s
  rw [hrun] at h
  nomatch h

/-- A claim that PostgreSQL accepts has a timeout that it accepts, and no U+0000. -/
theorem nulFree_of_claimAccepted {json : JsonCodec} {request : ClaimRequest} (h : ClaimAccepted ε json request) :
    PgInbox.TimeoutAccepted request.lockTimeout ∧ NulFree request.consumer [request.id] := by
  have ht : PgInbox.TimeoutAccepted request.lockTimeout := by
    by_contra hrefused
    exact not_accepted_of_error (run_pgClaim_refused hrefused emptyConn) h.postgres
  refine ⟨ht, ?_⟩
  rw [← textError_eq_none_iff]
  cases herror : PgInbox.textError request.consumer.asStr [request.id.asStr] with
  | none => exact herror
  | some code =>
    obtain ⟨s', hrun, _⟩ := run_pgClaim_error (ε := ε) ht herror emptyConn
    exact absurd h.postgres (not_accepted_of_error hrun)

/-- So does a batch. -/
theorem nulFree_of_batchAccepted {json : JsonCodec} {batch : ClaimBatch} (h : BatchAccepted ε json batch) :
    PgInbox.TimeoutAccepted batch.lockTimeout ∧ NulFree batch.consumer batch.ids := by
  have ht : PgInbox.TimeoutAccepted batch.lockTimeout := by
    by_contra hrefused
    exact not_accepted_of_error (run_pgClaimMany_refused hrefused emptyConn) h.postgres
  refine ⟨ht, ?_⟩
  rw [← textError_eq_none_iff]
  cases herror : PgInbox.textError batch.consumer.asStr (batch.ids.map StringNewtype.asStr) with
  | none => rfl
  | some code =>
    obtain ⟨s', hrun, _⟩ := run_pgClaimMany_error (ε := ε) ht herror emptyConn
    exact absurd h.postgres (not_accepted_of_error hrun)

/-- Every backend accepts any other claim. -/
theorem claimAccepted_of_nulFree (json : JsonCodec) {request : ClaimRequest} (ht : PgInbox.TimeoutAccepted request.lockTimeout)
    (h : NulFree request.consumer [request.id]) : ClaimAccepted ε json request where
  postgres := accepted_of_claimsOne (claimsOne_pg request ht h)
  mysql := accepted_of_claimsOne (claimsOne_mysql json request)
  sqlite := accepted_of_claimsOne (claimsOne_sqlite json request)

/-- And any other batch. -/
theorem batchAccepted_of_nulFree (json : JsonCodec) {batch : ClaimBatch} (ht : PgInbox.TimeoutAccepted batch.lockTimeout)
    (h : NulFree batch.consumer batch.ids) : BatchAccepted ε json batch where
  postgres := accepted_of_claimsMany (claimsMany_pg batch ht h)
  mysql := by
    intro s
    obtain ⟨s', hrun, htable⟩ := run_mysqlClaimMany (ε := ε) json batch h s
    refine ⟨_, s', hrun, mem_keys_of_claimed ?_⟩
    rw [htable]
    exact Table.claimed_insertEach (perm_sortBytes _)
  sqlite := accepted_of_claimsMany (claimsMany_sqlite json batch h)

end ValidationAux

open ValidationAux

/-- Validated identifiers are accepted and stored as they are by every backend, one by one and in a batch, exactly when they are
without U+0000 and PostgreSQL accepts the lock timeout, if there is one; in particular a batch that `process_many` or `claim_many` of a
consumer sends. -/
theorem validated_accepted_iff (ε : Type) (json : JsonCodec) :
    (∀ request : ClaimRequest, ClaimAccepted ε json request ↔
      PgInbox.TimeoutAccepted request.lockTimeout ∧ NulFree request.consumer [request.id]) ∧
    (∀ batch : ClaimBatch, BatchAccepted ε json batch ↔
      PgInbox.TimeoutAccepted batch.lockTimeout ∧ NulFree batch.consumer batch.ids) ∧
    (∀ (self : Consumer) (ids : List MessageId), ids ≠ [] →
      (BatchAccepted ε json (self.batch ids) ↔ PgInbox.TimeoutAccepted self.lockTimeout ∧ NulFree self.id ids)) := by
  have hbatch : ∀ batch : ClaimBatch, BatchAccepted ε json batch ↔
      PgInbox.TimeoutAccepted batch.lockTimeout ∧ NulFree batch.consumer batch.ids :=
    fun batch => ⟨nulFree_of_batchAccepted, fun h => batchAccepted_of_nulFree json h.1 h.2⟩
  refine ⟨fun request => ⟨nulFree_of_claimAccepted, fun h => claimAccepted_of_nulFree json h.1 h.2⟩, hbatch, ?_⟩
  intro self ids _
  rw [hbatch]
  simp only [NulFree, Consumer.batch, ClaimBatch.new, mem_sortUniq]

/-- A batch that a consumer with a lock timeout of a second sends is accepted. -/
theorem validated_accepted_iff_parcels : ClaimAccepted Unit JsonCodec.list ⟨⟨"shipping", by decide⟩, ⟨"parcel", by decide⟩, none⟩ ∧
    BatchAccepted Unit JsonCodec.list
      (Consumer.batch ⟨⟨"shipping", by decide⟩, some ⟨1000000000, by decide⟩⟩ [⟨"parcel-2", by decide⟩, ⟨"parcel", by decide⟩]) := by
  have hnone : PgInbox.TimeoutAccepted none := fun timeout h => nomatch h
  have hsecond : PgInbox.TimeoutAccepted (some ⟨1000000000, by decide⟩) := by
    rintro timeout ⟨⟩
    decide
  have hall := validated_accepted_iff Unit JsonCodec.list
  refine ⟨(hall.1 _).2 ⟨hnone, ?_⟩, (hall.2.2 _ _ (List.cons_ne_nil _ _)).2 ⟨hsecond, ?_⟩⟩
  · exact ⟨by decide, by decide⟩
  · exact ⟨by decide, by decide⟩

/-- A validated message id with U+0000 in it. -/
def nulId : MessageId := ⟨"a\x00b", by decide⟩

/-- A request to claim it. -/
def nulRequest : ClaimRequest := ⟨⟨"shipping", by decide⟩, nulId, none⟩

/-- A batch with it and another id. -/
def nulBatch : ClaimBatch := ⟨⟨"shipping", by decide⟩, [nulId, ⟨"parcel", by decide⟩], none⟩

/-- PostgreSQL answers its claim with a backend error, and so the batch with it: the other id of the batch is not recorded. -/
theorem validated_not_accepted_nul :
    (∀ s, Prog.run (PgInbox.exec (ε := Unit)) none (PgInbox.claim nulRequest) s =
      (.returned (.error (.backend (.text "error returned from database: 22021"))), s)) ∧
    (∀ s, Prog.run (PgInbox.exec (ε := Unit)) none (PgInbox.claimMany nulBatch) s =
      (.returned (.error (.backend (.text "error returned from database: 22021"))), s)) ∧
    ¬ ClaimAccepted Unit JsonCodec.list nulRequest ∧ ¬ BatchAccepted Unit JsonCodec.list nulBatch := by
  have hclaim : ∀ s, Prog.run (PgInbox.exec (ε := Unit)) none (PgInbox.claim nulRequest) s =
      (.returned (.error (.backend (.text "error returned from database: 22021"))), s) := fun s => rfl
  have hbatch : ∀ s, Prog.run (PgInbox.exec (ε := Unit)) none (PgInbox.claimMany nulBatch) s =
      (.returned (.error (.backend (.text "error returned from database: 22021"))), s) := fun s => rfl
  refine ⟨hclaim, hbatch, ?_, ?_⟩
  · intro h
    exact not_accepted_of_error (hclaim emptyConn) h.postgres
  · intro h
    exact not_accepted_of_error (hbatch emptyConn) h.postgres

end Txbox
