import Txbox.Lemmas.Table
import Txbox.Postgres
import Txbox.Sqlite
import Txbox.MySql
import Mathlib.Data.String.Basic

/-!
# The claims of the backends

Every backend's `claim` and `claim_many`, run on a migrated database without contention, on identifiers without U+0000: they succeed,
claim what they were asked to and answer with what was there.
-/

namespace Txbox

open Lib

/-! ## Identifiers and columns -/

/-- No U+0000 in the consumer and the ids. -/
def NulFree (consumer : ConsumerId) (ids : List MessageId) : Prop :=
  hasNul consumer.asStr = false ∧ ∀ id ∈ ids, hasNul id.asStr = false

namespace BackendsAux

/-- A validated identifier has at most as many bytes as its type allows. -/
theorem utf8ByteSize_le {maxLen : Nat} (value : StringNewtype maxLen) : value.asStr.utf8ByteSize ≤ maxLen := by
  have hvalid := value.valid
  unfold checkId at hvalid
  split at hvalid
  · nomatch hvalid
  · split at hvalid
    · nomatch hvalid
    · split at hvalid
      · nomatch hvalid
      · omega

/-- A list of characters is no longer than its encoding. -/
theorem length_le_utf8Len (cs : List Char) : cs.length ≤ String.utf8Len cs := by
  induction cs with
  | nil => simp only [List.length_nil, String.utf8Len_nil, le_refl]
  | cons c cs ih =>
    have hc := c.utf8Size_pos
    rw [List.length_cons, String.utf8Len_cons]
    omega

/-- A validated identifier has at most as many characters as its type allows bytes. -/
theorem length_le {maxLen : Nat} (value : StringNewtype maxLen) : value.asStr.toList.length ≤ maxLen := by
  have hlen := length_le_utf8Len value.asStr.toList
  rw [← String.utf8ByteSize_ofList, String.ofList_toList] at hlen
  exact hlen.trans (utf8ByteSize_le value)

end BackendsAux

/-! ## Claiming one after another -/

section Default

variable {Op : Type} {R : Op → Type} {ε σ C : Type} (exec : (c : Op) → σ → R c × σ) (table : σ → Table C)

/-- A claim run on a connection: it returns whether the row was there, and claims the id. -/
def ClaimsOne (p : Prog Op R (Except (InboxError ε) Claim)) (consumer id : String) (s : σ) : Prop :=
  ∃ s', Prog.run exec none p s = (.returned (.ok ((table s).answer consumer id)), s') ∧
    (table s).Claimed consumer [id] (table s')

/-- A batch of claims run on a connection: it returns for each id whether the row was there, and claims the ids. -/
def ClaimsMany (p : Prog Op R (Except (InboxError ε) (List Claim))) (consumer : String) (ids : List String) (s : σ) : Prop :=
  ∃ s', Prog.run exec none p s = (.returned (.ok (ids.map ((table s).answer consumer))), s') ∧
    (table s).Claimed consumer ids (table s')

namespace BackendsAux

variable {exec table} {claim : ClaimRequest → Prog Op R (Except (InboxError ε) Claim)} {consumer : ConsumerId}
  {lockTimeout : Option Duration}

/-- The default `claim_many`, once it has claims in hand, over a `claim` that does what it should. -/
theorem run_defaultClaimMany {ids : List MessageId} (hnodup : ids.Nodup)
    (h : ∀ id ∈ ids, ∀ s, ClaimsOne exec table (claim ⟨consumer, id, lockTimeout⟩) consumer.asStr id.asStr s)
    (claims : List Claim) (s : σ) : ∃ s', Prog.run exec none (defaultClaimMany claim consumer lockTimeout ids claims) s =
        (.returned (.ok (claims ++ (ids.map StringNewtype.asStr).map ((table s).answer consumer.asStr))), s') ∧
      (table s).Claimed consumer.asStr (ids.map StringNewtype.asStr) (table s') := by
  induction ids generalizing claims s with
  | nil => exact ⟨s, by rw [List.map_nil, List.map_nil, List.append_nil]; rfl, .nil⟩
  | cons id ids ih =>
    rw [List.nodup_cons] at hnodup
    obtain ⟨s₁, hrun, hclaimed⟩ := h id List.mem_cons_self s
    obtain ⟨s₂, hrest, hclaimed'⟩ := ih hnodup.2 (fun id' hid' => h id' (List.mem_cons_of_mem _ hid'))
      (claims ++ [(table s).answer consumer.asStr id.asStr]) s₁
    refine ⟨s₂, ?_, hclaimed.cons hclaimed'⟩
    have hsame : (ids.map StringNewtype.asStr).map ((table s₁).answer consumer.asStr) =
        (ids.map StringNewtype.asStr).map ((table s).answer consumer.asStr) := by
      refine List.map_congr_left ?_
      intro other hother
      obtain ⟨id', hid', rfl⟩ := List.mem_map.1 hother
      refine hclaimed.answer_eq ?_
      intro heq
      exact hnodup.1 (StringNewtype.asStr_injective heq ▸ hid')
    rw [hsame, List.append_assoc, List.singleton_append] at hrest
    rw [List.map_cons, List.map_cons, ← hrest]
    exact Prog.run_bind exec hrun

/-- The default `claim_many` over a `claim` that does what it should. -/
theorem claimsMany_default {ids : List MessageId} (hnodup : ids.Nodup)
    (h : ∀ id ∈ ids, ∀ s, ClaimsOne exec table (claim ⟨consumer, id, lockTimeout⟩) consumer.asStr id.asStr s) (s : σ) :
    ClaimsMany exec table (defaultClaimMany claim consumer lockTimeout ids []) consumer.asStr (ids.map StringNewtype.asStr) s :=
  run_defaultClaimMany hnodup h [] s

end BackendsAux

end Default

namespace BackendsAux

/-! ## PostgreSQL -/

section Postgres

open PgInbox

variable {ε : Type}

/-- The index entry of validated identifiers fits. -/
theorem entryBytes_le (consumer : ConsumerId) (id : MessageId) : entryBytes consumer.asStr id.asStr ≤ 2704 := by
  have hconsumer := utf8ByteSize_le consumer
  have hid := utf8ByteSize_le id
  unfold entryBytes
  omega

/-- Validated identifiers raise no error exactly when they are without U+0000. -/
theorem textError_eq_none_iff (consumer : ConsumerId) (ids : List MessageId) :
    textError consumer.asStr (ids.map StringNewtype.asStr) = none ↔ NulFree consumer ids := by
  have hfits : ¬ (ids.map StringNewtype.asStr).any (fun id => decide (entryBytes consumer.asStr id > 2704)) = true := by
    intro h
    simp only [List.any_map, List.any_eq_true, Function.comp_apply, decide_eq_true_eq] at h
    obtain ⟨id, _, hid⟩ := h
    have hle := entryBytes_le consumer id
    omega
  unfold textError NulFree
  rw [if_neg hfits]
  simp only [ite_eq_right_iff, reduceCtorEq, imp_false, List.any_cons, Bool.or_eq_true, not_or, Bool.not_eq_true, List.any_map,
    List.any_eq_false, Function.comp_apply]

/-- The server reads the milliseconds of a timeout back from its text. -/
theorem acceptedMillis_text (millis : Nat) : acceptedMillis s!"{millis}ms" = if millis ≤ 2147483647 then some millis else none := by
  have htext : (s!"{millis}ms").toList = Nat.toDigits 10 millis ++ ['m', 's'] := by simp [toString]
  have hdigits : (Nat.toDigits 10 millis ++ ['m', 's']).takeWhile Char.isDigit = Nat.toDigits 10 millis := by
    rw [List.takeWhile_append_of_pos fun c hc => Nat.isDigit_of_mem_toDigits (by decide) (by decide) hc]
    simp
  unfold acceptedMillis
  rw [htext, hdigits, Nat.ofDigitChars_ten_toDigits]

/-- A timeout is accepted up to the server's maximum. -/
theorem isSome_acceptedMillis_iff (timeout : Duration) :
    (acceptedMillis (pgLockTimeout timeout)).isSome ↔ timeout.asNanos ≤ 2147483647 * 1000000 := by
  rw [pgLockTimeout, acceptedMillis_text]
  split_ifs with h
  · exact iff_of_true rfl (by omega)
  · exact iff_of_false (by decide) (by omega)

/-- `SET LOCAL lock_timeout` with an accepted value leaves the rows alone. -/
theorem run_pgSetLockTimeout {timeout : Option Duration} (h : TimeoutAccepted timeout) (s : PgInbox.Conn) :
    ∃ s', Prog.run (exec (ε := ε)) none (setLockTimeout timeout) s = (.returned (.ok ()), s') ∧ s'.table = s.table := by
  cases timeout with
  | none => exact ⟨s, rfl, rfl⟩
  | some timeout =>
    have hexec : exec (ε := ε) (.setLockTimeout (pgLockTimeout timeout)) s =
        (.ok (), { s with lockTimeout := some (pgLockTimeout timeout) }) :=
      if_pos ((isSome_acceptedMillis_iff timeout).2 (h timeout rfl))
    refine ⟨{ s with lockTimeout := some (pgLockTimeout timeout) }, ?_, rfl⟩
    rw [setLockTimeout, Prog.run_perform, hexec]

/-- With any other it fails. -/
theorem run_pgSetLockTimeout_refused {timeout : Option Duration} (h : ¬TimeoutAccepted timeout) (s : PgInbox.Conn) :
    Prog.run (exec (ε := ε)) none (setLockTimeout timeout) s = (.returned (.error (.database "22023")), s) := by
  cases timeout with
  | none => exact absurd (fun t ht => nomatch ht) h
  | some timeout =>
    have hlong : ¬(acceptedMillis (pgLockTimeout timeout)).isSome := by
      rw [isSome_acceptedMillis_iff]
      intro hle
      refine h ?_
      rintro t ⟨⟩
      exact hle
    have hexec : exec (ε := ε) (.setLockTimeout (pgLockTimeout timeout)) s = (.error (.database "22023"), s) := if_neg hlong
    rw [setLockTimeout, Prog.run_perform, hexec]

/-- The claim statement on strings that raise no error. -/
theorem exec_pgClaim {consumer id : String} (s : PgInbox.Conn) (h : textError consumer [id] = none) :
    exec (ε := ε) (.claim consumer id) s = (.ok (s.table.insertNew (consumer, id) s.started).1.toNat,
      { s with table := (s.table.insertNew (consumer, id) s.started).2 }) := by
  simp only [exec, h]

/-- The statement for a batch on strings that raise no error. -/
theorem exec_pgClaimMany {consumer : String} {ids : List String} (s : PgInbox.Conn) (h : textError consumer ids = none) :
    exec (ε := ε) (.claimMany consumer ids) s = (.ok (s.table.insertEach consumer s.started (sortBytes ids)).1,
      { s with table := (s.table.insertEach consumer s.started (sortBytes ids)).2 }) := by
  simp only [exec, h]

/-- `PgInbox::claim`. -/
theorem claimsOne_pg (request : ClaimRequest) (ht : TimeoutAccepted request.lockTimeout)
    (h : NulFree request.consumer [request.id]) (s : PgInbox.Conn) :
    ClaimsOne (exec (ε := ε)) Conn.table (claim request) request.consumer.asStr request.id.asStr s := by
  obtain ⟨s', hset, htable⟩ := run_pgSetLockTimeout ht s
  have hnone : textError request.consumer.asStr [request.id.asStr] = none := (textError_eq_none_iff _ [request.id]).2 h
  have hexec := exec_pgClaim (ε := ε) s' hnone
  rw [ClaimsOne, ← htable, ← Table.claimOfAffected_insertNew]
  exact ⟨_, (Prog.run_bind exec hset).trans (Prog.run_perform_bind exec hexec), Table.claimed_insertNew⟩

/-- `PgInbox::claim_many`. -/
theorem claimsMany_pg (batch : ClaimBatch) (ht : TimeoutAccepted batch.lockTimeout) (h : NulFree batch.consumer batch.ids)
    (s : PgInbox.Conn) :
    ClaimsMany (exec (ε := ε)) Conn.table (claimMany batch) batch.consumer.asStr (batch.ids.map StringNewtype.asStr) s := by
  obtain ⟨s', hset, htable⟩ := run_pgSetLockTimeout ht s
  have hexec := exec_pgClaimMany (ε := ε) s' ((textError_eq_none_iff _ _).2 h)
  rw [ClaimsMany, ← htable, ← Table.claimsFromFresh_insertEach (perm_sortBytes _)]
  exact ⟨_, (Prog.run_bind exec hset).trans (Prog.run_perform_bind exec hexec), Table.claimed_insertEach (perm_sortBytes _)⟩

/-- With a refused timeout `PgInbox::claim` does not get to its claim. -/
theorem run_pgClaim_refused {request : ClaimRequest} (h : ¬TimeoutAccepted request.lockTimeout) (s : PgInbox.Conn) :
    Prog.run (exec (ε := ε)) none (claim request) s = (.returned (.error timeoutError), s) :=
  Prog.run_bind exec (run_pgSetLockTimeout_refused h s)

/-- Nor does `PgInbox::claim_many`. -/
theorem run_pgClaimMany_refused {batch : ClaimBatch} (h : ¬TimeoutAccepted batch.lockTimeout) (s : PgInbox.Conn) :
    Prog.run (exec (ε := ε)) none (claimMany batch) s = (.returned (.error timeoutError), s) :=
  Prog.run_bind exec (run_pgSetLockTimeout_refused h s)

end Postgres

/-- The ids as the server takes them apart. -/
theorem decode_encode_ids (json : JsonCodec) {consumer : ConsumerId} {ids : List MessageId} (h : NulFree consumer ids) :
    json.decode (json.encode (ids.map StringNewtype.asStr)) = ids.map StringNewtype.asStr := by
  refine json.decode_encode _ ?_
  intro id hid
  obtain ⟨id', hid', rfl⟩ := List.mem_map.1 hid
  exact h.2 id' hid'

/-! ## SQLite -/

section Sqlite

open SqliteInbox

variable {ε : Type} (json : JsonCodec)

/-- `SqliteInbox::claim`, on any validated identifiers. -/
theorem claimsOne_sqlite (request : ClaimRequest) (s : SqliteInbox.Conn) :
    ClaimsOne (exec (ε := ε) json) Conn.table (claim json request) request.consumer.asStr request.id.asStr s := by
  rw [ClaimsOne, ← Table.claimOfAffected_insertNew]
  exact ⟨_, rfl, Table.claimed_insertNew⟩

/-- `SqliteInbox::claim_many`. -/
theorem claimsMany_sqlite (batch : ClaimBatch) (h : NulFree batch.consumer batch.ids) (s : SqliteInbox.Conn) :
    ClaimsMany (exec (ε := ε) json) Conn.table (claimMany json batch) batch.consumer.asStr (batch.ids.map StringNewtype.asStr) s := by
  have hperm : (json.decode (json.encode (batch.ids.map StringNewtype.asStr))).Perm (batch.ids.map StringNewtype.asStr) :=
    List.Perm.of_eq (decode_encode_ids json h)
  rw [ClaimsMany, ← Table.claimsFromFresh_insertEach hperm]
  exact ⟨_, rfl, Table.claimed_insertEach hperm⟩

end Sqlite

/-! ## MySQL -/

section MySql

open MySqlInbox

variable {ε : Type} (json : JsonCodec)

/-- A string that fits is not cut. -/
theorem cut_eq {width : Nat} {s : String} (h : s.toList.length ≤ width) : cut width s = s := by
  rw [cut, List.take_of_length_le h, String.ofList_toList]

/-- Validated identifiers fit their columns. -/
theorem fits_asStr {width : Nat} (value : StringNewtype width) : fits width value.asStr = true := by
  have hlen := length_le value
  simp only [fits, decide_eq_true_eq]
  rwa [String.length_toList] at hlen

/-- Setting a lock timeout succeeds, and so does restoring it where the variables are as it left them. Neither touches the rows or
the random numbers. -/
theorem run_mysqlSetLockTimeout (timeout : Option Duration) (s : MySqlInbox.Conn) :
    ∃ vars, Prog.run (exec (ε := ε) json) none (setLockTimeout json timeout) s = (.returned (.ok ()), { s with vars }) ∧
      ∀ s' : MySqlInbox.Conn, s'.vars = vars → ∃ restored,
        Prog.run (exec (ε := ε) json) none (restoreLockTimeout json timeout) s' =
          (.returned (.ok ()), { s' with vars := restored }) := by
  cases timeout with
  | none => exact ⟨s.vars, rfl, fun s' _ => ⟨s'.vars, rfl⟩⟩
  | some timeout =>
    refine ⟨s.vars.set (mysqlLockTimeout timeout), rfl, ?_⟩
    intro s' hvars
    refine ⟨⟨s.vars.lockWaitTimeout, none⟩, ?_⟩
    have hexec : exec (ε := ε) json .restoreLockTimeout s' = (.ok (), { s' with vars := ⟨s.vars.lockWaitTimeout, none⟩ }) := by
      simp only [exec, LockVars.restore, hvars, LockVars.set]
    exact Prog.run_perform_bind (exec json) hexec

/-- The claim statement on validated identifiers. -/
theorem exec_mysqlClaim (consumer : ConsumerId) (id : MessageId) (s : MySqlInbox.Conn) :
    exec (ε := ε) json (.claim consumer.asStr id.asStr) s =
      (.ok (s.table.insertNew (consumer.asStr, id.asStr) ⟨s.clock 0, none⟩).1.toNat,
        { s.tick with table := (s.table.insertNew (consumer.asStr, id.asStr) ⟨s.clock 0, none⟩).2 }) := by
  simp only [exec, cut_eq (length_le consumer), cut_eq (length_le id)]

/-- `MySqlInbox::claim`, on any validated identifiers. -/
theorem claimsOne_mysql (request : ClaimRequest) (s : MySqlInbox.Conn) :
    ClaimsOne (exec (ε := ε) json) Conn.table (claim json request) request.consumer.asStr request.id.asStr s := by
  obtain ⟨vars, hset, hrestore⟩ := run_mysqlSetLockTimeout (ε := ε) json request.lockTimeout s
  have hexec := exec_mysqlClaim (ε := ε) json request.consumer request.id { s with vars }
  obtain ⟨restored, hrestored⟩ := hrestore (exec (ε := ε) json (.claim request.consumer.asStr request.id.asStr) { s with vars }).2
    (by rw [hexec]; rfl)
  rw [hexec] at hrestored
  rw [ClaimsOne, ← Table.claimOfAffected_insertNew]
  refine ⟨_, (Prog.run_bind _ hset).trans ((Prog.run_perform_bind _ hexec).trans (Prog.run_bind _ hrestored)), ?_⟩
  exact Table.claimed_insertNew

/-- The statement for a batch of validated identifiers that survive the encoding. -/
theorem exec_mysqlClaimMany {consumer : ConsumerId} {ids : List MessageId} (h : NulFree consumer ids) (token : UInt64)
    (s : MySqlInbox.Conn) :
    let order := sortBytes (ids.map StringNewtype.asStr)
    exec (ε := ε) json (.claimMany consumer.asStr token (json.encode (ids.map StringNewtype.asStr))) s =
      (.ok (), { s.tick with table := (s.table.insertEach consumer.asStr ⟨s.clock 0, some token⟩ order).2 }) := by
  have hfits : (ids.map StringNewtype.asStr).all (fits 512) = true := by
    rw [List.all_map, List.all_eq_true]
    exact fun id _ => fits_asStr id
  simp only [exec, decode_encode_ids json h, fits_asStr consumer, hfits, Bool.and_self, if_true]

/-- Reading back by the token, when the ids survive the encoding. -/
theorem exec_mysqlClaimedByToken {consumer : ConsumerId} {ids : List MessageId} (h : NulFree consumer ids) (token : UInt64)
    (s : MySqlInbox.Conn) :
    exec (ε := ε) json (.claimedByToken (json.encode (ids.map StringNewtype.asStr)) consumer.asStr token) s =
      (.ok ((ids.map StringNewtype.asStr).filter fun id =>
        (s.table (consumer.asStr, id)).any fun columns => columns.claimToken = some token), s) := by
  simp only [exec, decode_encode_ids json h]

/-- `MySqlInbox::claim_many` claims the ids, and answers with what it reads back by its token. -/
theorem run_mysqlClaimMany (batch : ClaimBatch) (h : NulFree batch.consumer batch.ids) (s : MySqlInbox.Conn) :
    let ids := batch.ids.map StringNewtype.asStr
    let t := (s.table.insertEach batch.consumer.asStr ⟨s.clock 0, some (s.tokens 0)⟩ (sortBytes ids)).2
    ∃ s', Prog.run (exec (ε := ε) json) none (claimMany json batch) s =
        (.returned (.ok (claimsFromFresh ids (ids.filter fun id =>
          (t (batch.consumer.asStr, id)).any fun columns => columns.claimToken = some (s.tokens 0)))), s') ∧ s'.table = t := by
  intro ids t
  have hrandom : exec (ε := ε) json .random s = (.ok (s.tokens 0), { s with tokens := fun n => s.tokens (n + 1) }) := rfl
  obtain ⟨vars, hset, hrestore⟩ :=
    run_mysqlSetLockTimeout (ε := ε) json batch.lockTimeout { s with tokens := fun n => s.tokens (n + 1) }
  have hinsert := exec_mysqlClaimMany (ε := ε) json h (s.tokens 0) { s with tokens := fun n => s.tokens (n + 1), vars }
  obtain ⟨restored, hrestored⟩ := hrestore (Prod.snd (exec (ε := ε) json _ _)) (congrArg (fun r => r.2.vars) hinsert)
  rw [hinsert] at hrestored
  refine ⟨⟨restored, fun n => s.clock (n + 1), fun n => s.tokens (n + 1), t⟩, ?_, rfl⟩
  refine (Prog.run_perform_bind _ hrandom).trans ?_
  refine (Prog.run_bind _ hset).trans ?_
  refine (Prog.run_perform_bind _ hinsert).trans ?_
  refine (Prog.run_bind _ hrestored).trans ?_
  exact Prog.run_perform_bind _ (exec_mysqlClaimedByToken json h (s.tokens 0) _)

/-- `MySqlInbox::claim_many` with a token that no row has. -/
theorem claimsMany_mysql (batch : ClaimBatch) (h : NulFree batch.consumer batch.ids) (s : MySqlInbox.Conn)
    (htoken : ∀ key columns, s.table key = some columns → columns.claimToken ≠ some (s.tokens 0)) :
    ClaimsMany (exec (ε := ε) json) Conn.table (claimMany json batch) batch.consumer.asStr (batch.ids.map StringNewtype.asStr) s := by
  obtain ⟨s', hrun, htable⟩ := run_mysqlClaimMany (ε := ε) json batch h s
  refine ⟨s', ?_, ?_⟩
  · rw [hrun, Table.claimsFromFresh_eq]
    intro id hid
    simp only [List.mem_filter, Table.insertEach_snd_apply, (perm_sortBytes _).mem_iff, hid, true_and, and_true]
    cases hrow : s.table (batch.consumer.asStr, id) with
    | none => simp only [if_true, Option.any_some, decide_true]
    | some columns =>
      have hold := htoken _ _ hrow
      simp only [reduceCtorEq, if_false, Option.any_some, hold, decide_false, Bool.false_eq_true]
  · rw [htable]
    exact Table.claimed_insertEach (perm_sortBytes _)

end MySql

end BackendsAux

end Txbox
