import Txbox.Lemmas.Backends

/-!
# One statement, or one claim after another

The backends' own `claim_many` against the default of the trait, on every table and every batch of distinct ids without U+0000: they
learn what was inserted in different ways and return the same claims. A lock timeout that PostgreSQL refuses makes both fail alike,
before they claim anything.
-/

namespace Txbox

open Lib

section Agrees

variable {Op : Type} {R : Op → Type} {ε σ C : Type} (exec : (c : Op) → σ → R c × σ) (table : σ → Table C)

/-- Two programs run on one connection return the same claims and leave the same keys, and the first leaves the rows of other
consumers and the rows that were there as they were. -/
def Agrees (p q : Prog Op R (Except (InboxError ε) (List Claim))) (consumer : ConsumerId) (s : σ) : Prop :=
  ∃ claims s₁ s₂, Prog.run exec none p s = (.returned (.ok claims), s₁) ∧
    Prog.run exec none q s = (.returned (.ok claims), s₂) ∧ (table s₁).keys = (table s₂).keys ∧
      ∀ key, key.1 ≠ consumer.asStr ∨ key ∈ (table s).keys → table s₁ key = table s key

/-- Two programs run on one connection return the same error and leave the rows as they were. -/
def FailAlike (p q : Prog Op R (Except (InboxError ε) (List Claim))) (s : σ) : Prop :=
  ∃ e s₁ s₂, Prog.run exec none p s = (.returned (.error e), s₁) ∧
    Prog.run exec none q s = (.returned (.error e), s₂) ∧ table s₁ = table s ∧ table s₂ = table s

variable {exec table}

/-- Two batches of claims for the same ids agree. -/
theorem agrees_of_claimsMany {p q : Prog Op R (Except (InboxError ε) (List Claim))} {consumer : ConsumerId} {ids : List String}
    {s : σ} (hp : ClaimsMany exec table p consumer.asStr ids s) (hq : ClaimsMany exec table q consumer.asStr ids s) :
    Agrees exec table p q consumer s := by
  obtain ⟨s₁, hrun₁, hclaimed₁⟩ := hp
  obtain ⟨s₂, hrun₂, hclaimed₂⟩ := hq
  exact ⟨_, s₁, s₂, hrun₁, hrun₂, hclaimed₁.keys_eq hclaimed₂, hclaimed₁.kept⟩

end Agrees

open BackendsAux

/-- The three backends' `claim_many` agree with the default over their `claim`, on every table. On PostgreSQL a lock timeout that is
refused makes both fail alike, unless there is nothing to claim; on MySQL the random token has to be in no row. -/
theorem claimMany_agrees_default {ε : Type} (json : JsonCodec) (batch : ClaimBatch) (hids : batch.ids.Nodup)
    (hnul : NulFree batch.consumer batch.ids) :
    (∀ s : PgInbox.Conn,
      (PgInbox.TimeoutAccepted batch.lockTimeout → Agrees (PgInbox.exec (ε := ε)) PgInbox.Conn.table (PgInbox.claimMany batch)
        (defaultClaimMany PgInbox.claim batch.consumer batch.lockTimeout batch.ids []) batch.consumer s) ∧
      (¬PgInbox.TimeoutAccepted batch.lockTimeout → batch.ids ≠ [] →
        FailAlike (PgInbox.exec (ε := ε)) PgInbox.Conn.table (PgInbox.claimMany batch)
          (defaultClaimMany PgInbox.claim batch.consumer batch.lockTimeout batch.ids []) s)) ∧
    (∀ s : SqliteInbox.Conn, Agrees (SqliteInbox.exec (ε := ε) json) SqliteInbox.Conn.table (SqliteInbox.claimMany json batch)
      (defaultClaimMany (SqliteInbox.claim json) batch.consumer batch.lockTimeout batch.ids []) batch.consumer s) ∧
    (∀ s : MySqlInbox.Conn, (∀ key columns, s.table key = some columns → columns.claimToken ≠ some (s.tokens 0)) →
      Agrees (MySqlInbox.exec (ε := ε) json) MySqlInbox.Conn.table (MySqlInbox.claimMany json batch)
        (defaultClaimMany (MySqlInbox.claim json) batch.consumer batch.lockTimeout batch.ids []) batch.consumer s) := by
  refine ⟨fun s => ⟨?_, ?_⟩, ?_, ?_⟩
  · intro htimeout
    refine agrees_of_claimsMany (claimsMany_pg batch htimeout hnul s) (claimsMany_default hids ?_ s)
    intro id hid s'
    refine claimsOne_pg ⟨batch.consumer, id, batch.lockTimeout⟩ htimeout ⟨hnul.1, ?_⟩ s'
    intro id' hid'
    rw [List.mem_singleton.1 hid']
    exact hnul.2 id hid
  · intro htimeout hne
    refine ⟨PgInbox.timeoutError, s, s, run_pgClaimMany_refused htimeout s, ?_, rfl, rfl⟩
    obtain ⟨id, ids, hcons⟩ := List.exists_cons_of_ne_nil hne
    rw [hcons]
    have hfirst : Prog.run PgInbox.exec none (PgInbox.claim (ε := ε) ⟨batch.consumer, id, batch.lockTimeout⟩) s =
        (.returned (.error PgInbox.timeoutError), s) := run_pgClaim_refused htimeout s
    exact Prog.run_bind _ hfirst
  · intro s
    refine agrees_of_claimsMany (claimsMany_sqlite json batch hnul s) (claimsMany_default hids ?_ s)
    intro id _ s'
    exact claimsOne_sqlite json ⟨batch.consumer, id, batch.lockTimeout⟩ s'
  · intro s htoken
    refine agrees_of_claimsMany (claimsMany_mysql json batch hnul s htoken) (claimsMany_default hids ?_ s)
    intro id _ s'
    exact claimsOne_mysql json ⟨batch.consumer, id, batch.lockTimeout⟩ s'

/-- A batch of two ids. -/
def twoIds : ClaimBatch := ⟨⟨"c", by decide⟩, [⟨"a", by decide⟩, ⟨"b", by decide⟩], none⟩

/-- A connection that sees one of them, stamped by an earlier call. -/
def stampedConn : MySqlInbox.Conn :=
  ⟨⟨50, none⟩, fun _ => 1, fun _ => 6, Function.update (fun _ => none) ("c", "a") (some ⟨0, some 5⟩)⟩

/-- The batch on that connection, with another token. -/
theorem claimMany_agrees_default_stamped :
    twoIds.ids.Nodup ∧ NulFree twoIds.consumer twoIds.ids ∧
      (∀ key columns, stampedConn.table key = some columns → columns.claimToken ≠ some (stampedConn.tokens 0)) ∧
      Agrees (MySqlInbox.exec (ε := Unit) JsonCodec.list) MySqlInbox.Conn.table (MySqlInbox.claimMany JsonCodec.list twoIds)
        (defaultClaimMany (MySqlInbox.claim JsonCodec.list) twoIds.consumer twoIds.lockTimeout twoIds.ids []) twoIds.consumer
        stampedConn := by
  have hids : twoIds.ids.Nodup := by decide
  have hnul : NulFree twoIds.consumer twoIds.ids := ⟨by decide, by decide⟩
  have htoken : ∀ key columns, stampedConn.table key = some columns → columns.claimToken ≠ some (stampedConn.tokens 0) := by
    intro key columns hrow
    simp only [stampedConn, Function.update_apply] at hrow
    split at hrow
    · cases hrow
      decide
    · nomatch hrow
  exact ⟨hids, hnul, htoken, (claimMany_agrees_default JsonCodec.list twoIds hids hnul).2.2 stampedConn htoken⟩

end Txbox
