import Txbox.Lemmas.Backends

/-!
# `INSERT IGNORE` on validated identifiers

MySQL's `INSERT IGNORE` cuts a value that is too long for its column and skips a row whose cut key is taken. Validation bounds the
bytes of an identifier by the width of its column in characters, so nothing is ever cut: over every history of claims and un-claims
the rows are the pairs of strings that are recorded, each with a row of its own.
-/

namespace Txbox

open Lib

namespace MySqlInbox

/-- A call of `claim` or `unclaim`. -/
inductive InboxCall where
  | claim (request : ClaimRequest)
  | unclaim (consumer : ConsumerId) (id : MessageId)

/-- The connection after a call. -/
def InboxCall.run (ε : Type) (json : JsonCodec) (call : InboxCall) (s : Conn) : Conn :=
  match call with
  | .claim request => (Prog.run (exec (ε := ε) json) none (MySqlInbox.claim json request) s).2
  | .unclaim consumer id => (Prog.run (exec (ε := ε) json) none (MySqlInbox.unclaim json consumer id) s).2

/-- The connection after a history of calls. -/
def afterHistory (ε : Type) (json : JsonCodec) (history : List InboxCall) (s : Conn) : Conn :=
  history.foldl (fun s call => call.run ε json s) s

/-- The pairs of strings that are recorded after a call, with no column in between: a claim records its pair, an un-claim removes
its pair. -/
def InboxCall.record (recorded : Set (String × String)) : InboxCall → Set (String × String)
  | .claim request => insert (request.consumer.asStr, request.id.asStr) recorded
  | .unclaim consumer id => recorded \ {(consumer.asStr, id.asStr)}

/-- The pairs that are recorded after a history of calls. -/
def recordedAfter (recorded : Set (String × String)) (history : List InboxCall) : Set (String × String) :=
  history.foldl InboxCall.record recorded

/-- The primary key of the row that `INSERT IGNORE` inserts for two strings. -/
def ignoredKey (consumer id : String) : String × String := (cut 255 consumer, cut 512 id)

end MySqlInbox

namespace InsertIgnoreAux

open MySqlInbox BackendsAux

variable {ε : Type} (json : JsonCodec)

/-- The key of a validated pair is the pair. -/
theorem ignoredKey_eq (consumer : ConsumerId) (id : MessageId) :
    ignoredKey consumer.asStr id.asStr = (consumer.asStr, id.asStr) := by
  rw [ignoredKey, cut_eq (length_le consumer), cut_eq (length_le id)]

/-- One call leaves the rows that are recorded after it. -/
theorem keys_run (call : InboxCall) (s : Conn) : (call.run ε json s).table.keys = call.record s.table.keys := by
  apply Set.ext
  intro key
  cases call with
  | claim request =>
    obtain ⟨s', hrun, hclaimed⟩ := claimsOne_mysql (ε := ε) json request s
    rw [InboxCall.run, hrun, InboxCall.record, hclaimed.mem_keys, List.mem_singleton, Set.mem_insert_iff, Prod.ext_iff]
    exact or_comm
  | unclaim consumer id =>
    have hrun : InboxCall.run ε json (.unclaim consumer id) s =
        { s with table := Function.update s.table (consumer.asStr, id.asStr) none } := rfl
    rw [hrun, InboxCall.record, Set.mem_sdiff, Set.mem_singleton_iff, Table.mem_keys_iff, Table.mem_keys_iff]
    by_cases hkey : key = (consumer.asStr, id.asStr)
    · simp [hkey]
    · simp [hkey]

/-- A history of calls leaves the rows that are recorded after it. -/
theorem keys_afterHistory (history : List InboxCall) (s : Conn) :
    (afterHistory ε json history s).table.keys = recordedAfter s.table.keys history := by
  induction history generalizing s with
  | nil => rfl
  | cons call history ih =>
    rw [afterHistory, List.foldl_cons, recordedAfter, List.foldl_cons, ← keys_run (ε := ε) json call s]
    exact ih _

end InsertIgnoreAux

open MySqlInbox InsertIgnoreAux

/-- Over every history of claims and un-claims of validated identifiers, from any table: the rows are exactly the pairs of strings
that are recorded, a claim returns, and says `Fresh` exactly when its pair is not recorded, and two different pairs have different
rows. -/
theorem insertIgnore_exact (ε : Type) (json : JsonCodec) (s : MySqlInbox.Conn) (history : List InboxCall) :
    (afterHistory ε json history s).table.keys = recordedAfter s.table.keys history ∧
    (∀ request : ClaimRequest, ∃ claim s',
      Prog.run (exec (ε := ε) json) none (MySqlInbox.claim json request) (afterHistory ε json history s) =
        (.returned (.ok claim), s') ∧
      (claim = .fresh ↔ (request.consumer.asStr, request.id.asStr) ∉ recordedAfter s.table.keys history)) ∧
    (∀ (consumer consumer' : ConsumerId) (id id' : MessageId), (consumer, id) ≠ (consumer', id') →
      ignoredKey consumer.asStr id.asStr ≠ ignoredKey consumer'.asStr id'.asStr) := by
  have hkeys := keys_afterHistory (ε := ε) json history s
  refine ⟨hkeys, ?_, ?_⟩
  · intro request
    obtain ⟨s', hrun, _⟩ := BackendsAux.claimsOne_mysql (ε := ε) json request (afterHistory ε json history s)
    refine ⟨_, s', hrun, ?_⟩
    rw [Table.answer_eq_fresh_iff, ← hkeys, Table.mem_keys_iff, not_not]
  · intro consumer consumer' id id' hne heq
    rw [ignoredKey_eq, ignoredKey_eq, Prod.mk.injEq] at heq
    apply hne
    rw [StringNewtype.asStr_injective heq.1, StringNewtype.asStr_injective heq.2]

end Txbox
