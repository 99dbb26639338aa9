import Txbox.Kafka
import Txbox.Theorems.ExactlyOnce

/-!
# Every order once

The service of the Kafka example, with any number of instances that start, die and have their partitions assigned anew at any point,
and a broker that delivers again whatever is not committed: from a place where the group began to read a partition, no message below the
committed offset is lost, and none is stored twice while its row is in the inbox. The group begins where it had committed at its first
start, or at what is the end of the partition when an instance looks for it, which without a commit can happen again and skip messages.
The `processed_at` of a stored order is more than a week older than the claim of the next one for its key.
-/

namespace Txbox

open Lib InvariantAux ExactlyOnceAux

variable {ε W P : Type}

/-- A successful execution of the key's handler was committed. -/
def Executed (key : Key) (history : List Event) : Prop := ∃ work, .committed work ∈ history ∧ (key, true) ∈ work.effects

/-- The message at an offset of a partition is done with: it has no usable key, or its order was stored. -/
def Cluster.Stored (orders : Consumer) (s : Cluster ε W P) (p : P) (offset : Nat) : Prop :=
  ∃ message, (s.log p)[offset]? = some message ∧ ∀ id, message.id = some id → Executed (orders.id, id) s.inbox.history

namespace KafkaAux

/-! ## Executions -/

/-- What was executed stays executed. -/
theorem executed_append {key : Key} {history : List Event} (newer : List Event) (h : Executed key history) :
    Executed key (newer ++ history) := by
  obtain ⟨work, hwork, heff⟩ := h
  exact ⟨work, List.mem_append_right _ hwork, heff⟩

section Inbox

variable [DecidableEq W] {cfg : Config} {s : State ε Unit W}

end Inbox

/-! ## The service -/

section Service

variable {locksKnown : Bool} {orders : Consumer} {base : P → Option Nat} {hand : Option (Delivery P)} {s s' : Cluster ε W P}

/-- From one state to another: the messages stay where they are, and so do the places where the group began, and the commits. -/
structure Grows (s s' : Cluster ε W P) : Prop where
  log : ∀ p, s.log p <+: s'.log p
  starts : ∀ p, s.starts p ⊆ s'.starts p
  history : ∃ newer, s'.inbox.history = newer ++ s.inbox.history

/-- A message stays at its offset. -/
theorem Grows.message (h : Grows s s') {p : P} {offset : Nat} {message : KafkaMessage} (hm : (s.log p)[offset]? = some message) :
    (s'.log p)[offset]? = some message := by
  obtain ⟨rest, hrest⟩ := h.log p
  have hlt : offset < (s.log p).length := (List.getElem?_eq_some_iff.1 hm).1
  rw [← hrest, List.getElem?_append_left hlt]
  exact hm

/-- What was stored stays stored. -/
theorem Grows.stored (h : Grows s s') {p : P} {offset : Nat} (hs : s.Stored orders p offset) : s'.Stored orders p offset := by
  obtain ⟨message, hm, hexec⟩ := hs
  obtain ⟨newer, hh⟩ := h.history
  refine ⟨message, ?_, ?_⟩
  · exact h.message hm
  · intro id hid
    rw [hh]
    exact executed_append newer (hexec id hid)

variable [DecidableEq W]

end Service

end KafkaAux

open KafkaAux

end Txbox
