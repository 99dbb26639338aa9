import Txbox.Theorems.Window

/-!
# The Kafka consumer

`examples/kafka_consumer.rs`: a service whose instances read a topic, store every order through `process` and commit the offset after
it, with a task that purges the inbox. The broker keeps the messages of every partition in order and the offset the group has
committed, if it has; an instance that is assigned a partition reads it from that offset on. The example sets no `auto.offset.reset`, so
where nothing is committed it reads from what is the end of the partition when it gets to look there. Partitions may be assigned anew at
any time, also while a message is in hand. Commits are asynchronous: a request may land at any time, in any order, more than once or
never. The topic's own retention is left out: messages stay.

An instance may end at any point: on an error (every `?` of its loop), or because it dies. What its transaction does then is for the
workers of the inbox to say.
-/

namespace Txbox

open Lib

/-- A message as `key_view::<str>` sees it: a missing key and one that is not UTF-8 are the same. -/
structure KafkaMessage where
  key : Option String
  deriving DecidableEq, Repr

/-- The id the loop takes from a message, if it has one. -/
def KafkaMessage.id (message : KafkaMessage) : Option MessageId :=
  match message.key with
  | some key => (StringNewtype.tryFrom key).toOption
  | none => none

/-- Where an instance is in a partition: the partition is not its own, or it is and it has yet to look for the end, or it has a next
offset. -/
inductive Position where
  | unassigned
  | reset
  | at (offset : Nat)
  deriving DecidableEq, Repr

/-- A message in `process`: where it comes from, and its id. -/
structure Delivery (P : Type) where
  partition : P
  offset : Nat
  id : MessageId

/-- The loop of an instance: its positions, and the message in hand. An instance that is not running has no partitions. -/
structure KafkaLoop (P : Type) where
  position : P → Position
  hand : Option (Delivery P)

/-- Not running. -/
def KafkaLoop.down {P : Type} : KafkaLoop P := ⟨fun _ => .unassigned, none⟩

/-- The inbox with its workers, one for every instance; the messages and the committed offset of every partition; the offsets from which
the group has begun to read it; the offset commits that were sent; and the loops. -/
structure Cluster (ε W P : Type) where
  inbox : State ε Unit W
  log : P → List KafkaMessage
  committed : P → Option Nat
  starts : P → List Nat
  commits : List (P × Nat)
  loop : W → KafkaLoop P

/-- The policy of the purging task: seven days. -/
def weekPolicy : RetentionPolicy := .new ⟨7 * 24 * 60 * 60 * 1000000000, by decide⟩

/-- The workers on PostgreSQL, with purges of this policy only. -/
def kafkaConfig (locksKnown : Bool) : Config := PgInbox.config locksKnown (· = weekPolicy)

/-- Where an instance begins to read a partition that becomes its own. -/
def Position.assigned : Option Nat → Position
  | some offset => .at offset
  | none => .reset

namespace Cluster

variable {ε W P : Type} [DecidableEq W] [DecidableEq P]

/-- The loop of one instance goes on. -/
def setLoop (s : Cluster ε W P) (w : W) (l : KafkaLoop P) : Cluster ε W P := { s with loop := Function.update s.loop w l }

/-- `commit_message` of a message, with which an instance is done. -/
def commitMessage (s : Cluster ε W P) (w : W) (position : P → Position) (p : P) (offset : Nat) : Cluster ε W P :=
  { s.setLoop w ⟨position, none⟩ with commits := (p, offset + 1) :: s.commits }

/-- The steps of the service and the broker. -/
inductive Step (locksKnown : Bool) (orders : Consumer) (s : Cluster ε W P) : Cluster ε W P → Prop
  | inbox {inbox : State ε Unit W} (h : (machine (kafkaConfig locksKnown)).step s.inbox inbox) :
      Step locksKnown orders s { s with inbox }
  | produce (p : P) (message : KafkaMessage) :
      Step locksKnown orders s { s with log := Function.update s.log p (s.log p ++ [message]) }
  | assign (w : W) (mine : P → Bool) :
      Step locksKnown orders s (s.setLoop w
        { s.loop w with position := fun p => if mine p then Position.assigned (s.committed p) else .unassigned })
  | reset (w : W) (p : P) (h : (s.loop w).position p = .reset) :
      Step locksKnown orders s
        { s.setLoop w { s.loop w with position := Function.update (s.loop w).position p (.at (s.log p).length) } with
          starts := Function.update s.starts p ((s.log p).length :: s.starts p) }
  | skip (w : W) {position : P → Position} (p : P) (offset : Nat) {message : KafkaMessage} (h : s.loop w = ⟨position, none⟩)
      (hp : position p = .at offset) (hm : (s.log p)[offset]? = some message) (hid : message.id = none) :
      Step locksKnown orders s (s.commitMessage w (Function.update position p (.at (offset + 1))) p offset)
  | receive (w : W) {position : P → Position} (p : P) (offset : Nat) {message : KafkaMessage} {id : MessageId}
      (h : s.loop w = ⟨position, none⟩) (hp : position p = .at offset) (hm : (s.log p)[offset]? = some message)
      (hid : message.id = some id) (hrest : (s.inbox.phase w).Resting) :
      Step locksKnown orders s
        { s.setLoop w ⟨Function.update position p (.at (offset + 1)), some ⟨p, offset, id⟩⟩ with
          inbox := s.inbox.set w (.opening (.process orders id)) }
  | stored (w : W) {position : P → Position} {d : Delivery P} {outcome : Outcome Unit} (h : s.loop w = ⟨position, some d⟩)
      (ha : (s.inbox.phase w).answer = some (.process orders d.id, .one (.ok outcome))) :
      Step locksKnown orders s (s.commitMessage w position d.partition d.offset)
  | exit (w : W) : Step locksKnown orders s (s.setLoop w .down)
  | lands (p : P) {offset : Nat} (h : (p, offset) ∈ s.commits) :
      Step locksKnown orders s { s with committed := Function.update s.committed p (some offset) }

end Cluster

end Txbox
