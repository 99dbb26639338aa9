import Txbox.Purge
import Txbox.Lib.System

/-!
# Purges at the same time

`docs/operations.md` asks that `purge` runs on one instance, since several compete to delete the same rows. Here any number of calls run
at the same time, beside transactions that commit new rows. A statement chooses its rows in the snapshot it begins with, and deletes
those of them that are still there when it comes to them. A row is known by its place in the heap (`ctid`), so one that was purged and
claimed again is another row.
-/

namespace Txbox

open Lib

/-- A row of the heap: its key, its other columns, and, once it is deleted, by which call and as of which time. -/
structure HeapRow (P Now C : Type) where
  key : String × String
  columns : C
  removed : Option (P × Now)

/-- What a statement chose: the places, the time it read, and how long the heap was. -/
structure Selection (Now : Type) where
  picked : Finset Nat
  time : Now
  size : Nat

/-- A call of `purge`: what is left of it, what its statement chose, what the one before had chosen, and how many statements it made. -/
structure Purging (ε Code Now B : Type) where
  left : PurgeProg ε Code Now B (PurgeResult ε)
  chosen : Option (Selection Now)
  last : Option (Selection Now)
  rounds : Nat

/-- The heap, the clock, and the calls. -/
structure Purges (ε Code P Now C B : Type) where
  heap : List (HeapRow P Now C)
  now : Now
  calls : P → Purging ε Code Now B

namespace Purges

variable {ε Code P Now C ι B : Type} [LinearOrder ι] [DecidableEq P] (server : PurgeServer Now C ι B)

/-- The row at a place, unless it is deleted. -/
def live (heap : List (HeapRow P Now C)) (c : Nat) : Option C :=
  match heap[c]? with
  | some ⟨_, columns, none⟩ => some columns
  | _ => none

/-- The rows that a call has deleted. -/
def removedBy (heap : List (HeapRow P Now C)) (p : P) : Finset Nat :=
  (Finset.range heap.length).filter fun c => (heap[c]?.bind HeapRow.removed).map Prod.fst = some p

/-- The sort column of the rows that are there. -/
def column (heap : List (HeapRow P Now C)) (c : Nat) : Option ι := (live heap c).map server.processedAt

/-- The heap after a call has deleted the rows at some places. -/
def remove (heap : List (HeapRow P Now C)) (hits : Finset Nat) (p : P) (time : Now) : List (HeapRow P Now C) :=
  heap.mapIdx fun c row => if c ∈ hits then { row with removed := some (p, time) } else row

/-- The rows of a selection that are still there. -/
def hits (heap : List (HeapRow P Now C)) (chosen : Selection Now) : Finset Nat := chosen.picked.filter fun c => (live heap c).isSome

/-- One of the calls goes on. -/
def set (s : Purges ε Code P Now C B) (p : P) (call : Purging ε Code Now B) : Purges ε Code P Now C B :=
  { s with calls := Function.update s.calls p call }

/-- A statement begins: it chooses its rows. -/
def choose (s : Purges ε Code P Now C B) (picker : Picker Nat ι) (p : P) (bound : B) (limit : Nat) : Purges ε Code P Now C B :=
  s.set p { s.calls p with
    chosen := some ⟨picker.pick (column server s.heap) (server.cutoff bound s.now) limit, s.now, s.heap.length⟩ }

/-- A statement ends: the rows of its choice that are still there are deleted, and the call goes on with their number. -/
def delete (s : Purges ε Code P Now C B) (p : P) (chosen : Selection Now)
    (k : Except (SqlxError ε Code) Nat → PurgeProg ε Code Now B (PurgeResult ε)) : Purges ε Code P Now C B :=
  { s with heap := remove s.heap (hits s.heap chosen) p chosen.time }.set p
    ⟨k (.ok (hits s.heap chosen).card), none, some chosen, (s.calls p).rounds + 1⟩

/-- What can happen: time passes, a transaction commits a new row, a statement of a call begins, ends or fails, or it ends and the
connection is lost before the call hears of it. With `alone` no statement begins while another one is under way. -/
inductive Step (alone : Prop) : Purges ε Code P Now C B → Purges ε Code P Now C B → Prop
  | tick (s) (now : Now) : Step alone s { s with now }
  | insert (s) (key : String × String) (columns : C) (h : ∀ row ∈ s.heap, row.removed = none → row.key ≠ key) :
      Step alone s { s with heap := s.heap ++ [⟨key, columns, none⟩] }
  | choose (s) (picker : Picker Nat ι) (p : P) {bound : B} {limit : Nat} {k} (hleft : (s.calls p).left = .call (.delete bound limit) k)
      (hnone : (s.calls p).chosen = none) (halone : alone → ∀ q, (s.calls q).chosen = none) :
      Step alone s (s.choose server picker p bound limit)
  | delete (s) (p : P) {bound : B} {limit : Nat} {k} {chosen : Selection Now}
      (hleft : (s.calls p).left = .call (.delete bound limit) k) (hchosen : (s.calls p).chosen = some chosen) :
      Step alone s (s.delete p chosen k)
  | fail (s) (p : P) {bound : B} {limit : Nat} {k} (e : SqlxError ε Code)
      (hleft : (s.calls p).left = .call (.delete bound limit) k) :
      Step alone s (s.set p { s.calls p with left := k (.error e), chosen := none })
  | lost (s) (p : P) {bound : B} {limit : Nat} {k} {chosen : Selection Now} (e : SqlxError ε Code)
      (hleft : (s.calls p).left = .call (.delete bound limit) k) (hchosen : (s.calls p).chosen = some chosen) :
      Step alone s (s.delete p chosen fun _ => k (.error e))

/-- The calls with what they bind, on any heap: each is the loop of `purge`, with any fuel. -/
def system [ToString Code] (alone : Prop) (bound : P → B) (batch : P → Nat) : System (Purges ε Code P Now C B) where
  init s := (∀ row ∈ s.heap, row.removed = none) ∧
    ∀ p, ∃ fuel, s.calls p = ⟨purgeLoop (bound p) (batch p) fuel 0, none, none, 0⟩
  step := Step server alone

end Purges

end Txbox
