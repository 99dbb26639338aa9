import Mathlib.Logic.Relation
import Mathlib.Order.WellFounded
import Mathlib.Data.Fintype.Order
import Mathlib.Order.RelClasses
import Mathlib.Data.Set.Finite.Basic

/-!
# Ordered locking

Agents hold keys and each waits for at most one key. When every agent waits for a key that ranks above every key it holds, the
relation "waits for a key held by" has no cycle (`OrderedLocking.acyclic`), and among finitely many agents some agent is free to
go on (`OrderedLocking.exists_free`).
-/

namespace Lib

variable {A K R : Type} [Preorder R]

/-- `a` waits for a key that `b`, another agent, holds. -/
def Blocked (waits : A → Option K) (holds : A → K → Prop) (a b : A) : Prop :=
  a ≠ b ∧ ∃ k, waits a = some k ∧ holds b k

/-- Every agent waits only for a key that ranks above all the keys it holds. -/
def OrderedLocking (rank : K → R) (waits : A → Option K) (holds : A → K → Prop) : Prop :=
  ∀ a k, waits a = some k → ∀ h, holds a h → rank h < rank k

namespace OrderedLocking

variable {rank : K → R} {waits : A → Option K} {holds : A → K → Prop}

/-- Along a chain of waiting agents the keys waited for rise in rank. -/
theorem rank_lt (ho : OrderedLocking rank waits holds) {a b : A} (h : Relation.TransGen (Blocked waits holds) a b)
    {k l : K} (hk : waits a = some k) (hl : waits b = some l) : rank k < rank l := by
  induction h generalizing l with
  | single h =>
    obtain ⟨_, k', hw, hh⟩ := h
    rw [hk] at hw
    cases hw
    exact ho _ l hl k hh
  | tail _ h ih =>
    obtain ⟨_, k', hw, hh⟩ := h
    exact (ih hw).trans (ho _ l hl k' hh)

/-- There is no cycle of agents each waiting for a key that the next holds. -/
theorem acyclic (ho : OrderedLocking rank waits holds) (a : A) : ¬Relation.TransGen (Blocked waits holds) a a := by
  intro h
  obtain ⟨b, hb, _⟩ := Relation.TransGen.head'_iff.1 h
  obtain ⟨_, k, hk, _⟩ := hb
  exact lt_irrefl _ (ho.rank_lt h hk hk)

/-- Among finitely many agents, if every agent of a set is free or blocked by another of the set, then some agent of the set is
free. -/
theorem exists_free [Finite A] (ho : OrderedLocking rank waits holds) {P Free : A → Prop}
    (hP : ∀ a, P a → Free a ∨ ∃ b, P b ∧ Blocked waits holds a b) {a : A} (ha : P a) : ∃ b, P b ∧ Free b := by
  have htrans : IsTrans A (fun x y => Relation.TransGen (Blocked waits holds) y x) := ⟨fun _ _ _ h1 h2 => h2.trans h1⟩
  have hirr : Std.Irrefl (fun x y => Relation.TransGen (Blocked waits holds) y x) := ⟨fun x h => ho.acyclic x h⟩
  have hwf := Finite.wellFounded_of_trans_of_irrefl (fun x y => Relation.TransGen (Blocked waits holds) y x)
  induction a using hwf.induction with
  | h a ih =>
    rcases hP a ha with hf | ⟨b, hb, hab⟩
    · exact ⟨a, ha, hf⟩
    · exact ih b (Relation.TransGen.single hab) hb

end OrderedLocking

end Lib
