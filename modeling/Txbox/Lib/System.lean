import Mathlib.Logic.Relation
import Mathlib.Tactic.Basic

/-!
# Transition systems

The states a system can reach from its initial states, and the rule of invariants over them.
-/

namespace Lib

/-- A transition system: where it may start, and the steps it may take. -/
structure System (σ : Type) where
  init : σ → Prop
  step : σ → σ → Prop

namespace System

variable {σ : Type} {m : System σ}

/-- The states reached by any number of steps from an initial state. -/
inductive Reachable (m : System σ) : σ → Prop
  | init {s : σ} (h : m.init s) : Reachable m s
  | step {s s' : σ} (h : Reachable m s) (hs : m.step s s') : Reachable m s'

/-- What holds at the start and is kept by every step from a reachable state holds in every reachable state. -/
theorem Reachable.invariant {I : σ → Prop} (h0 : ∀ s, m.init s → I s)
    (hstep : ∀ s s', m.Reachable s → I s → m.step s s' → I s') {s : σ} (h : m.Reachable s) : I s := by
  induction h with
  | init h => exact h0 _ h
  | step h hs ih => exact hstep _ _ h ih hs

/-- The states that a reachable state runs to are reachable. -/
theorem Reachable.run {s s' : σ} (h : m.Reachable s) (hrun : Relation.ReflTransGen m.step s s') : m.Reachable s' := by
  induction hrun with
  | refl => exact h
  | tail _ hstep ih => exact ih.step hstep

end System

end Lib
