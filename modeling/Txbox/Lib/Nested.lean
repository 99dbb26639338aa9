import Mathlib.Tactic.Basic

/-!
# Nested savepoints

A working state with a stack of savepoints over it. Opening a savepoint saves the state as it stands; rolling back to the newest
one restores what it saved and leaves it open; releasing it forgets it and keeps the state. The last two fail when none is open.
-/

namespace Lib

/-- A state and the states its open savepoints saved, newest first. -/
structure Nested (σ : Type) where
  cur : σ
  saves : List σ
  deriving DecidableEq, Repr

namespace Nested

variable {σ : Type}

/-- A state with no savepoint open. -/
def start (s : σ) : Nested σ := ⟨s, []⟩

/-- Change the working state. -/
def modify (n : Nested σ) (f : σ → σ) : Nested σ := { n with cur := f n.cur }

/-- Open a savepoint. -/
def savepoint (n : Nested σ) : Nested σ := { n with saves := n.cur :: n.saves }

/-- Release the newest savepoint. -/
def release (n : Nested σ) : Option (Nested σ) :=
  match n.saves with
  | [] => none
  | _ :: rest => some { n with saves := rest }

/-- Roll back to the newest savepoint, which stays open. -/
def rollbackTo (n : Nested σ) : Option (Nested σ) :=
  match n.saves with
  | [] => none
  | s :: _ => some { n with cur := s }

@[simp] theorem modify_cur (n : Nested σ) (f : σ → σ) : (n.modify f).cur = f n.cur := rfl

@[simp] theorem modify_saves (n : Nested σ) (f : σ → σ) : (n.modify f).saves = n.saves := rfl

@[simp] theorem savepoint_cur (n : Nested σ) : n.savepoint.cur = n.cur := rfl

@[simp] theorem savepoint_saves (n : Nested σ) : n.savepoint.saves = n.cur :: n.saves := rfl

/-- A release that succeeds closes the newest savepoint and keeps the state. -/
theorem release_eq_some {n n' : Nested σ} (h : n.release = some n') :
    ∃ s, n.saves = s :: n'.saves ∧ n'.cur = n.cur := by
  obtain ⟨c, saves⟩ := n
  cases saves with
  | nil => nomatch h
  | cons s rest =>
    cases h
    exact ⟨s, rfl, rfl⟩

/-- A rollback that succeeds restores what the newest savepoint saved and keeps the savepoints. -/
theorem rollbackTo_eq_some {n n' : Nested σ} (h : n.rollbackTo = some n') :
    ∃ rest, n.saves = n'.cur :: rest ∧ n'.saves = n.saves := by
  obtain ⟨c, saves⟩ := n
  cases saves with
  | nil => nomatch h
  | cons s rest =>
    cases h
    exact ⟨rest, rfl, rfl⟩

/-- A release succeeds while a savepoint is open. -/
theorem exists_release {n : Nested σ} (h : n.saves ≠ []) : ∃ n', n.release = some n' := by
  obtain ⟨cur, saves⟩ := n
  cases saves with
  | nil => exact absurd rfl h
  | cons s rest => exact ⟨_, rfl⟩

/-- So does a rollback. -/
theorem exists_rollbackTo {n : Nested σ} (h : n.saves ≠ []) : ∃ n', n.rollbackTo = some n' := by
  obtain ⟨cur, saves⟩ := n
  cases saves with
  | nil => exact absurd rfl h
  | cons s rest => exact ⟨_, rfl⟩

end Nested

end Lib
