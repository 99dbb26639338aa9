import Mathlib.Tactic.Basic

/-!
# Programs that make calls

A program over a signature of calls returns a value, panics, or makes a call and goes on from the reply. What the calls do is
not part of the program: a program runs against an interpreter (`Prog.run`), which may be cut off after any number of calls,
and is reasoned about against a contract of its calls (`Prog.wp`), a demonic weakest precondition under which the other side may
give any reply the contract allows.
-/

namespace Lib

/-- A program over the calls `Op`, whose replies are of the types `Reply`, with results of type `α`. -/
inductive Prog (Op : Type) (Reply : Op → Type) (α : Type) where
  | ret (a : α)
  | panic (message : String)
  | call (c : Op) (k : Reply c → Prog Op Reply α)

namespace Prog

variable {Op : Type} {Reply : Op → Type} {α β σ : Type}

/-- Run a program and go on with its result; a panic ends both. -/
def bind (p : Prog Op Reply α) (f : α → Prog Op Reply β) : Prog Op Reply β :=
  match p with
  | .ret a => f a
  | .panic message => .panic message
  | .call c k => .call c (fun r => (k r).bind f)

instance : Monad (Prog Op Reply) where
  pure := .ret
  bind := bind

/-- The program that makes one call and returns its reply. -/
def perform (c : Op) : Prog Op Reply (Reply c) := .call c .ret

/-! ## Running -/

/-- How a run ended: with a result, with a panic, or cut off in the middle (the task was dropped at an await point). -/
inductive Ended (α : Type) where
  | returned (a : α)
  | panicked
  | dropped
  deriving DecidableEq, Repr

/-- Run a program against an interpreter of its calls. With `cut = some n` the run is dropped while the call after the first `n`
calls is in flight. -/
def run (exec : (c : Op) → σ → Reply c × σ) : (cut : Option Nat) → Prog Op Reply α → σ → Ended α × σ
  | _, .ret a, s => (.returned a, s)
  | _, .panic _, s => (.panicked, s)
  | some 0, .call _ _, s => (.dropped, s)
  | some (n + 1), .call c k, s => run exec (some n) (k (exec c s).1) (exec c s).2
  | none, .call c k, s => run exec none (k (exec c s).1) (exec c s).2

/-- The calls of a complete run with their replies, in order. -/
def trace (exec : (c : Op) → σ → Reply c × σ) : Prog Op Reply α → σ → List ((c : Op) × Reply c)
  | .ret _, _ => []
  | .panic _, _ => []
  | .call c k, s => ⟨c, (exec c s).1⟩ :: trace exec (k (exec c s).1) (exec c s).2

/-- The calls of a complete run with the states before and after them, in order. -/
def steps (exec : (c : Op) → σ → Reply c × σ) : Prog Op Reply α → σ → List (σ × Op × σ)
  | .ret _, _ => []
  | .panic _, _ => []
  | .call c k, s => (s, c, (exec c s).2) :: steps exec (k (exec c s).1) (exec c s).2

section Run

variable (exec : (c : Op) → σ → Reply c × σ)

@[simp] theorem run_ret (cut : Option Nat) (a : α) (s : σ) :
    run exec cut (.ret a : Prog Op Reply α) s = (.returned a, s) := by
  cases cut <;> rfl

@[simp] theorem run_panic (cut : Option Nat) (m : String) (s : σ) :
    run exec cut (.panic m : Prog Op Reply α) s = (.panicked, s) := by
  cases cut <;> rfl

@[simp] theorem run_call (c : Op) (k : Reply c → Prog Op Reply α) (s : σ) :
    run exec none (.call c k) s = run exec none (k (exec c s).1) (exec c s).2 := rfl

/-- A program that makes one call and returns its reply. -/
theorem run_perform (c : Op) (s : σ) : run exec none (perform c : Prog Op Reply (Reply c)) s = (.returned (exec c s).1, (exec c s).2) := rfl

/-- A program whose first part returns runs on as its second part. -/
theorem run_bind {p : Prog Op Reply α} {f : α → Prog Op Reply β} {s s' : σ} {a : α}
    (h : run exec none p s = (.returned a, s')) : run exec none (p.bind f) s = run exec none (f a) s' := by
  induction p generalizing s with
  | ret b =>
    rw [run_ret] at h
    obtain ⟨hb, hs⟩ := Prod.mk.inj h
    cases hb
    rw [bind, hs]
  | panic m =>
    rw [run_panic] at h
    cases (Prod.mk.inj h).1
  | call c k ih => exact ih _ h

/-- A program that begins with a call runs on from its reply. -/
theorem run_perform_bind {c : Op} {k : Reply c → Prog Op Reply α} {s s' : σ} {r : Reply c} (h : exec c s = (r, s')) :
    run exec none ((perform c).bind k) s = run exec none (k r) s' := by
  rw [perform, bind, run_call, h]
  rfl

/-- A run cut after some calls is dropped, or is the whole run. -/
theorem run_some (n : Nat) (p : Prog Op Reply α) (s : σ) :
    (run exec (some n) p s).1 = .dropped ∨ run exec (some n) p s = run exec none p s := by
  induction p generalizing n s with
  | ret a => exact Or.inr rfl
  | panic m => exact Or.inr rfl
  | call c k ih =>
    cases n with
    | zero => exact Or.inl rfl
    | succ n => exact ih _ n _

/-- What every call does, the steps of a run do. -/
theorem steps_of_exec {P : σ → Op → σ → Prop} (h : ∀ c s, P s c (exec c s).2) {p : Prog Op Reply α} {s : σ} {step : σ × Op × σ}
    (hstep : step ∈ steps exec p s) : P step.1 step.2.1 step.2.2 := by
  induction p generalizing s with
  | ret a => simp [steps] at hstep
  | panic m => simp [steps] at hstep
  | call c k ih =>
    rcases List.mem_cons.1 hstep with rfl | hstep
    · exact h c s
    · exact ih _ hstep

/-- A run that returned, cut or not, is the run that is not cut. -/
theorem run_none_of_returned {cut : Option Nat} {p : Prog Op Reply α} {s s' : σ} {a : α}
    (h : run exec cut p s = (.returned a, s')) : run exec none p s = (.returned a, s') := by
  cases cut with
  | none => exact h
  | some n =>
    rcases run_some exec n p s with hd | hn
    · rw [h] at hd
      cases hd
    · rw [← hn]
      exact h

end Run

/-! ## Contracts and weakest preconditions -/

/-- A contract of the calls over a state: when a call may be made, and what the state and the reply may be after it. -/
structure Contract (Op : Type) (Reply : Op → Type) (σ : Type) where
  pre : σ → Op → Prop
  post : σ → (c : Op) → Reply c → σ → Prop

/-- The program makes only calls the contract allows, does not panic, and returns only where `Q` holds, whatever replies the
contract lets the other side give. -/
def wp (K : Contract Op Reply σ) (Q : α → σ → Prop) : Prog Op Reply α → σ → Prop
  | .ret a, s => Q a s
  | .panic _, _ => False
  | .call c k, s => K.pre s c ∧ ∀ r s', K.post s c r s' → wp K Q (k r) s'

section Wp

variable {K : Contract Op Reply σ} {Q Q' : α → σ → Prop}

/-- The rule of composition. -/
theorem wp_bind {R : β → σ → Prop} {p : Prog Op Reply α} {f : α → Prog Op Reply β} {s : σ}
    (h : wp K (fun a s' => wp K R (f a) s') p s) : wp K R (p.bind f) s := by
  induction p generalizing s with
  | ret a => exact h
  | panic m => exact h
  | call c k ih => exact ⟨h.1, fun r s' hr => ih r (h.2 r s' hr)⟩

/-- A program run against an interpreter that keeps the contract, cut anywhere: what every allowed call preserves holds at its end,
and if it returned, so does its postcondition. -/
theorem run_of_wp {exec : (c : Op) → σ → Reply c × σ} {I : σ → Prop}
    (hexec : ∀ c s, K.pre s c → K.post s c (exec c s).1 (exec c s).2) (hI : ∀ c s, I s → K.pre s c → I (exec c s).2)
    (cut : Option Nat) {p : Prog Op Reply α} {s : σ} (h : wp K Q p s) (hs : I s) :
    I (run exec cut p s).2 ∧ ∀ a, (run exec cut p s).1 = .returned a → Q a (run exec cut p s).2 := by
  induction p generalizing cut s with
  | ret a =>
    rw [run_ret]
    refine ⟨hs, fun b hb => ?_⟩
    cases hb
    exact h
  | panic m => exact h.elim
  | call c k ih =>
    have hgo := h.2 _ _ (hexec c s h.1)
    have hnext := hI c s hs h.1
    cases cut with
    | none => exact ih _ none hgo hnext
    | some n =>
      cases n with
      | zero => exact ⟨hs, fun b hb => by nomatch hb⟩
      | succ n => exact ih _ (some n) hgo hnext

end Wp

end Prog

end Lib
