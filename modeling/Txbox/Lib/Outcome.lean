import Txbox.Lib.Interp
import Txbox.Lib.TwoRuns

/-!
# What a program comes to

A complete run with the message of the panic that ended it, if one did (`Prog.outcome`), and the rule of simulation: where one
interpreter answers the calls of a run as another one does, the program comes to the same on both.
-/

namespace Lib

namespace Prog

variable {Op Op' : Type} {Reply : Op → Type} {Reply' : Op' → Type} {α β σ τ : Type}

/-- Run a program to its end: its result, or the message it panicked with. -/
def outcome (exec : (c : Op) → σ → Reply c × σ) : Prog Op Reply α → σ → Except String α × σ
  | .ret a, s => (.ok a, s)
  | .panic message, s => (.error message, s)
  | .call c k, s => outcome exec (k (exec c s).1) (exec c s).2

variable {exec : (c : Op) → σ → Reply c × σ}

@[simp] theorem outcome_ret (a : α) (s : σ) : outcome exec (.ret a : Prog Op Reply α) s = (.ok a, s) := rfl

@[simp] theorem outcome_pure (a : α) (s : σ) : outcome exec (pure a : Prog Op Reply α) s = (.ok a, s) := rfl

@[simp] theorem outcome_panic (m : String) (s : σ) : outcome exec (.panic m : Prog Op Reply α) s = (.error m, s) := rfl

@[simp] theorem outcome_perform (c : Op) (s : σ) :
    outcome exec (perform c : Prog Op Reply (Reply c)) s = (.ok (exec c s).1, (exec c s).2) := rfl

/-- What follows a first outcome: the second part, or the panic of the first. -/
def andThen (r : Except String α × σ) (f : α → σ → Except String β × σ) : Except String β × σ :=
  match r with
  | (.ok a, s) => f a s
  | (.error m, s) => (.error m, s)

@[simp] theorem andThen_ok (a : α) (s : σ) (f : α → σ → Except String β × σ) : andThen (.ok a, s) f = f a s := rfl

@[simp] theorem andThen_error (m : String) (s : σ) (f : α → σ → Except String β × σ) : andThen (.error m, s) f = (.error m, s) := rfl

/-- The rule of composition. -/
@[simp] theorem outcome_bind (p : Prog Op Reply α) (f : α → Prog Op Reply β) (s : σ) :
    outcome exec (p.bind f) s = andThen (outcome exec p s) fun a s' => outcome exec (f a) s' := by
  induction p generalizing s with
  | ret a => rfl
  | panic m => rfl
  | call c k ih => exact ih _ _

@[simp] theorem outcome_do (p : Prog Op Reply α) (f : α → Prog Op Reply β) (s : σ) :
    outcome exec (p >>= f) s = andThen (outcome exec p s) fun a s' => outcome exec (f a) s' := outcome_bind p f s

/-- A call that is carried out by a program. -/
@[simp] theorem outcome_interp_perform (f : (c : Op') → Prog Op Reply (Reply' c)) (c : Op') (s : σ) :
    outcome exec ((perform c).interp f) s = outcome exec (f c) s := by
  rw [perform, interp, outcome_bind]
  rcases outcome exec (f c) s with ⟨r, s'⟩
  cases r <;> rfl

/-- The calls of a run are of the kinds the program makes. -/
theorem steps_of_only {P : Op → Prop} {p : Prog Op Reply α} (hp : Only P p) {s : σ} {step : σ × Op × σ} (hstep : step ∈ steps exec p s) :
    P step.2.1 := by
  induction p generalizing s with
  | ret a => simp [steps] at hstep
  | panic m => simp [steps] at hstep
  | call c k ih =>
    rcases List.mem_cons.1 hstep with rfl | hstep
    · exact hp.1
    · exact ih _ (hp.2 _) hstep

/-- A program makes at most so many calls of a kind, whatever they are answered. -/
def AtMost (kind : Op → Bool) : Nat → Prog Op Reply α → Prop
  | _, .ret _ => True
  | _, .panic _ => True
  | n, .call c k => (kind c).toNat ≤ n ∧ ∀ r, AtMost kind (n - (kind c).toNat) (k r)

section AtMost

variable {kind : Op → Bool}

theorem AtMost.mono {m n : Nat} {p : Prog Op Reply α} (h : AtMost kind m p) (hle : m ≤ n) : AtMost kind n p := by
  induction p generalizing m n with
  | ret a => trivial
  | panic message => trivial
  | call c k ih => exact ⟨Nat.le_trans h.1 hle, fun r => ih r (h.2 r) (Nat.sub_le_sub_right hle _)⟩

/-- The rule of composition. -/
theorem atMost_bind {m n : Nat} {p : Prog Op Reply α} {f : α → Prog Op Reply β} (hp : AtMost kind m p) (hf : ∀ a, AtMost kind n (f a)) :
    AtMost kind (m + n) (p.bind f) := by
  induction p generalizing m with
  | ret a => exact (hf a).mono (Nat.le_add_left n m)
  | panic message => trivial
  | call c k ih =>
    refine ⟨Nat.le_trans hp.1 (Nat.le_add_right m n), ?_⟩
    intro r
    rw [Nat.sub_add_comm hp.1]
    exact ih r (hp.2 r)

/-- A run makes no more. -/
theorem countP_steps_le {n : Nat} {p : Prog Op Reply α} (hp : AtMost kind n p) (s : σ) :
    (steps exec p s).countP (fun step => kind step.2.1) ≤ n := by
  induction p generalizing n s with
  | ret a => exact Nat.zero_le n
  | panic m => exact Nat.zero_le n
  | call c k ih =>
    have hrest := ih _ (hp.2 (exec c s).1) (exec c s).2
    have hfirst := hp.1
    rw [steps, List.countP_cons]
    cases hc : kind c <;> simp [hc] at hrest hfirst ⊢ <;> omega

end AtMost

/-- The rule of simulation. -/
theorem outcome_simulated {exec' : (c : Op) → τ → Reply c × τ} {made : σ → Op → Prop} {rel : σ → τ → Prop}
    (hexec : ∀ c s t, made s c → rel s t → (exec c s).1 = (exec' c t).1 ∧ rel (exec c s).2 (exec' c t).2)
    {p : Prog Op Reply α} {s : σ} {t : τ} (hmade : ∀ step ∈ steps exec p s, made step.1 step.2.1) (h : rel s t) :
    (outcome exec p s).1 = (outcome exec' p t).1 ∧ rel (outcome exec p s).2 (outcome exec' p t).2 := by
  induction p generalizing s t with
  | ret a => exact ⟨rfl, h⟩
  | panic m => exact ⟨rfl, h⟩
  | call c k ih =>
    obtain ⟨hreply, hnext⟩ := hexec c s t (hmade _ List.mem_cons_self) h
    have hrest : ∀ step ∈ steps exec (k (exec c s).1) (exec c s).2, made step.1 step.2.1 :=
      fun step hstep => hmade step (List.mem_cons_of_mem _ hstep)
    simp only [outcome, ← hreply]
    exact ih _ hrest hnext

end Prog

end Lib
