import Txbox.Lib.Prog

/-!
# Programs carried out by other programs

A program over one signature of calls becomes a program over another when every call is carried out by a program (`Prog.interp`).
What holds at the calls of a run is proved by the rules of `Prog.Along`: under an assumption on the calls, every call of the run is
made where a condition holds, and the run returns only where a postcondition does. A panic ends a run and promises nothing.
-/

namespace Lib

namespace Prog

variable {Op Op' : Type} {Reply : Op → Type} {Reply' : Op' → Type} {α β σ : Type}

/-- Composition is associative. -/
theorem bind_assoc {γ : Type} (p : Prog Op Reply α) (f : α → Prog Op Reply β) (g : β → Prog Op Reply γ) :
    (p.bind f).bind g = p.bind fun a => (f a).bind g := by
  induction p with
  | ret a => rfl
  | panic m => rfl
  | call c k ih => simp only [bind, ih]

/-- Carry out every call by a program. -/
def interp (f : (c : Op) → Prog Op' Reply' (Reply c)) : Prog Op Reply α → Prog Op' Reply' α
  | .ret a => .ret a
  | .panic message => .panic message
  | .call c k => (f c).bind fun r => interp f (k r)

/-- A composed program is carried out part by part. -/
theorem interp_bind (f : (c : Op) → Prog Op' Reply' (Reply c)) (p : Prog Op Reply α) (g : α → Prog Op Reply β) :
    (p.bind g).interp f = (p.interp f).bind fun a => (g a).interp f := by
  induction p with
  | ret a => rfl
  | panic m => rfl
  | call c k ih =>
    simp only [bind, interp, ih, bind_assoc]

/-- A program whose calls are carried out by programs that come to the same calls is the program. -/
theorem interp_interp_eq {f : (c : Op) → Prog Op' Reply' (Reply c)} {g : (c : Op') → Prog Op Reply (Reply' c)}
    (h : ∀ c, (f c).interp g = perform c) (p : Prog Op Reply α) : (p.interp f).interp g = p := by
  induction p with
  | ret a => rfl
  | panic m => rfl
  | call c k ih =>
    simp only [interp, interp_bind, h, ih]
    rfl

/-- Along the run from a state, as long as the calls meet `C`: every call is made where `P` holds, and the run returns where `Q`
does. -/
def Along (exec : (c : Op) → σ → Reply c × σ) (C P : σ → Op → Prop) (Q : α → σ → Prop) : Prog Op Reply α → σ → Prop
  | .ret a, s => Q a s
  | .panic _, _ => True
  | .call c k, s => C s c → P s c ∧ Along exec C P Q (k (exec c s).1) (exec c s).2

section Along

variable {exec : (c : Op) → σ → Reply c × σ} {C P : σ → Op → Prop} {Q : α → σ → Prop}

/-- The rule of composition. -/
theorem along_bind {R : β → σ → Prop} {p : Prog Op Reply α} {f : α → Prog Op Reply β} {s : σ}
    (h : Along exec C P (fun a s' => Along exec C P R (f a) s') p s) : Along exec C P R (p.bind f) s := by
  induction p generalizing s with
  | ret a => exact h
  | panic m => trivial
  | call c k ih =>
    intro hc
    exact ⟨(h hc).1, ih _ (h hc).2⟩

/-- The rule of one call. -/
theorem along_perform {c : Op} {Q : Reply c → σ → Prop} {s : σ} (h : C s c → P s c ∧ Q (exec c s).1 (exec c s).2) :
    Along exec C P Q (perform c) s := h

/-- The rule of consequence. -/
theorem Along.mono {Q' : α → σ → Prop} {p : Prog Op Reply α} {s : σ} (h : Along exec C P Q p s) (hQ : ∀ a s', Q a s' → Q' a s') :
    Along exec C P Q' p s := by
  induction p generalizing s with
  | ret a => exact hQ a s h
  | panic m => trivial
  | call c k ih =>
    intro hc
    exact ⟨(h hc).1, ih _ (h hc).2⟩

/-- What the program of every call keeps, a program that is carried out by them keeps. -/
theorem along_interp {Op₀ : Type} {Reply₀ : Op₀ → Type} {f : (c : Op₀) → Prog Op Reply (Reply₀ c)} {I : σ → Prop}
    (hf : ∀ c s, I s → Along exec C P (fun _ s' => I s') (f c) s) (p : Prog Op₀ Reply₀ α) {s : σ} (hs : I s) :
    Along exec C P (fun _ s' => I s') (p.interp f) s := by
  induction p generalizing s with
  | ret a => exact hs
  | panic m => trivial
  | call c k ih =>
    refine along_bind ((hf c s hs).mono ?_)
    intro r s' hs'
    exact ih r hs'

/-- In a run whose calls all meet the assumption, every call is made where the condition holds. -/
theorem of_mem_steps {p : Prog Op Reply α} {s : σ} (h : Along exec C P Q p s)
    (hC : ∀ step ∈ steps exec p s, C step.1 step.2.1) {step : σ × Op × σ} (hstep : step ∈ steps exec p s) :
    P step.1 step.2.1 := by
  induction p generalizing s with
  | ret a => simp [steps] at hstep
  | panic m => simp [steps] at hstep
  | call c k ih =>
    obtain ⟨hP, hrest⟩ := h (hC (s, c, (exec c s).2) List.mem_cons_self)
    rcases List.mem_cons.1 hstep with rfl | hstep
    · exact hP
    · exact ih _ hrest (fun step' hstep' => hC step' (List.mem_cons_of_mem _ hstep')) hstep

end Along

end Prog

end Lib
