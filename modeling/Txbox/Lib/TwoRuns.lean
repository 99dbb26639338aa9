import Txbox.Lib.Prog

/-!
# Two runs of one program

A program that only makes calls of a kind (`Prog.Only`), run from two related states by calls of that kind that give equal replies and
keep the states related, ends in the same way in related states. What holds of a single run is the case in which the two states are
one.
-/

namespace Lib

namespace Prog

variable {Op : Type} {Reply : Op → Type} {α β σ : Type}

/-- Every call the program may make, whatever it is answered, is of a kind. -/
def Only (P : Op → Prop) : Prog Op Reply α → Prop
  | .ret _ => True
  | .panic _ => True
  | .call c k => P c ∧ ∀ r, Only P (k r)

section Only

variable {P : Op → Prop}

theorem Only.imp {Q : Op → Prop} {p : Prog Op Reply α} (h : Only P p) (hPQ : ∀ c, P c → Q c) : Only Q p := by
  induction p with
  | ret a => trivial
  | panic m => trivial
  | call c k ih => exact ⟨hPQ c h.1, fun r => ih r (h.2 r)⟩

/-- The rule of composition. -/
theorem only_bind {p : Prog Op Reply α} {f : α → Prog Op Reply β} (hp : Only P p) (hf : ∀ a, Only P (f a)) : Only P (p.bind f) := by
  induction p with
  | ret a => exact hf a
  | panic m => trivial
  | call c k ih => exact ⟨hp.1, fun r => ih r (hp.2 r)⟩

/-- The rule of a part that may fail. -/
theorem only_try {E : Type} {p : Prog Op Reply (Except E α)} {f : Except E α → Prog Op Reply β} (hp : Only P p)
    (herror : ∀ e, Only P (f (.error e))) (hok : ∀ a, Only P (f (.ok a))) : Only P (p.bind f) := by
  refine only_bind hp ?_
  intro r
  cases r with
  | error e => exact herror e
  | ok a => exact hok a

/-- The rule of one call. -/
theorem only_perform {c : Op} (h : P c) : Only P (perform c : Prog Op Reply (Reply c)) := ⟨h, fun _ => trivial⟩

end Only

/-- The interpreter answers the calls of a kind alike in related states, and keeps the states related. -/
def Relates (exec : (c : Op) → σ → Reply c × σ) (P : Op → Prop) (rel : σ → σ → Prop) : Prop :=
  ∀ c s t, P c → rel s t → (exec c s).1 = (exec c t).1 ∧ rel (exec c s).2 (exec c t).2

/-- Two runs from related states end in the same way, in related states. -/
theorem run_related {exec : (c : Op) → σ → Reply c × σ} {P : Op → Prop} {rel : σ → σ → Prop} (hexec : Relates exec P rel)
    {p : Prog Op Reply α} (hp : Only P p) {s t : σ} (h : rel s t) :
    (run exec none p s).1 = (run exec none p t).1 ∧ rel (run exec none p s).2 (run exec none p t).2 := by
  induction p generalizing s t with
  | ret a =>
    rw [run_ret, run_ret]
    exact ⟨rfl, h⟩
  | panic m =>
    rw [run_panic, run_panic]
    exact ⟨rfl, h⟩
  | call c k ih =>
    obtain ⟨hreply, hnext⟩ := hexec c s t hp.1 h
    rw [run_call, run_call, hreply]
    exact ih _ (hp.2 _) hnext

/-- What every call of a kind keeps, the run of a program that only makes such calls keeps. -/
theorem run_keeps {exec : (c : Op) → σ → Reply c × σ} {P : Op → Prop} {I : σ → Prop} (hexec : ∀ c s, P c → I s → I (exec c s).2)
    {p : Prog Op Reply α} (hp : Only P p) {s : σ} (h : I s) : I (run exec none p s).2 := by
  have hrel : Relates exec P (fun s t => s = t ∧ I s) := by
    rintro c s _ hc ⟨rfl, hs⟩
    exact ⟨rfl, rfl, hexec c s hc hs⟩
  have hst : s = s ∧ I s := ⟨rfl, h⟩
  exact (run_related hrel hp hst).2.2

end Prog

end Lib
