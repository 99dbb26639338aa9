import Txbox.Lib.Interp
import Txbox.Lib.TwoRuns

/-!
# What a program has done, and what is left of it

A program becomes another by making calls and getting replies (`Prog.Becomes`), whatever the other side answers. A condition on
the calls made so far and the next one is a contract whose state is the list of the calls (`Prog.history`): what the weakest
precondition proves of a program then holds at every point of every run of it.
-/

namespace Lib

namespace Prog

variable {Op : Type} {Reply : Op → Type} {α : Type}

/-- A program makes the calls of a list, gets the replies of the list, and is then another program. -/
inductive Becomes : Prog Op Reply α → List ((c : Op) × Reply c) → Prog Op Reply α → Prop where
  | refl (p : Prog Op Reply α) : Becomes p [] p
  | call {c : Op} {k : Reply c → Prog Op Reply α} {r : Reply c} {calls : List ((c : Op) × Reply c)} {q : Prog Op Reply α}
      (h : Becomes (k r) calls q) : Becomes (.call c k) (⟨c, r⟩ :: calls) q

/-- A program whose calls are carried out by programs that only make calls of a kind only makes such calls. -/
theorem only_interp {Op' : Type} {Reply' : Op' → Type} {P : Op' → Prop} {f : (c : Op) → Prog Op' Reply' (Reply c)}
    (hf : ∀ c, Only P (f c)) (p : Prog Op Reply α) : Only P (p.interp f) := by
  induction p with
  | ret a => trivial
  | panic m => trivial
  | call c k ih => exact only_bind (hf c) ih

/-- The contract of a program that makes a call only where the calls so far allow it, on a side that gives only some replies. -/
def history (gives : (c : Op) → Reply c → Prop) (allows : List ((c : Op) × Reply c) → Op → Prop) :
    Contract Op Reply (List ((c : Op) × Reply c)) where
  pre calls c := allows calls c
  post calls c r calls' := gives c r ∧ calls' = calls ++ [⟨c, r⟩]

section History

variable {gives : (c : Op) → Reply c → Prop} {allows : List ((c : Op) × Reply c) → Op → Prop}
  {Q : α → List ((c : Op) × Reply c) → Prop}

/-- What is left of a program keeps to the contract. -/
theorem wp_of_becomes {p q : Prog Op Reply α} {before calls : List ((c : Op) × Reply c)}
    (h : wp (history gives allows) Q p before) (hb : Becomes p calls q) (hgives : ∀ e ∈ calls, gives e.1 e.2) :
    wp (history gives allows) Q q (before ++ calls) := by
  induction hb generalizing before with
  | refl p =>
    rw [List.append_nil]
    exact h
  | @call c k r calls q _ ih =>
    have hreply : gives c r := hgives ⟨c, r⟩ List.mem_cons_self
    have hnext := ih (h.2 r _ ⟨hreply, rfl⟩) (fun e he => hgives e (List.mem_cons_of_mem _ he))
    rwa [List.append_assoc, List.singleton_append] at hnext

/-- The rule of one call. -/
theorem wp_history_perform {c : Op} {Q : Reply c → List ((c : Op) × Reply c) → Prop} {calls : List ((c : Op) × Reply c)}
    (hc : allows calls c) (hQ : ∀ r, gives c r → Q r (calls ++ [⟨c, r⟩])) : wp (history gives allows) Q (perform c) calls := by
  refine ⟨hc, ?_⟩
  rintro r calls' ⟨hr, rfl⟩
  exact hQ r hr

/-- The rule of one call and what follows it. -/
theorem wp_history_call {c : Op} {k : Reply c → Prog Op Reply α} {calls : List ((c : Op) × Reply c)} (hc : allows calls c)
    (hk : ∀ r, gives c r → wp (history gives allows) Q (k r) (calls ++ [⟨c, r⟩])) :
    wp (history gives allows) Q ((perform c).bind k) calls := wp_bind (wp_history_perform hc hk)

end History

end Prog

end Lib
