import Mathlib.Data.List.TakeWhile

/-!
# Named savepoints

A working state with a stack of savepoints that have names, as SQL has them: a command on a name finds the newest savepoint of that
name and takes those above it with it. Two parties that use different names may share one stack: what the upper one does is the
same whatever lies below it (`apply_above`), and the lower one gets its savepoint back whatever lies above it (`release_above`,
`restore_above`).
-/

namespace Lib

/-- The savepoint commands of SQL. -/
inductive Command (N : Type) where
  | savepoint (name : N)
  | release (name : N)
  | rollbackTo (name : N)
  deriving DecidableEq, Repr

/-- The name a command is about. -/
def Command.name {N : Type} : Command N → N
  | savepoint name => name
  | release name => name
  | rollbackTo name => name

/-- A state and its open savepoints with what they saved, newest first. -/
structure Named (N σ : Type) where
  cur : σ
  saves : List (N × σ)
  deriving DecidableEq, Repr

namespace Named

variable {N σ τ : Type}

/-- A state with no savepoint open. -/
def start (s : σ) : Named N σ := ⟨s, []⟩

/-- The same stack over other states. -/
def map (f : σ → τ) (w : Named N σ) : Named N τ := ⟨f w.cur, w.saves.map fun p => (p.1, f p.2)⟩

/-- The stack on top of another one. -/
def above (w : Named N σ) (base : List (N × σ)) : Named N σ := { w with saves := w.saves ++ base }

/-- No savepoint of the name is open. -/
def Avoids (name : N) (saves : List (N × σ)) : Prop := ∀ p ∈ saves, p.1 ≠ name

variable [DecidableEq N]

/-- The newest savepoint of a name, and those below it. -/
def since (name : N) (saves : List (N × σ)) : List (N × σ) := saves.dropWhile fun p => p.1 ≠ name

/-- Open a savepoint. Where `replaces` is set an older one of the same name is forgotten. -/
def savepoint (replaces : Bool) (name : N) (w : Named N σ) : Named N σ :=
  { w with saves := (name, w.cur) :: if replaces then w.saves.eraseP fun p => p.1 = name else w.saves }

/-- Release the newest savepoint of a name, and those above it. -/
def release (name : N) (w : Named N σ) : Option (Named N σ) :=
  match since name w.saves with
  | [] => none
  | _ :: rest => some { w with saves := rest }

/-- Go back to the newest savepoint of a name, which stays open; those above it are gone. -/
def restore (name : N) (saves : List (N × σ)) : Option (Named N σ) :=
  match since name saves with
  | [] => none
  | p :: rest => some ⟨p.2, p :: rest⟩

/-- One command. It fails when no savepoint of the name is open. -/
def apply (replaces : Bool) (c : Command N) (w : Named N σ) : Option (Named N σ) :=
  match c with
  | .savepoint name => some (w.savepoint replaces name)
  | .release name => w.release name
  | .rollbackTo name => restore name w.saves

/-! ## The upper part of a stack -/

/-- Nothing is found under a name that is not there. -/
theorem since_of_avoids {name : N} {saves : List (N × σ)} (h : Avoids name saves) : since name saves = [] := by
  rw [since, List.dropWhile_eq_nil_iff]
  intro p hp
  simpa using h p hp

/-- A name that is not below is found above, or not at all. -/
theorem since_append {name : N} (saves : List (N × σ)) {base : List (N × σ)} (h : Avoids name base) :
    since name (saves ++ base) = if since name saves = [] then [] else since name saves ++ base := by
  induction saves with
  | nil => simpa [since] using since_of_avoids h
  | cons p saves ih =>
    unfold since at ih ⊢
    by_cases hp : p.1 = name
    · simp [hp]
    · have hskip : ∀ l, (p :: l).dropWhile (fun q => decide (q.1 ≠ name)) = l.dropWhile fun q => decide (q.1 ≠ name) :=
        fun l => by simp [hp]
      rw [List.cons_append, hskip, hskip]
      exact ih

/-- A savepoint that is not below is forgotten above, if it is there. -/
theorem eraseP_append {name : N} (saves : List (N × σ)) {base : List (N × σ)} (h : Avoids name base) :
    (saves ++ base).eraseP (fun p => p.1 = name) = saves.eraseP (fun p => p.1 = name) ++ base := by
  induction saves with
  | nil =>
    refine List.eraseP_of_forall_not ?_
    intro p hp
    simpa using h p hp
  | cons p saves ih =>
    by_cases hp : p.1 = name
    · simp [hp]
    · simpa [List.eraseP_cons, hp] using ih

/-- A command on a name that is not below does the same whatever is below. -/
theorem apply_above (replaces : Bool) {c : Command N} (w : Named N σ) {base : List (N × σ)} (h : Avoids c.name base) :
    (w.above base).apply replaces c = (w.apply replaces c).map (·.above base) := by
  cases c with
  | savepoint name =>
    cases replaces with
    | true =>
      rw [Command.name] at h
      simp [apply, savepoint, above, eraseP_append w.saves h]
    | false => simp [apply, savepoint, above]
  | release name =>
    rw [Command.name] at h
    simp only [apply, release, above, since_append w.saves h]
    cases hs : since name w.saves with
    | nil => simp
    | cons p rest => simp
  | rollbackTo name =>
    rw [Command.name] at h
    simp only [apply, restore, above, since_append w.saves h]
    cases hs : since name w.saves with
    | nil => simp
    | cons p rest => simp

/-- A command does the same on other states. -/
theorem apply_map (replaces : Bool) (c : Command N) (f : σ → τ) (w : Named N σ) :
    (w.map f).apply replaces c = (w.apply replaces c).map (·.map f) := by
  have hsince : ∀ name, since name (w.saves.map fun p => (p.1, f p.2)) = (since name w.saves).map fun p => (p.1, f p.2) := by
    intro name
    simp [since, List.dropWhile_map, Function.comp_def]
  cases c with
  | savepoint name => cases replaces <;> simp [apply, savepoint, map, List.eraseP_map, Function.comp_def]
  | release name =>
    simp only [apply, release, map, hsince]
    cases hs : since name w.saves with
    | nil => simp
    | cons p rest => simp
  | rollbackTo name =>
    simp only [apply, restore, map, hsince]
    cases hs : since name w.saves with
    | nil => simp
    | cons p rest => simp

/-- What a command leaves was there before: the savepoints, but for a new one of its name that saved the state, and the state. -/
theorem mem_apply {replaces : Bool} {c : Command N} {w w' : Named N σ} (h : w.apply replaces c = some w') :
    (∀ p ∈ w'.saves, p ∈ w.saves ∨ p = (c.name, w.cur)) ∧ (w'.cur = w.cur ∨ ∃ n, (n, w'.cur) ∈ w.saves) := by
  have hsub : ∀ name, since name w.saves ⊆ w.saves := fun name => (List.dropWhile_suffix _).subset
  cases c with
  | savepoint name =>
    cases h
    refine ⟨?_, Or.inl rfl⟩
    intro p hp
    rcases List.mem_cons.1 hp with rfl | hp
    · exact Or.inr rfl
    · cases replaces with
      | true => exact Or.inl (List.mem_of_mem_eraseP hp)
      | false => exact Or.inl hp
  | release name =>
    have hsub := hsub name
    simp only [apply, release] at h
    cases hs : since name w.saves with
    | nil => simp [hs] at h
    | cons q rest =>
      rw [hs] at h hsub
      cases h
      exact ⟨fun p hp => Or.inl (hsub (List.mem_cons_of_mem q hp)), Or.inl rfl⟩
  | rollbackTo name =>
    have hsub := hsub name
    simp only [apply, restore] at h
    cases hs : since name w.saves with
    | nil => simp [hs] at h
    | cons q rest =>
      rw [hs] at h hsub
      cases h
      exact ⟨fun p hp => Or.inl (hsub hp), Or.inr ⟨q.1, hsub List.mem_cons_self⟩⟩

/-- A command on another name does not open a savepoint of this one. -/
theorem avoids_apply {replaces : Bool} {c : Command N} {name : N} {w w' : Named N σ} (hc : c.name ≠ name) (hw : Avoids name w.saves)
    (h : w.apply replaces c = some w') : Avoids name w'.saves := by
  intro p hp
  rcases (mem_apply h).1 p hp with hp | rfl
  · exact hw p hp
  · exact hc

/-! ## The lower part of a stack -/

/-- A name that is not above is found right below. -/
theorem since_above {name : N} {saves : List (N × σ)} (h : Avoids name saves) (s : σ) (base : List (N × σ)) :
    since name (saves ++ (name, s) :: base) = (name, s) :: base := by
  unfold since
  rw [List.dropWhile_append_of_pos]
  · simp
  · intro p hp
    simpa using h p hp

/-- Releasing the savepoint right below a part of the stack takes that part with it, and keeps the state. -/
theorem release_above {name : N} {w : Named N σ} (h : Avoids name w.saves) (s : σ) (base : List (N × σ)) :
    (w.above ((name, s) :: base)).release name = some ⟨w.cur, base⟩ := by
  simp [release, above, since_above h]

/-- Going back to it gives what it saved. -/
theorem restore_above {name : N} {saves : List (N × σ)} (h : Avoids name saves) (s : σ) (base : List (N × σ)) :
    restore name (saves ++ (name, s) :: base) = some ⟨s, (name, s) :: base⟩ := by
  simp [restore, since_above h]

/-- A command on a name that is not open fails, unless it opens one. -/
theorem release_of_avoids {name : N} {w : Named N σ} (h : Avoids name w.saves) : w.release name = none := by
  simp [release, since_of_avoids h]

theorem restore_of_avoids {name : N} {saves : List (N × σ)} (h : Avoids name saves) : restore name saves = none := by
  simp [restore, since_of_avoids h]

end Named

end Lib
