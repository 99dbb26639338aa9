import Txbox.PurgeRace
import Txbox.Theorems.Purge

/-!
# What purges at the same time do

However many calls compete, every row that is deleted was expired, and every call that returns has counted the rows that it deleted
itself, and made no statement too many. That a call leaves no expired row behind takes the rule of `docs/operations.md`: no other
statement under way.
-/

namespace Txbox

open Lib

namespace PurgeRaceAux

open Purges

variable {P Now C : Type}

/-! ## The heap -/

theorem live_eq_some_iff {heap : List (HeapRow P Now C)} {c : Nat} {columns : C} :
    live heap c = some columns ↔ ∃ row, heap[c]? = some row ∧ row.removed = none ∧ row.columns = columns := by
  unfold live
  rcases heap[c]? with _ | ⟨key, columns', _ | removed⟩ <;> simp

theorem lt_of_live {heap : List (HeapRow P Now C)} {c : Nat} (h : (live heap c).isSome) : c < heap.length := by
  obtain ⟨columns, hlive⟩ := Option.isSome_iff_exists.1 h
  obtain ⟨row, hrow, _⟩ := live_eq_some_iff.1 hlive
  exact (List.getElem?_eq_some_iff.1 hrow).1

theorem getElem?_remove (heap : List (HeapRow P Now C)) (hits : Finset Nat) (p : P) (time : Now) (c : Nat) :
    (remove heap hits p time)[c]? =
      heap[c]?.map fun row => if c ∈ hits then { row with removed := some (p, time) } else row := by
  rw [remove, List.getElem?_mapIdx]

@[simp] theorem length_remove (heap : List (HeapRow P Now C)) (hits : Finset Nat) (p : P) (time : Now) :
    (remove heap hits p time).length = heap.length := by
  rw [remove, List.length_mapIdx]

theorem remove_empty (heap : List (HeapRow P Now C)) (p : P) (time : Now) : remove heap ∅ p time = heap := by
  refine List.ext_getElem? fun c => ?_
  simp [getElem?_remove]

@[simp] theorem live_remove (heap : List (HeapRow P Now C)) (hits : Finset Nat) (p : P) (time : Now) (c : Nat) :
    live (remove heap hits p time) c = if c ∈ hits then none else live heap c := by
  unfold live
  rw [getElem?_remove]
  by_cases h : c ∈ hits
  · rcases heap[c]? with _ | row <;> simp [h]
  · rcases heap[c]? with _ | row <;> simp [h]

/-- A later heap: it is no shorter, a row that is not deleted in it was there, and no row has changed. -/
structure Later (heap heap' : List (HeapRow P Now C)) : Prop where
  length_le : heap.length ≤ heap'.length
  live_of : ∀ c < heap.length, ∀ columns, live heap' c = some columns → live heap c = some columns
  row_of : ∀ (c : Nat) (row : HeapRow P Now C), heap[c]? = some row → ∃ row', heap'[c]? = some row' ∧ row'.columns = row.columns

theorem later_append (heap : List (HeapRow P Now C)) (row : HeapRow P Now C) : Later heap (heap ++ [row]) := by
  have hleft : ∀ c < heap.length, (heap ++ [row])[c]? = heap[c]? := fun c hc => List.getElem?_append_left hc
  refine ⟨by simp, ?_, ?_⟩
  · intro c hc columns h
    simpa only [live, hleft c hc] using h
  · intro c row' hrow
    exact ⟨row', by rw [hleft c (List.getElem?_eq_some_iff.1 hrow).1, hrow], rfl⟩

theorem later_remove (heap : List (HeapRow P Now C)) (hits : Finset Nat) (p : P) (time : Now) : Later heap (remove heap hits p time) := by
  refine ⟨by simp, ?_, ?_⟩
  · intro c _ columns h
    rw [live_remove] at h
    split_ifs at h
    exact h
  · intro c row hrow
    rw [getElem?_remove, hrow, Option.map_some]
    split_ifs <;> exact ⟨_, rfl, rfl⟩

/-! ## What a statement chose -/

section Chosen

variable {ι B : Type} [LinearOrder ι] (server : PurgeServer Now C ι B) (bound : P → B) (batch : P → Nat)

/-- A row is below the cutoff of a call at a time. -/
def Expired (p : P) (time : Now) (columns : C) : Prop :=
  ((server.processedAt columns : ι) : WithBot ι) < server.cutoff (bound p) time

/-- What is known of the rows a statement chose, while it is under way. -/
structure Chose (heap : List (HeapRow P Now C)) (p : P) (chosen : Selection Now) : Prop where
  expired : ∀ c ∈ chosen.picked, ∃ row, heap[c]? = some row ∧ Expired server bound p chosen.time row.columns
  card_le : chosen.picked.card ≤ batch p
  size_le : chosen.size ≤ heap.length
  all : chosen.picked.card < batch p → ∀ c < chosen.size, ∀ columns, live heap c = some columns →
    Expired server bound p chosen.time columns → c ∈ chosen.picked

/-- No row that was there at a choice and was expired then is left. -/
structure Cleared (heap : List (HeapRow P Now C)) (p : P) (chosen : Selection Now) : Prop where
  size_le : chosen.size ≤ heap.length
  none_left : ∀ c < chosen.size, ∀ columns, live heap c = some columns → ¬Expired server bound p chosen.time columns

variable {server bound batch}

theorem Chose.later {heap heap' : List (HeapRow P Now C)} {p : P} {chosen : Selection Now}
    (h : Chose server bound batch heap p chosen) (hlater : Later heap heap') : Chose server bound batch heap' p chosen := by
  refine ⟨?_, h.card_le, h.size_le.trans hlater.length_le, ?_⟩
  · intro c hc
    obtain ⟨row, hrow, hexpired⟩ := h.expired c hc
    obtain ⟨row', hrow', hcolumns⟩ := hlater.row_of c row hrow
    exact ⟨row', hrow', hcolumns ▸ hexpired⟩
  · intro hshort c hc columns hlive
    exact h.all hshort c hc columns (hlater.live_of c (lt_of_lt_of_le hc h.size_le) columns hlive)

theorem Cleared.later {heap heap' : List (HeapRow P Now C)} {p : P} {chosen : Selection Now}
    (h : Cleared server bound heap p chosen) (hlater : Later heap heap') : Cleared server bound heap' p chosen := by
  refine ⟨h.size_le.trans hlater.length_le, ?_⟩
  intro c hc columns hlive
  exact h.none_left c hc columns (hlater.live_of c (lt_of_lt_of_le hc h.size_le) columns hlive)

end Chosen

/-! ## What the calls have deleted -/

variable [DecidableEq P]

theorem mem_removedBy {heap : List (HeapRow P Now C)} {p : P} {c : Nat} :
    c ∈ removedBy heap p ↔ ∃ row time, heap[c]? = some row ∧ row.removed = some (p, time) := by
  have hlt : ∀ row, heap[c]? = some row → c < heap.length := fun row hrow => (List.getElem?_eq_some_iff.1 hrow).1
  rw [removedBy, Finset.mem_filter, Finset.mem_range]
  rcases hrow : heap[c]? with _ | ⟨key, columns, _ | ⟨q, time⟩⟩
  · simp
  · simp
  · have := hlt _ hrow
    simp [this]

/-- A call that deletes rows that are there has deleted those too, and nobody else has. -/
theorem removedBy_remove {heap : List (HeapRow P Now C)} {hits : Finset Nat} (hhits : ∀ c ∈ hits, (live heap c).isSome) (p : P)
    (time : Now) (q : P) : removedBy (remove heap hits p time) q = if q = p then removedBy heap p ∪ hits else removedBy heap q := by
  ext c
  have hrow : c ∈ hits → ∃ row, heap[c]? = some row ∧ row.removed = none := by
    intro hc
    obtain ⟨columns, hlive⟩ := Option.isSome_iff_exists.1 (hhits c hc)
    obtain ⟨row, hrow, hnone, _⟩ := live_eq_some_iff.1 hlive
    exact ⟨row, hrow, hnone⟩
  by_cases hc : c ∈ hits
  · obtain ⟨row, hrow, hnone⟩ := hrow hc
    by_cases hq : q = p
    · simp [mem_removedBy, getElem?_remove, hc, hrow, hq]
    · simp [mem_removedBy, getElem?_remove, hc, hrow, hq, Ne.symm hq, hnone]
  · by_cases hq : q = p
    · simp [mem_removedBy, getElem?_remove, hc, hq]
    · simp [mem_removedBy, getElem?_remove, hc, hq]

theorem disjoint_removedBy {heap : List (HeapRow P Now C)} {hits : Finset Nat} (hhits : ∀ c ∈ hits, (live heap c).isSome) (p : P) :
    Disjoint (removedBy heap p) hits := by
  rw [Finset.disjoint_left]
  intro c hremoved hc
  obtain ⟨row, time, hrow, hby⟩ := mem_removedBy.1 hremoved
  obtain ⟨columns, hlive⟩ := Option.isSome_iff_exists.1 (hhits c hc)
  obtain ⟨row', hrow', hnone, _⟩ := live_eq_some_iff.1 hlive
  rw [hrow, Option.some.injEq] at hrow'
  rw [hrow', hnone] at hby
  cases hby

theorem removedBy_append (heap : List (HeapRow P Now C)) (key : String × String) (columns : C) (p : P) :
    removedBy (heap ++ [⟨key, columns, none⟩]) p = removedBy heap p := by
  ext c
  rw [mem_removedBy, mem_removedBy]
  rcases Nat.lt_or_ge c heap.length with hlt | hge
  · rw [List.getElem?_append_left hlt]
  · rw [List.getElem?_append_right hge, List.getElem?_eq_none hge]
    rcases c - heap.length with _ | n <;> simp

/-! ## The invariant -/

section Invariant

variable {ε Code ι B : Type} [LinearOrder ι] [ToString Code] (server : PurgeServer Now C ι B) (alone : Prop) (bound : P → B)
  (batch : P → Nat)

/-- How far a call is: in its loop, with full batches so far; returned, with what it deleted; or failed. -/
inductive Progress (heap : List (HeapRow P Now C)) (p : P) (call : Purging ε Code Now B) : Prop
  | running (fuel total : Nat) (hleft : call.left = purgeLoop (bound p) (batch p) fuel total)
      (htotal : total = (removedBy heap p).card) (hrounds : total = call.rounds * batch p)
  | returned (n : Nat) (hleft : call.left = .ret (some (.ok n))) (hn : n = (removedBy heap p).card)
      (hrounds : call.rounds = n / batch p + 1)
  | failed (e : InboxError ε) (hleft : call.left = .ret (some (.error e)))

/-- What holds in every state. -/
structure Inv (s : Purges ε Code P Now C B) : Prop where
  expired : ∀ (c : Nat) (row : HeapRow P Now C) (p : P) (time : Now), s.heap[c]? = some row → row.removed = some (p, time) →
    Expired server bound p time row.columns
  progress : ∀ p, Progress bound batch s.heap p (s.calls p)
  chose : ∀ p chosen, (s.calls p).chosen = some chosen → Chose server bound batch s.heap p chosen
  one : alone → ∀ p q, (s.calls p).chosen.isSome → (s.calls q).chosen.isSome → p = q
  there : alone → ∀ p chosen, (s.calls p).chosen = some chosen → ∀ c ∈ chosen.picked, (live s.heap c).isSome
  cleared : alone → ∀ p n, (s.calls p).left = .ret (some (.ok n)) → ∃ chosen, (s.calls p).last = some chosen ∧
    Cleared server bound s.heap p chosen

variable {server alone bound batch}

/-- The rows of a call that it has not touched. -/
theorem Progress.of_removedBy {heap heap' : List (HeapRow P Now C)} {p : P} {call : Purging ε Code Now B}
    (h : Progress bound batch heap p call) (hsame : removedBy heap' p = removedBy heap p) : Progress bound batch heap' p call := by
  cases h with
  | running fuel total hleft htotal hrounds => exact .running fuel total hleft (hsame ▸ htotal) hrounds
  | returned n hleft hn hrounds => exact .returned n hleft (hsame ▸ hn) hrounds
  | failed e hleft => exact .failed e hleft

/-- A call whose next step is a statement is in its loop. -/
theorem Progress.of_call {heap : List (HeapRow P Now C)} {p : P} {call : Purging ε Code Now B} (h : Progress bound batch heap p call)
    {b : B} {limit : Nat} {k : Except (SqlxError ε Code) Nat → PurgeProg ε Code Now B (PurgeResult ε)}
    (hleft : call.left = .call (.delete b limit) k) : b = bound p ∧ limit = batch p ∧
      (removedBy heap p).card = call.rounds * batch p ∧ (∀ e, k (.error e) = .ret (some (.error e.into))) ∧
      ∃ fuel, ∀ n, k (.ok n) = if n < batch p then .ret (some (.ok ((removedBy heap p).card + n)))
        else purgeLoop (bound p) (batch p) fuel ((removedBy heap p).card + n) := by
  cases h with
  | running fuel total hloop htotal hrounds =>
    rw [hloop] at hleft
    cases fuel with
    | zero => cases hleft
    | succ fuel =>
      cases hleft
      refine ⟨rfl, rfl, htotal ▸ hrounds, fun e => rfl, fuel, fun n => ?_⟩
      rw [← htotal]
      rfl
  | returned n hret hn hrounds =>
    rw [hret] at hleft
    cases hleft
  | failed e hret =>
    rw [hret] at hleft
    cases hleft

/-! ### Steps -/

/-- At the start. -/
theorem inv_init {s : Purges ε Code P Now C B} (h : (system server alone bound batch).init s) : Inv server alone bound batch s := by
  obtain ⟨hheap, hcalls⟩ := h
  have hnone : ∀ p, (s.calls p).chosen = none := by
    intro p
    obtain ⟨fuel, hp⟩ := hcalls p
    rw [hp]
  have hremoved : ∀ p, removedBy s.heap p = ∅ := by
    intro p
    rw [Finset.eq_empty_iff_forall_notMem]
    intro c hc
    obtain ⟨row, time, hrow, hby⟩ := mem_removedBy.1 hc
    rw [hheap row (List.mem_of_getElem? hrow)] at hby
    cases hby
  constructor
  · intro c row p time hrow hby
    rw [hheap row (List.mem_of_getElem? hrow)] at hby
    cases hby
  · intro p
    obtain ⟨fuel, hp⟩ := hcalls p
    rw [hp]
    exact .running fuel 0 rfl (by simp [hremoved]) (by simp)
  · intro p chosen hchosen
    rw [hnone] at hchosen
    cases hchosen
  · intro _ p q hp
    rw [hnone] at hp
    cases hp
  · intro _ p chosen hchosen
    rw [hnone] at hchosen
    cases hchosen
  · intro _ p n hleft
    obtain ⟨fuel, hp⟩ := hcalls p
    rw [hp] at hleft
    cases fuel <;> cases hleft

/-- A new row. -/
theorem inv_insert {s : Purges ε Code P Now C B} (h : Inv server alone bound batch s) (key : String × String) (columns : C) :
    Inv server alone bound batch { s with heap := s.heap ++ [⟨key, columns, none⟩] } := by
  have hlater := later_append s.heap ⟨key, columns, none⟩
  constructor
  · intro c row p time hrow hby
    rcases Nat.lt_or_ge c s.heap.length with hlt | hge
    · exact h.expired c row p time (by rwa [List.getElem?_append_left hlt] at hrow) hby
    · rw [List.getElem?_append_right hge, List.getElem?_singleton] at hrow
      split_ifs at hrow
      cases hrow
      cases hby
  · intro p
    exact (h.progress p).of_removedBy (removedBy_append _ _ _ _)
  · intro p chosen hchosen
    exact (h.chose p chosen hchosen).later hlater
  · exact h.one
  · intro halone p chosen hchosen c hc
    have hthere := h.there halone p chosen hchosen c hc
    simp only [live, List.getElem?_append_left (lt_of_live hthere)]
    exact hthere
  · intro halone p n hleft
    obtain ⟨chosen, hlast, hcleared⟩ := h.cleared halone p n hleft
    exact ⟨chosen, hlast, hcleared.later hlater⟩

/-- A statement begins. -/
theorem inv_choose {s : Purges ε Code P Now C B} (h : Inv server alone bound batch s) (picker : Picker Nat ι) (p : P) {b : B}
    {limit : Nat} {k : Except (SqlxError ε Code) Nat → PurgeProg ε Code Now B (PurgeResult ε)}
    (hleft : (s.calls p).left = .call (.delete b limit) k) (halone : alone → ∀ q, (s.calls q).chosen = none) :
    Inv server alone bound batch (s.choose server picker p b limit) := by
  obtain ⟨rfl, rfl, _⟩ := (h.progress p).of_call hleft
  have hpicked : ∀ c ∈ picker.pick (column server s.heap) (server.cutoff (bound p) s.now) (batch p), ∃ columns,
      live s.heap c = some columns ∧ Expired server bound p s.now columns := by
    intro c hc
    obtain ⟨at', hcolumn, hlt⟩ := picker.below hc
    obtain ⟨columns, hlive, rfl⟩ := Option.map_eq_some_iff.1 hcolumn
    exact ⟨columns, hlive, hlt⟩
  constructor
  · exact h.expired
  · intro q
    by_cases hq : q = p
    · subst hq
      simp only [Purges.choose, Purges.set, Function.update_self]
      cases h.progress q with
      | running fuel total hleft' htotal hrounds => exact .running fuel total hleft' htotal hrounds
      | returned n hleft' hn hrounds => exact .returned n hleft' hn hrounds
      | failed e hleft' => exact .failed e hleft'
    · simp only [Purges.choose, Purges.set, Function.update_of_ne hq]
      exact h.progress q
  · intro q chosen hchosen
    by_cases hq : q = p
    · subst hq
      simp only [Purges.choose, Purges.set, Function.update_self, Option.some.injEq] at hchosen
      subst hchosen
      refine ⟨?_, picker.card_le _ _ _, le_refl _, ?_⟩
      · intro c hc
        obtain ⟨columns, hlive, hexpired⟩ := hpicked c hc
        obtain ⟨row, hrow, _, rfl⟩ := live_eq_some_iff.1 hlive
        exact ⟨row, hrow, hexpired⟩
      · intro hshort c _ columns hlive hexpired
        refine picker.all_of_card_lt hshort ⟨server.processedAt columns, ?_, hexpired⟩
        simp only [column]
        rw [show live s.heap c = some columns from hlive, Option.map_some]
    · simp only [Purges.choose, Purges.set, Function.update_of_ne hq] at hchosen
      exact h.chose q chosen hchosen
  · intro ha q r hq hr
    have hother : ∀ q, ((s.choose server picker p (bound p) (batch p)).calls q).chosen.isSome → q = p := by
      intro q hq
      by_contra hne
      simp only [Purges.choose, Purges.set, Function.update_of_ne hne, halone ha q] at hq
      cases hq
    rw [hother q hq, hother r hr]
  · intro ha q chosen hchosen c hc
    by_cases hq : q = p
    · subst hq
      simp only [Purges.choose, Purges.set, Function.update_self, Option.some.injEq] at hchosen
      subst hchosen
      obtain ⟨columns, hlive, _⟩ := hpicked c hc
      exact Option.isSome_iff_exists.2 ⟨columns, hlive⟩
    · simp only [Purges.choose, Purges.set, Function.update_of_ne hq] at hchosen
      exact h.there ha q chosen hchosen c hc
  · intro ha q n hret
    by_cases hq : q = p
    · subst hq
      simp only [Purges.choose, Purges.set, Function.update_self, hleft] at hret
      cases hret
    · simp only [Purges.choose, Purges.set, Function.update_of_ne hq] at hret ⊢
      exact h.cleared ha q n hret

/-- A statement is over: it has deleted rows that were there and expired, and its call goes on. -/
theorem inv_over {s : Purges ε Code P Now C B} (h : Inv server alone bound batch s) (p : P) (hits : Finset Nat) (time : Now)
    (call : Purging ε Code Now B) (hhits : ∀ c ∈ hits, ∃ columns, live s.heap c = some columns ∧ Expired server bound p time columns)
    (hnone : call.chosen = none) (hown : hits = ∅ ∨ (s.calls p).chosen.isSome)
    (hprogress : Progress bound batch (remove s.heap hits p time) p call)
    (hcleared : alone → ∀ n, call.left = .ret (some (.ok n)) → ∃ chosen, call.last = some chosen ∧
      Cleared server bound (remove s.heap hits p time) p chosen) :
    Inv server alone bound batch ({ s with heap := remove s.heap hits p time }.set p call) := by
  have hlater := later_remove s.heap hits p time
  have hisSome : ∀ c ∈ hits, (live s.heap c).isSome := by
    intro c hc
    obtain ⟨columns, hlive, _⟩ := hhits c hc
    exact Option.isSome_iff_exists.2 ⟨columns, hlive⟩
  constructor
  · intro c row q time' hrow hby
    simp only [Purges.set, getElem?_remove] at hrow
    obtain ⟨row', hrow', rfl⟩ := Option.map_eq_some_iff.1 hrow
    split_ifs at hby ⊢ with hc
    · cases hby
      obtain ⟨columns, hlive, hexpired⟩ := hhits c hc
      obtain ⟨row'', hrow'', _, rfl⟩ := live_eq_some_iff.1 hlive
      rw [hrow', Option.some.injEq] at hrow''
      exact hrow'' ▸ hexpired
    · exact h.expired c row' q time' hrow' hby
  · intro q
    by_cases hq : q = p
    · subst hq
      simpa only [Purges.set, Function.update_self] using hprogress
    · simp only [Purges.set, Function.update_of_ne hq]
      refine (h.progress q).of_removedBy ?_
      rw [removedBy_remove hisSome, if_neg hq]
  · intro q chosen hchosen
    by_cases hq : q = p
    · subst hq
      simp [Purges.set, hnone] at hchosen
    · simp only [Purges.set, Function.update_of_ne hq] at hchosen
      exact (h.chose q chosen hchosen).later hlater
  · intro ha q r hq hr
    have hother : ∀ q, (({ s with heap := remove s.heap hits p time }.set p call).calls q).chosen.isSome →
        (s.calls q).chosen.isSome := by
      intro q hq
      by_cases hqp : q = p
      · subst hqp
        simp [Purges.set, hnone] at hq
      · simpa only [Purges.set, Function.update_of_ne hqp] using hq
    exact h.one ha q r (hother q hq) (hother r hr)
  · intro ha q chosen hchosen c hc
    by_cases hq : q = p
    · subst hq
      simp [Purges.set, hnone] at hchosen
    · simp only [Purges.set, Function.update_of_ne hq] at hchosen ⊢
      have hthere := h.there ha q chosen hchosen c hc
      -- Another statement is under way, so this one was not, and has deleted nothing.
      rcases hown with hempty | hchosen'
      · simpa [hempty] using hthere
      · exact absurd (h.one ha q p (by rw [hchosen]; rfl) hchosen') hq
  · intro ha q n hret
    by_cases hq : q = p
    · subst hq
      simp only [Purges.set, Function.update_self] at hret ⊢
      exact hcleared ha n hret
    · simp only [Purges.set, Function.update_of_ne hq] at hret ⊢
      obtain ⟨chosen, hlast, hc⟩ := h.cleared ha q n hret
      exact ⟨chosen, hlast, hc.later hlater⟩

/-- A statement fails. -/
theorem inv_fail {s : Purges ε Code P Now C B} (h : Inv server alone bound batch s) (p : P) {b : B} {limit : Nat}
    {k : Except (SqlxError ε Code) Nat → PurgeProg ε Code Now B (PurgeResult ε)} (e : SqlxError ε Code)
    (hleft : (s.calls p).left = .call (.delete b limit) k) :
    Inv server alone bound batch (s.set p { s.calls p with left := k (.error e), chosen := none }) := by
  obtain ⟨_, _, _, herror, _⟩ := (h.progress p).of_call hleft
  have hover := inv_over h p ∅ s.now { s.calls p with left := k (.error e), chosen := none } (by simp) rfl (Or.inl rfl)
    (.failed e.into (herror e)) (fun _ n hret => by simp only [herror] at hret; cases hret)
  rwa [remove_empty] at hover

/-- The rows of a selection that are still there are there and expired. -/
theorem hits_expired {s : Purges ε Code P Now C B} (h : Inv server alone bound batch s) {p : P} {chosen : Selection Now}
    (hchosen : (s.calls p).chosen = some chosen) {c : Nat} (hc : c ∈ hits s.heap chosen) :
    ∃ columns, live s.heap c = some columns ∧ Expired server bound p chosen.time columns := by
  rw [hits, Finset.mem_filter] at hc
  obtain ⟨columns, hlive⟩ := Option.isSome_iff_exists.1 hc.2
  obtain ⟨row, hrow, hexpired⟩ := (h.chose p chosen hchosen).expired c hc.1
  obtain ⟨row', hrow', _, rfl⟩ := live_eq_some_iff.1 hlive
  rw [hrow, Option.some.injEq] at hrow'
  exact ⟨_, hlive, hrow' ▸ hexpired⟩

theorem card_removedBy {heap : List (HeapRow P Now C)} {hits : Finset Nat} (hhits : ∀ c ∈ hits, (live heap c).isSome) (p : P)
    (time : Now) : (removedBy (remove heap hits p time) p).card = (removedBy heap p).card + hits.card := by
  rw [removedBy_remove hhits, if_pos rfl, Finset.card_union_of_disjoint (disjoint_removedBy hhits p)]

/-- A short batch that nobody else took from is all that was expired. -/
theorem cleared_of_short {s : Purges ε Code P Now C B} (h : Inv server alone bound batch s) (ha : alone) {p : P}
    {chosen : Selection Now} (hchosen : (s.calls p).chosen = some chosen) (hshort : (hits s.heap chosen).card < batch p) :
    Cleared server bound (remove s.heap (hits s.heap chosen) p chosen.time) p chosen := by
  have hchose := h.chose p chosen hchosen
  have hall : hits s.heap chosen = chosen.picked := Finset.filter_true_of_mem (h.there ha p chosen hchosen)
  refine ⟨by simpa using hchose.size_le, ?_⟩
  intro c hc columns hlive hexpired
  rw [live_remove, hall] at hlive
  split_ifs at hlive with hpicked
  exact hpicked (hchose.all (hall ▸ hshort) c hc columns hlive hexpired)

/-- A statement ends, with rows to count or without. -/
theorem inv_delete {s : Purges ε Code P Now C B} (h : Inv server alone bound batch s) (hbatch : ∀ p, 1 ≤ batch p) (p : P) {b : B}
    {limit : Nat} {k : Except (SqlxError ε Code) Nat → PurgeProg ε Code Now B (PurgeResult ε)} {chosen : Selection Now}
    (hleft : (s.calls p).left = .call (.delete b limit) k) (hchosen : (s.calls p).chosen = some chosen) :
    Inv server alone bound batch (s.delete p chosen k) := by
  obtain ⟨_, _, hrounds, _, fuel, hok⟩ := (h.progress p).of_call hleft
  have hisSome : ∀ c ∈ hits s.heap chosen, (live s.heap c).isSome := fun c hc => (Finset.mem_filter.1 hc).2
  have hcount := card_removedBy hisSome p chosen.time
  have hle : (hits s.heap chosen).card ≤ batch p :=
    (Finset.card_le_card (Finset.filter_subset _ _)).trans (h.chose p chosen hchosen).card_le
  refine inv_over h p _ _ _ (fun c hc => hits_expired h hchosen hc) rfl (Or.inr (by rw [hchosen]; rfl)) ?_ ?_
  · by_cases hshort : (hits s.heap chosen).card < batch p
    · refine .returned _ (by rw [hok, if_pos hshort]) hcount.symm ?_
      rw [hrounds, Nat.mul_comm, Nat.mul_add_div (hbatch p), Nat.div_eq_of_lt hshort]
    · refine .running fuel _ (by rw [hok, if_neg hshort]) hcount.symm ?_
      rw [hrounds, le_antisymm hle (not_lt.1 hshort), Nat.succ_mul]
  · intro ha n hret
    by_cases hshort : (hits s.heap chosen).card < batch p
    · exact ⟨chosen, rfl, cleared_of_short h ha hchosen hshort⟩
    · simp only [hok, if_neg hshort] at hret
      cases fuel <;> cases hret

/-- A statement ends, and its call does not hear of it. -/
theorem inv_lost {s : Purges ε Code P Now C B} (h : Inv server alone bound batch s) (p : P) {b : B} {limit : Nat}
    {k : Except (SqlxError ε Code) Nat → PurgeProg ε Code Now B (PurgeResult ε)} {chosen : Selection Now} (e : SqlxError ε Code)
    (hleft : (s.calls p).left = .call (.delete b limit) k) (hchosen : (s.calls p).chosen = some chosen) :
    Inv server alone bound batch (s.delete p chosen fun _ => k (.error e)) := by
  obtain ⟨_, _, _, herror, _⟩ := (h.progress p).of_call hleft
  exact inv_over h p _ _ _ (fun c hc => hits_expired h hchosen hc) rfl (Or.inr (by rw [hchosen]; rfl)) (.failed e.into (herror e))
    (fun _ n hret => by simp only [herror] at hret; cases hret)

/-- In every state that can be reached. -/
theorem inv_reachable (hbatch : ∀ p, 1 ≤ batch p) {s : Purges ε Code P Now C B}
    (h : (system server alone bound batch).Reachable s) : Inv server alone bound batch s := by
  refine h.invariant (fun _ => inv_init) ?_
  intro s s' _ hinv hstep
  cases hstep with
  | tick now => exact ⟨hinv.expired, hinv.progress, hinv.chose, hinv.one, hinv.there, hinv.cleared⟩
  | insert key columns hkey => exact inv_insert hinv key columns
  | choose picker p hleft hnone halone => exact inv_choose hinv picker p hleft halone
  | delete p hleft hchosen => exact inv_delete hinv hbatch p hleft hchosen
  | fail p e hleft => exact inv_fail hinv p e hleft
  | lost p e hleft hchosen => exact inv_lost hinv p e hleft hchosen

end Invariant

end PurgeRaceAux

open PurgeRaceAux Purges

/-- What purges at the same time have done: each call has its policy. -/
structure PurgedRight {ε P : Type} [DecidableEq P] (policy : P → RetentionPolicy) (alone : Prop)
    (s : Purges ε String P Int Int Duration) : Prop where
  /-- A row that is deleted was older than the policy of its call allows, at the time its statement read. -/
  expired : ∀ (c : Nat) (row : HeapRow P Int Int) (p : P) (time : Int), s.heap[c]? = some row → row.removed = some (p, time) →
    row.columns * 1000 < time * 1000 - (policy p).maxAge.asNanos
  /-- A call that has returned made a statement for every full batch and one more. -/
  rounds : ∀ p n, (s.calls p).left = .ret (some (.ok n)) → (s.calls p).rounds = n / (policy p).batchSize + 1
  /-- Calls that have returned counted the rows they deleted, and no row was counted twice. -/
  counted : ∀ (ps : Finset P) (n : P → Nat), (∀ p ∈ ps, (s.calls p).left = .ret (some (.ok (n p)))) →
    ∑ p ∈ ps, n p = (ps.biUnion (removedBy s.heap)).card
  /-- With no other statement under way, no row is left that was there and old enough when the last statement of a call began. -/
  cleared : alone → ∀ p n, (s.calls p).left = .ret (some (.ok n)) → ∃ chosen, (s.calls p).last = some chosen ∧
    ∀ c < chosen.size, ∀ processedAt, live s.heap c = some processedAt →
      ¬processedAt * 1000 < chosen.time * 1000 - ((policy p).maxAge.asNanos : Int)

/-- Any number of calls of `PgInbox::purge` at the same time, beside transactions that commit new rows. The seconds of `max_age`, which
the statement gets as a floating-point number, are taken as exact. -/
theorem purges_at_once {ε P : Type} [DecidableEq P] (policy : P → RetentionPolicy) (hbuilt : ∀ p, (policy p).Built) (alone : Prop)
    (s : Purges ε String P Int Int Duration)
    (h : (system PgInbox.purgeServer alone (fun p => (policy p).maxAge) fun p => (policy p).batchSize).Reachable s) :
    PurgedRight policy alone s := by
  have hinv := inv_reachable (fun p => PurgeAux.one_le_batchSize (hbuilt p)) h
  have hreturned : ∀ p n, (s.calls p).left = .ret (some (.ok n)) →
      n = (removedBy s.heap p).card ∧ (s.calls p).rounds = n / (policy p).batchSize + 1 := by
    intro p n hleft
    cases hinv.progress p with
    | running fuel total hloop htotal hrounds =>
      rw [hleft] at hloop
      cases fuel <;> cases hloop
    | returned m hret hm hrounds =>
      rw [hleft] at hret
      cases hret
      exact ⟨hm, hrounds⟩
    | failed e hret =>
      rw [hleft] at hret
      cases hret
  constructor
  · intro c row p time hrow hby
    exact WithBot.coe_lt_coe.1 (hinv.expired c row p time hrow hby)
  · intro p n hleft
    exact (hreturned p n hleft).2
  · intro ps n hret
    rw [Finset.card_biUnion, Finset.sum_congr rfl fun p hp => (hreturned p (n p) (hret p hp)).1]
    intro p _ q _ hne
    rw [Function.onFun, Finset.disjoint_left]
    intro c hp hq
    obtain ⟨row, time, hrow, hby⟩ := mem_removedBy.1 hp
    obtain ⟨row', time', hrow', hby'⟩ := mem_removedBy.1 hq
    rw [hrow, Option.some.injEq] at hrow'
    rw [← hrow', hby] at hby'
    cases hby'
    exact hne rfl
  · intro ha p n hleft
    obtain ⟨chosen, hlast, hcleared⟩ := hinv.cleared ha p n hleft
    refine ⟨chosen, hlast, ?_⟩
    intro c hc processedAt hlive hlt
    exact hcleared.none_left c hc processedAt hlive (WithBot.coe_lt_coe.2 hlt)

namespace PgInbox

/-- A policy with batches of one row. -/
def oneByOne (_ : Bool) : RetentionPolicy := (RetentionPolicy.new ⟨3000000000, by decide⟩).withBatchSize 1

/-- Two old rows, and two calls. -/
def contest : Purges Unit String Bool Int Int Duration where
  heap := [⟨("courier", "crate-8"), 0, none⟩, ⟨("courier", "crate-9"), 1, none⟩]
  now := 9000000
  calls p := ⟨PgInbox.purge (oneByOne p) 2, none, none, 0⟩

end PgInbox

open PgInbox in
/-- Two calls choose the same row. One deletes it; the other finds it gone, takes that for the end, and returns while the second row,
old enough too, is still there. -/
theorem purges_at_once_contest : ∃ s : Purges Unit String Bool Int Int Duration,
    PurgedRight oneByOne False s ∧ (s.calls false).left = .ret (some (.ok 0)) ∧ (s.calls true).rounds = 1 ∧
      ∃ c < 2, (live s.heap c).any fun processedAt => processedAt * 1000 < contest.now * 1000 - 3000000000 := by
  obtain ⟨picker⟩ : Nonempty (Picker Nat Int) := ⟨Picker.choose⟩
  obtain ⟨X, hX⟩ : ∃ X, X = picker.pick (column purgeServer contest.heap)
    (purgeServer.cutoff (oneByOne true).maxAge contest.now) 1 := ⟨_, rfl⟩
  -- What both choose is one row.
  have hle : X.card ≤ 1 := hX ▸ picker.card_le _ _ _
  have hpos : X.card ≠ 0 := by
    intro hzero
    have hbelow : Below (column purgeServer contest.heap) (purgeServer.cutoff (oneByOne true).maxAge contest.now) 0 :=
      ⟨0, rfl, WithBot.coe_lt_coe.2 (by decide)⟩
    have hmem := picker.all_of_card_lt (by rw [← hX, hzero]; decide) hbelow
    rw [← hX, Finset.card_eq_zero.1 hzero] at hmem
    exact absurd hmem (Finset.notMem_empty 0)
  have hlive : ∀ c < 2, (live contest.heap c).any fun processedAt => processedAt * 1000 < contest.now * 1000 - 3000000000 := by decide
  have hsub : ∀ c ∈ X, (live contest.heap c).isSome := by
    intro c hc
    obtain ⟨time, hcolumn, _⟩ := picker.below (hX ▸ hc)
    obtain ⟨columns, hcolumns, _⟩ := Option.map_eq_some_iff.1 hcolumn
    exact Option.isSome_iff_exists.2 ⟨columns, hcolumns⟩
  have hall : hits contest.heap ⟨X, contest.now, 2⟩ = X := Finset.filter_true_of_mem hsub
  have hgone : hits (remove contest.heap X true contest.now) ⟨X, contest.now, 2⟩ = ∅ := by
    refine Finset.filter_false_of_mem fun c hc => ?_
    simp [show c ∈ X from hc]
  -- Both begin, then both end.
  obtain ⟨s₂, hs₂⟩ : ∃ s₂, s₂ = (contest.choose purgeServer picker true (oneByOne true).maxAge (oneByOne true).batchSize).choose
    purgeServer picker false (oneByOne false).maxAge (oneByOne false).batchSize := ⟨_, rfl⟩
  have hreach₀ : (system purgeServer False (fun p => (oneByOne p).maxAge) fun p => (oneByOne p).batchSize).Reachable contest :=
    .init ⟨by decide, fun p => ⟨2, rfl⟩⟩
  have hreach₂ := (hreach₀.step (.choose contest picker true rfl rfl False.elim)).step (.choose _ picker false rfl rfl False.elim)
  rw [← hs₂] at hreach₂
  have hchosen : ∀ p, (s₂.calls p).chosen = some ⟨X, contest.now, 2⟩ := by
    intro p
    rw [hs₂, hX]
    cases p <;> rfl
  have hheap : s₂.heap = contest.heap := by
    rw [hs₂]
    rfl
  obtain ⟨k, hk⟩ : ∃ k : Except (SqlxError Unit String) Nat → PurgeProg Unit String Int Duration (PurgeResult Unit), k = fun
      | .error e => .ret (some (.error e.into))
      | .ok affected => if affected < 1 then .ret (some (.ok (0 + affected)))
        else purgeLoop (oneByOne true).maxAge 1 1 (0 + affected) := ⟨_, rfl⟩
  have hleft : ∀ p, (s₂.calls p).left = .call (.delete (oneByOne p).maxAge (oneByOne p).batchSize) k := by
    intro p
    rw [hs₂, hk]
    cases p
    · change Prog.call _ _ = Prog.call _ _
      congr 1
      funext r
      cases r <;> rfl
    · change Prog.call _ _ = Prog.call _ _
      congr 1
      funext r
      cases r <;> rfl
  have hreach₃ := hreach₂.step (.delete s₂ true (hleft true) (hchosen true))
  have hreach₄ := hreach₃.step (.delete _ false (hleft false) (hchosen false))
  refine ⟨_, purges_at_once oneByOne (fun p => .withBatchSize 1 (.new _)) False _ hreach₄, ?_, ?_, ?_⟩
  · have hcard : (hits (remove contest.heap X true contest.now) ⟨X, contest.now, 2⟩).card = 0 := by rw [hgone, Finset.card_empty]
    simp only [Purges.delete, Purges.set, hheap, hall, hcard, hk, Function.update_self]
    rfl
  · have hrounds : (s₂.calls true).rounds = 0 := by
      rw [hs₂]
      rfl
    simp [Purges.delete, Purges.set, hrounds]
  · obtain ⟨c, hc, hnot⟩ : ∃ c < 2, c ∉ X := by
      by_contra hno
      have hpair : ({0, 1} : Finset Nat) ⊆ X := by
        intro c hc
        by_contra hcX
        refine hno ⟨c, ?_, hcX⟩
        rcases Finset.mem_insert.1 hc with rfl | hc
        · decide
        · rw [Finset.mem_singleton.1 hc]
          decide
      exact absurd ((Finset.card_le_card hpair).trans hle) (by decide)
    refine ⟨c, hc, ?_⟩
    simp only [Purges.delete, Purges.set, hheap, hall, hgone, live_remove, hnot, Finset.notMem_empty, if_false]
    exact hlive c hc

end Txbox
