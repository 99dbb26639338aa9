import Txbox.Lemmas.Jobs

/-!
# The invariant of the workers

What holds in every state the workers can reach, whatever the database and the jobs (`Inv`): every worker is where its job may be,
no key is locked twice, and the rows of open transactions are locked and not yet committed. `Moved` says once what a step can do to
such a state; the properties of whole runs are proved from it.
-/

namespace Txbox

open Lib JobsAux

variable {ε T W : Type} {cfg : Config}

/-- A worker is where its job may be: what it still has to do keeps the contract. A claim has locked only keys below those it has yet
to take. -/
def Phase.Sound (cfg : Config) : Phase ε T → Prop
  | .idle => True
  | .opening job => cfg.jobs job
  | .running job tx prog => cfg.jobs job ∧ Prog.wp (contract cfg job.consumer) job.Leaf prog tx
  | .claiming job tx _ consumer todo claims resume =>
    cfg.jobs job ∧ tx.work.cur.deleted = [] ∧ todo.Pairwise (· < ·) ∧ (∀ key ∈ tx.locks, ∀ id ∈ todo, key.2 < id) ∧
      (∀ claims' tx', Claimed cfg consumer tx todo claims' tx' →
        Prog.wp (contract cfg job.consumer) job.Leaf (resume (.ok (claims ++ claims'))) tx') ∧
      ∀ e tx', tx'.failed = true → Prog.wp (contract cfg job.consumer) job.Leaf (resume (.error e)) tx'
  | .closing _ _ _ => True
  | .returned _ _ _ => True

/-- The invariant. -/
structure Inv (cfg : Config) (s : State ε T W) : Prop where
  sound : ∀ w, (s.phase w).Sound cfg
  exclusive : ∀ w w', w ≠ w' → ∀ key ∈ (s.phase w).locks, key ∉ (s.phase w').locks
  locked : ∀ w, ∀ row ∈ (s.phase w).rows, row.key ∈ (s.phase w).locks
  unrecorded : ∀ w, ∀ row ∈ (s.phase w).rows, s.rows row.key = none
  mark : ∀ w, (s.phase w).mark ≤ s.history.length
  seen : ∀ w, ∀ key ∈ (s.phase w).seen, s.Known (s.phase w).mark key
  answers : ∀ w job a, (s.phase w).answer = some (job, a) → ∀ id ∈ job.settled a,
    s.Known (s.phase w).mark (job.consumer, id)

/-! ## What a step can do -/

/-- A worker goes on without a commit: it locks only keys that are free, and holds only rows it held, or one it has just inserted
where there was none. -/
structure Change (cfg : Config) (s : State ε T W) (w : W) (p : Phase ε T) : Prop where
  sound : p.Sound cfg
  locks : ∀ key ∈ p.locks, key ∈ (s.phase w).locks ∨ s.Free w key
  rows : ∀ row ∈ p.rows, row.key ∈ p.locks ∧ s.rows row.key = none ∧ (row ∈ (s.phase w).rows ∨ row.claimedAt = s.now)
  mark : p.mark ≤ s.history.length
  seen : ∀ key ∈ p.seen, s.Known p.mark key
  answers : ∀ job a, p.answer = some (job, a) → ∀ id ∈ job.settled a, s.Known p.mark (job.consumer, id)

/-- What a step does to a state: one worker goes on, or its commit lands, or the clock goes on, or rows are purged. -/
inductive Moved [DecidableEq W] (cfg : Config) (s : State ε T W) : State ε T W → Prop
  | change {w : W} {p : Phase ε T} (h : Change cfg s w p) : Moved cfg s (s.set w p)
  | commit {w : W} {p : Phase ε T} {job : Job} {tx : Tx} {k : Except (InboxError ε) Unit → Answer ε T}
      (h : s.phase w = .running job tx (.ret (.commit k))) (hjob : cfg.jobs job) (hleaf : job.Leaf (.commit k) tx)
      (hp : p = .idle ∨ ∃ r, p = .returned job tx.mark (k r)) :
      Moved cfg s ((s.publish tx.work.cur).set w p)
  | tick {now : Int} (h : s.now ≤ now) : Moved cfg s { s with now }
  | purge {keys : List Key} {clock : Int} (hclock : clock ≤ s.now)
      (h : ∀ key ∈ keys, ∃ processedAt, s.rows key = some processedAt ∧ cfg.mayPurge clock processedAt) :
      Moved cfg s (s.purge keys)

namespace InvariantAux

section Frame

variable [DecidableEq W] {s : State ε T W} {w w' : W} {p : Phase ε T}

@[simp] theorem phase_set_self (s : State ε T W) (w : W) (p : Phase ε T) : (s.set w p).phase w = p := Function.update_self ..

theorem phase_set_of_ne (h : w' ≠ w) : (s.set w p).phase w' = s.phase w' := Function.update_of_ne h ..

@[simp] theorem rows_set (s : State ε T W) (w : W) (p : Phase ε T) : (s.set w p).rows = s.rows := rfl

@[simp] theorem history_set (s : State ε T W) (w : W) (p : Phase ε T) : (s.set w p).history = s.history := rfl

@[simp] theorem now_set (s : State ε T W) (w : W) (p : Phase ε T) : (s.set w p).now = s.now := rfl

end Frame

/-! ### Answers of the database -/

/-- A call that is not a claim brings no new row, locks at most the key of an `unclaim`, and gives up no lock. -/
theorem answers_frame {consumer : ConsumerId} {tx tx' : Tx} {c : Call} {r : Reply ε T c} (h : Tx.Answers consumer tx c r tx') :
    (∀ row ∈ tx'.rows, row ∈ tx.rows) ∧ (∀ key ∈ tx.locks, key ∈ tx'.locks) ∧
      (∀ key ∈ tx'.locks, key ∈ tx.locks ∨ c = .unclaim key.1 key.2) ∧ tx'.seen = tx.seen ∧ tx'.mark = tx.mark := by
  cases h with
  | savepoint =>
    refine ⟨fun row hrow => ?_, fun _ h => h, fun _ h => Or.inl h, rfl, rfl⟩
    simp only [Tx.rows, Nested.savepoint_cur, Nested.savepoint_saves, List.flatMap_cons, List.mem_append] at hrow ⊢
    tauto
  | releaseAndSavepoint h =>
    obtain ⟨saved, hsaves, hcur⟩ := Nested.release_eq_some h
    refine ⟨fun row hrow => ?_, fun _ h => h, fun _ h => Or.inl h, rfl, rfl⟩
    simp only [Tx.rows, Nested.savepoint_cur, Nested.savepoint_saves, hsaves, hcur, List.flatMap_cons, List.mem_append]
      at hrow ⊢
    tauto
  | release h =>
    obtain ⟨saved, hsaves, hcur⟩ := Nested.release_eq_some h
    refine ⟨fun row hrow => ?_, fun _ h => h, fun _ h => Or.inl h, rfl, rfl⟩
    simp only [Tx.rows, hsaves, hcur, List.flatMap_cons, List.mem_append] at hrow ⊢
    tauto
  | rollbackTo h =>
    obtain ⟨rest, hsaves, hsame⟩ := Nested.rollbackTo_eq_some h
    refine ⟨fun row hrow => ?_, fun _ h => h, fun _ h => Or.inl h, rfl, rfl⟩
    simp only [Tx.rows, hsame, hsaves, List.flatMap_cons, List.mem_append] at hrow ⊢
    tauto
  | @unclaim c id =>
    refine ⟨fun row hrow => ?_, fun _ h => List.mem_cons_of_mem _ h, fun key hkey => ?_, rfl, rfl⟩
    · simp only [Tx.rows, Nested.modify_cur, Nested.modify_saves, List.flatMap_cons, List.mem_append] at hrow ⊢
      rcases hrow with hrow | hrow
      · refine Or.inl ?_
        unfold Work.delete at hrow
        split at hrow
        · exact (List.mem_filter.1 hrow).1
        · exact hrow
      · exact Or.inr hrow
    · rcases List.mem_cons.1 hkey with rfl | hkey
      · exact Or.inr rfl
      · exact Or.inl hkey
  | handlerOk value =>
    exact ⟨fun _ h => h, fun _ h => h, fun _ h => Or.inl h, rfl, rfl⟩
  | handlerErr e =>
    exact ⟨fun _ h => h, fun _ h => h, fun _ h => Or.inl h, rfl, rfl⟩

/-! ### Steps of a worker -/

section Worker

variable {s : State ε T W} {w : W}

theorem mark_of_tx {p : Phase ε T} {tx : Tx} (h : p.tx = some tx) : p.mark = tx.mark := by
  cases p <;> first | (cases h; rfl) | nomatch h

/-- A worker without a transaction, or with one that has just begun. -/
theorem change_empty {p : Phase ε T} (hs : p.Sound cfg) (hlocks : p.locks = []) (hrows : p.rows = []) (hseen : p.seen = [])
    (hmark : p.mark ≤ s.history.length)
    (ha : ∀ job a, p.answer = some (job, a) → ∀ id ∈ job.settled a, s.Known p.mark (job.consumer, id)) : Change cfg s w p := by
  refine ⟨hs, ?_, ?_, hmark, ?_, ha⟩
  · simp only [hlocks, List.not_mem_nil, false_implies, implies_true]
  · simp only [hrows, List.not_mem_nil, false_implies, implies_true]
  · simp only [hseen, List.not_mem_nil, false_implies, implies_true]

/-- A worker that returned. -/
theorem change_returned {job : Job} {mark : Nat} {a : Answer ε T} (hmark : mark ≤ s.history.length)
    (ha : ∀ id ∈ job.settled a, s.Known mark (job.consumer, id)) : Change cfg s w (.returned job mark a) := by
  refine change_empty trivial rfl rfl rfl hmark ?_
  intro job' a' h
  cases h
  exact ha

/-- A worker that goes on with its transaction: it gives up no lock, and its new locks, rows and sightings are as they may be. -/
theorem change_open (hI : Inv cfg s) {tx tx' : Tx} {p : Phase ε T} (htx : (s.phase w).tx = some tx) (htx' : p.tx = some tx')
    (hs : p.Sound cfg) (hmark : tx'.mark = tx.mark) (hkept : ∀ key ∈ tx.locks, key ∈ tx'.locks)
    (hlocks : ∀ key ∈ tx'.locks, key ∈ tx.locks ∨ s.Free w key)
    (hrows : ∀ row ∈ tx'.rows, row ∈ tx.rows ∨ row.key ∈ tx'.locks ∧ s.rows row.key = none ∧ row.claimedAt = s.now)
    (hseen : ∀ key ∈ tx'.seen, key ∈ tx.seen ∨ (s.rows key).isSome)
    (ha : ∀ job a, p.answer = some (job, a) → ∀ id ∈ job.settled a, s.Known p.mark (job.consumer, id)) : Change cfg s w p := by
  have hl : (s.phase w).locks = tx.locks := by simp only [Phase.locks, htx, Option.map_some, Option.getD_some]
  have hr : (s.phase w).rows = tx.rows := by simp only [Phase.rows, htx, Option.map_some, Option.getD_some]
  have hsn : (s.phase w).seen = tx.seen := by simp only [Phase.seen, htx, Option.map_some, Option.getD_some]
  have hl' : p.locks = tx'.locks := by simp only [Phase.locks, htx', Option.map_some, Option.getD_some]
  have hr' : p.rows = tx'.rows := by simp only [Phase.rows, htx', Option.map_some, Option.getD_some]
  have hsn' : p.seen = tx'.seen := by simp only [Phase.seen, htx', Option.map_some, Option.getD_some]
  have hm : p.mark = (s.phase w).mark := by rw [mark_of_tx htx, mark_of_tx htx', hmark]
  refine ⟨hs, ?_, ?_, ?_, ?_, ha⟩
  · intro key hkey
    rw [hl'] at hkey
    rw [hl]
    exact hlocks key hkey
  · intro row hrow
    rw [hr'] at hrow
    rw [hl', hr]
    rcases hrows row hrow with h | ⟨h1, h2, h3⟩
    · have hrow' : row ∈ (s.phase w).rows := by rw [hr]; exact h
      have hkey := hI.locked w row hrow'
      rw [hl] at hkey
      exact ⟨hkept _ hkey, hI.unrecorded w row hrow', Or.inl h⟩
    · exact ⟨h1, h2, Or.inr h3⟩
  · rw [hm]
    exact hI.mark w
  · intro key hkey
    rw [hsn'] at hkey
    rw [hm]
    rcases hseen key hkey with h | h
    · exact hI.seen w key (by rw [hsn]; exact h)
    · exact Or.inl h

/-- A worker that goes on with its transaction as it is, or marked as failed. -/
theorem change_same (hI : Inv cfg s) {tx tx' : Tx} {p : Phase ε T} (htx : (s.phase w).tx = some tx) (htx' : p.tx = some tx')
    (hsame : tx' = tx ∨ tx' = { tx with failed := true }) (hs : p.Sound cfg)
    (ha : ∀ job a, p.answer = some (job, a) → ∀ id ∈ job.settled a, s.Known p.mark (job.consumer, id)) : Change cfg s w p := by
  rcases hsame with rfl | rfl
  · exact change_open hI htx htx' hs rfl (fun _ h => h) (fun _ h => Or.inl h) (fun _ h => Or.inl h) (fun _ h => Or.inl h) ha
  · exact change_open hI htx htx' hs rfl (fun _ h => h) (fun _ h => Or.inl h) (fun _ h => Or.inl h) (fun _ h => Or.inl h) ha

/-- A key is taken: it is seen where there is a row, or inserted where there is none. -/
theorem take_frame (cfg : Config) {tx : Tx} (hd : tx.work.cur.deleted = []) (rows : Key → Option Int) (now statement : Int) (key : Key) :
    (∀ k ∈ tx.locks, k ∈ (tx.take cfg rows now statement key).2.locks) ∧
      (∀ k ∈ (tx.take cfg rows now statement key).2.locks, k ∈ tx.locks ∨ k = key) ∧
      (∀ row ∈ (tx.take cfg rows now statement key).2.rows,
        row ∈ tx.rows ∨ row.key ∈ (tx.take cfg rows now statement key).2.locks ∧ rows row.key = none ∧ row.claimedAt = now) ∧
      (∀ k ∈ (tx.take cfg rows now statement key).2.seen, k ∈ tx.seen ∨ (rows k).isSome) ∧
      (tx.take cfg rows now statement key).2.mark = tx.mark ∧
      (tx.take cfg rows now statement key).2.work.cur.deleted = [] := by
  rcases take_cases cfg rows now statement tx key with ⟨_, he⟩ | ⟨_, hr, he⟩ | ⟨_, hr, he⟩
  · rw [he]
    exact ⟨fun _ h => h, fun _ h => Or.inl h, fun _ h => Or.inl h, fun _ h => Or.inl h, rfl, hd⟩
  · rw [he]
    refine ⟨?_, ?_, fun _ h => Or.inl h, ?_, rfl, hd⟩
    · intro k hk
      dsimp only
      split
      · exact List.mem_cons_of_mem _ hk
      · exact hk
    · intro k hk
      dsimp only at hk
      split at hk
      · exact (List.mem_cons.1 hk).symm
      · exact Or.inl hk
    · intro k hk
      rcases List.mem_cons.1 hk with rfl | hk
      · exact Or.inr hr
      · exact Or.inl hk
  · rw [he]
    refine ⟨fun _ h => List.mem_cons_of_mem _ h, fun k hk => (List.mem_cons.1 hk).symm, ?_, fun _ h => Or.inl h, rfl, hd⟩
    intro row hrow
    simp only [Tx.rows, Nested.modify_cur, Nested.modify_saves, List.flatMap_cons, List.mem_append, Work.insert,
      List.mem_singleton] at hrow ⊢
    rcases hrow with (hrow | rfl) | hrow
    · exact Or.inl (Or.inl hrow)
    · refine Or.inr ⟨List.mem_cons_self, ?_, rfl⟩
      rcases hr with hr | hr
      · exact hr
      · rw [hd] at hr
        exact absurd hr List.not_mem_nil
    · exact Or.inl (Or.inr hrow)

variable [DecidableEq W] {s' : State ε T W}

/-- A step of a worker in which nothing fails. -/
theorem advance_moved (hI : Inv cfg s) (h : Advance cfg s w s') : Moved cfg s s' := by
  have hsound := hI.sound w
  have hmark := hI.mark w
  have hseen := hI.seen w
  cases h with
  | skip h hr =>
    refine .change (change_returned le_rfl ?_)
    simp only [Job.settled_of_ret hr, List.not_mem_nil, false_implies, implies_true]
  | begin h hr =>
    rw [h] at hsound
    exact .change (change_empty ⟨hsound, (Job.wp_routine hr cfg _ _).1⟩ rfl rfl rfl le_rfl fun _ _ ha => nomatch ha)
  | call h hfree hr =>
    rw [h] at hsound hfree
    obtain ⟨hrows, hkept, hlocks, hseen', hmark'⟩ := answers_frame hr
    refine .change (change_open hI (by rw [h]; rfl) rfl ⟨hsound.1, hsound.2.2 _ _ (.answers hr)⟩ hmark' hkept ?_
      (fun row hrow => Or.inl (hrows row hrow)) (fun key hkey => Or.inl (hseen' ▸ hkey)) fun _ _ ha => nomatch ha)
    intro key hkey
    rcases hlocks key hkey with hkey | rfl
    · exact Or.inl hkey
    · exact Or.inr (hfree key rfl)
  | @claim job tx request k h =>
    rw [h] at hsound
    obtain ⟨hjob, ⟨hnone, hdel⟩, hpost⟩ := hsound
    refine .change (change_same hI (by rw [h]; rfl) rfl (Or.inl rfl) ?_ fun _ _ ha => nomatch ha)
    refine ⟨hjob, hdel, List.pairwise_singleton .., ?_, ?_, ?_⟩
    · simp only [hnone, List.not_mem_nil, false_implies, implies_true]
    · intro claims tx' hc
      obtain ⟨claim, rfl⟩ : ∃ claim, claims = [claim] := List.length_eq_one_iff.1 (claimed_spec hc).length
      exact hpost _ _ (.claim hc)
    · intro e tx' hf
      exact hpost _ _ (.fails (e := e) rfl hf)
  | claimMany h =>
    rw [h] at hsound
    obtain ⟨hjob, ⟨hnone, hdel, hsorted⟩, hpost⟩ := hsound
    refine .change (change_same hI (by rw [h]; rfl) rfl (Or.inl rfl) ?_ fun _ _ ha => nomatch ha)
    refine ⟨hjob, hdel, hsorted, ?_, ?_, ?_⟩
    · simp only [hnone, List.not_mem_nil, false_implies, implies_true]
    · intro claims tx' hc
      exact hpost _ _ (.claimMany hc)
    · intro e tx' hf
      exact hpost _ _ (.fails (e := e) rfl hf)
  | @take job tx statement consumer id todo claims resume h hfree =>
    rw [h] at hsound
    obtain ⟨hjob, hdel, hsorted, hbelow, hok, herr⟩ := hsound
    obtain ⟨hkept, hlocks, hrows, hseen', hmark', hdel'⟩ := take_frame cfg hdel s.rows s.now statement (consumer, id)
    rw [List.pairwise_cons] at hsorted
    refine .change (change_open hI (by rw [h]; rfl) rfl ?_ hmark' hkept ?_ hrows hseen' fun _ _ ha => nomatch ha)
    · refine ⟨hjob, hdel', hsorted.2, ?_, ?_, herr⟩
      · intro key hkey x hx
        rcases hlocks key hkey with hkey | rfl
        · exact hbelow key hkey x (List.mem_cons_of_mem _ hx)
        · exact hsorted.1 x hx
      · intro claims' tx' hc
        rw [List.append_assoc]
        exact hok _ _ (.cons s.rows s.now statement hc)
    · intro key hkey
      rcases hlocks key hkey with hkey | rfl
      · exact Or.inl hkey
      · exact Or.inr hfree
  | claimed h =>
    rw [h] at hsound
    obtain ⟨hjob, _, _, _, hok, _⟩ := hsound
    have hwp := hok [] _ (.nil _)
    rw [List.append_nil] at hwp
    exact .change (change_same hI (by rw [h]; rfl) rfl (Or.inl rfl) ⟨hjob, hwp⟩ fun _ _ ha => nomatch ha)
  | drop h =>
    rw [h] at hsound hseen
    refine .change (change_same hI (by rw [h]; rfl) rfl (Or.inl rfl) trivial ?_)
    intro job a ha id hid
    cases ha
    exact hseen _ (hsound.2 id hid)
  | rollback h =>
    rw [h] at hsound hseen hmark
    exact .change (change_returned hmark fun id hid => hseen _ (hsound.2 _ id hid))
  | commit h hlive =>
    rw [h] at hsound
    exact .commit h hsound.1 hsound.2 (Or.inr ⟨_, rfl⟩)
  | closed h =>
    have hans := hI.answers w
    rw [h] at hans hmark
    exact .change (change_returned hmark fun id hid => hans _ _ rfl id hid)
  | abandoned h => exact .change (change_empty trivial rfl rfl rfl (Nat.zero_le _) fun _ _ ha => nomatch ha)

/-- A step of a worker in which something fails. -/
theorem fault_moved (hI : Inv cfg s) (h : Fault s w s') : Moved cfg s s' := by
  have hsound := hI.sound w
  have hmark := hI.mark w
  have hseen := hI.seen w
  cases h with
  | beginFails e h hr =>
    refine .change (change_returned le_rfl ?_)
    simp only [(Job.wp_routine hr cfg 0 0).2 e, List.not_mem_nil, false_implies, implies_true]
  | @callFails job tx c k r e h hr =>
    rw [h] at hsound
    have hwp := hsound.2.2 r { tx with failed := true } (.fails hr rfl)
    exact .change (change_same hI (by rw [h]; rfl) rfl (Or.inr rfl) ⟨hsound.1, hwp⟩ fun _ _ ha => nomatch ha)
  | claimFails e h =>
    rw [h] at hsound
    obtain ⟨hjob, _, _, _, _, herr⟩ := hsound
    exact .change (change_same hI (by rw [h]; rfl) rfl (Or.inr rfl) ⟨hjob, herr e _ rfl⟩ fun _ _ ha => nomatch ha)
  | rollbackFails e h =>
    rw [h] at hsound hseen
    refine .change (change_same hI (by rw [h]; rfl) rfl (Or.inl rfl) trivial ?_)
    intro job a ha id hid
    cases ha
    exact hseen _ (hsound.2 _ id hid)
  | commitFails e h =>
    rw [h] at hsound
    refine .change (change_same hI (by rw [h]; rfl) rfl (Or.inl rfl) trivial ?_)
    intro job a ha id hid
    cases ha
    rw [hsound.2.2.2.2.1 e] at hid
    exact absurd hid List.not_mem_nil
  | commitLands e h =>
    rw [h] at hsound
    exact .commit h hsound.1 hsound.2 (Or.inr ⟨_, rfl⟩)
  | commitLost h hfailed =>
    rw [h] at hsound
    rw [hsound.2.1] at hfailed
    nomatch hfailed
  | dropOpening h => exact .change (change_empty trivial rfl rfl rfl (Nat.zero_le _) fun _ _ ha => nomatch ha)
  | dropRunning h => exact .change (change_same hI (by rw [h]; rfl) rfl (Or.inl rfl) trivial fun _ _ ha => nomatch ha)
  | dropClaiming h => exact .change (change_same hI (by rw [h]; rfl) rfl (Or.inl rfl) trivial fun _ _ ha => nomatch ha)
  | dropCommit h =>
    rw [h] at hsound
    exact .commit h hsound.1 hsound.2 (Or.inl rfl)

end Worker

end InvariantAux

open InvariantAux

/-- Every step of the machine from a state in the invariant. -/
theorem moved_of_step [DecidableEq W] {s s' : State ε T W} (hI : Inv cfg s) (h : (machine cfg).step s s') : Moved cfg s s' := by
  rcases h with ⟨w, h⟩ | ⟨w, h⟩ | h
  · exact advance_moved hI h
  · exact fault_moved hI h
  · cases h with
    | start h hj => exact .change (change_empty hj rfl rfl rfl (Nat.zero_le _) fun _ _ ha => nomatch ha)
    | tick h => exact .tick h
    | purge hclock h => exact .purge hclock h

/-! ## The invariant is kept -/

namespace InvariantAux

section Publish

variable {s : State ε T W} {work : Work} {key : Key}

/-- A commit leaves the rows of other keys as they were. -/
theorem publish_rows_of_notMem (hd : work.deleted = []) (hk : key ∉ work.keys) : (s.publish work).rows key = s.rows key := by
  have hfind : work.inserted.find? (fun row => row.key = key) = none := by
    rw [List.find?_eq_none]
    intro row hrow heq
    rw [decide_eq_true_eq] at heq
    exact hk (heq ▸ List.mem_map_of_mem hrow)
  simp only [State.publish, hfind, hd, List.not_mem_nil, if_false]

/-- A key that was inserted has a row. -/
theorem find_of_mem_keys (hk : key ∈ work.keys) :
    ∃ row ∈ work.inserted, row.key = key ∧ work.inserted.find? (fun row => row.key = key) = some row := by
  have hfind : (work.inserted.find? (fun row => row.key = key)).isSome := by
    rw [List.find?_isSome]
    obtain ⟨row, hrow, hkey⟩ := List.mem_map.1 hk
    exact ⟨row, hrow, decide_eq_true hkey⟩
  obtain ⟨row, hrow⟩ := Option.isSome_iff_exists.1 hfind
  have hkey := List.find?_some hrow
  rw [decide_eq_true_eq] at hkey
  exact ⟨row, List.mem_of_find?_eq_some hrow, hkey, hrow⟩

/-- A commit records the keys it inserted. -/
theorem publish_rows_of_mem (hk : key ∈ work.keys) :
    ∃ row ∈ work.inserted, row.key = key ∧ (s.publish work).rows key = some row.processedAt := by
  obtain ⟨row, hrow, hkey, hfind⟩ := find_of_mem_keys hk
  refine ⟨row, hrow, hkey, ?_⟩
  simp only [State.publish, hfind]

/-- A commit forgets nothing that was known. -/
theorem known_publish {mark : Nat} (hd : work.deleted = []) (h : s.Known mark key) : (s.publish work).Known mark key := by
  rcases h with h | ⟨newer, keys, older, hh, hk, hm⟩
  · refine Or.inl ?_
    by_cases hk : key ∈ work.keys
    · obtain ⟨row, _, _, hr⟩ := publish_rows_of_mem (s := s) hk
      rw [hr]
      rfl
    · rw [publish_rows_of_notMem hd hk]
      exact h
  · refine Or.inr ⟨.committed work :: newer, keys, older, ?_, hk, hm⟩
    simp only [State.publish, hh, List.cons_append]

/-- A purge forgets nothing that was known. -/
theorem known_purge {mark : Nat} {keys : List Key} (hmark : mark ≤ s.history.length) (h : s.Known mark key) :
    (s.purge keys).Known mark key := by
  rcases h with h | ⟨newer, keys', older, hh, hk, hm⟩
  · by_cases hk : key ∈ keys
    · exact Or.inr ⟨[], keys, s.history, rfl, hk, hmark⟩
    · refine Or.inl ?_
      simp only [State.purge, if_neg hk]
      exact h
  · refine Or.inr ⟨.purged keys :: newer, keys', older, ?_, hk, hm⟩
    simp only [State.purge, hh, List.cons_append]

end Publish

/-- A commit of rows that no open transaction holds. -/
theorem inv_publish {s : State ε T W} {work : Work} (hI : Inv cfg s) (hd : work.deleted = [])
    (hfree : ∀ w, ∀ key ∈ (s.phase w).locks, key ∉ work.keys) : Inv cfg (s.publish work) := by
  refine ⟨hI.sound, hI.exclusive, hI.locked, ?_, ?_, ?_, ?_⟩
  · intro w row hrow
    rw [publish_rows_of_notMem hd (hfree w row.key (hI.locked w row hrow))]
    exact hI.unrecorded w row hrow
  · intro w
    have := hI.mark w
    simp only [State.publish, List.length_cons]
    omega
  · intro w key hkey
    exact known_publish hd (hI.seen w key hkey)
  · intro w job a ha id hid
    exact known_publish hd (hI.answers w job a ha id hid)

/-- A purge of committed rows. -/
theorem inv_purge {s : State ε T W} {keys : List Key} (hI : Inv cfg s) : Inv cfg (s.purge keys) := by
  refine ⟨hI.sound, hI.exclusive, hI.locked, ?_, ?_, ?_, ?_⟩
  · intro w row hrow
    simp only [State.purge]
    split
    · rfl
    · exact hI.unrecorded w row hrow
  · intro w
    have := hI.mark w
    simp only [State.purge, List.length_cons]
    omega
  · intro w key hkey
    exact known_purge (hI.mark w) (hI.seen w key hkey)
  · intro w job a ha id hid
    exact known_purge (hI.mark w) (hI.answers w job a ha id hid)

/-- The keys a transaction inserted are locked by no other. -/
theorem notMem_keys_of_exclusive {s : State ε T W} (hI : Inv cfg s) {w : W} {tx : Tx} (htx : (s.phase w).tx = some tx) :
    ∀ w', w' ≠ w → ∀ key ∈ (s.phase w').locks, key ∉ tx.work.cur.keys := by
  intro w' hne key hkey hmem
  obtain ⟨row, hrow, rfl⟩ := List.mem_map.1 hmem
  have hrows : row ∈ (s.phase w).rows := by
    simp only [Phase.rows, htx, Option.map_some, Option.getD_some, Tx.rows, List.flatMap_cons, List.mem_append]
    exact Or.inl hrow
  exact hI.exclusive w w' (Ne.symm hne) row.key (hI.locked w row hrows) hkey

/-- The invariant holds where nothing has happened. -/
theorem inv_initial {s : State ε T W} (h : s.Initial) : Inv cfg s := by
  obtain ⟨hrows, hhist, hphase⟩ := h
  refine ⟨?_, ?_, ?_, ?_, ?_, ?_, ?_⟩ <;> rw [hphase]
  · intro w
    trivial
  · intro w w' _ key hkey
    exact absurd hkey List.not_mem_nil
  · intro w row hrow
    exact absurd hrow List.not_mem_nil
  · intro w row hrow
    exact absurd hrow List.not_mem_nil
  · intro w
    exact Nat.zero_le _
  · intro w key hkey
    exact absurd hkey List.not_mem_nil
  · intro w job a ha
    nomatch ha

variable [DecidableEq W] {s : State ε T W} {w : W} {p : Phase ε T}

/-- What holds of the worker that went on and of all the others holds of all. -/
theorem forall_set {P : W → Phase ε T → Prop} (hp : P w p) (h : ∀ w', w' ≠ w → P w' (s.phase w')) (w' : W) :
    P w' ((s.set w p).phase w') := by
  by_cases hw : w' = w
  · subst hw
    rw [phase_set_self]
    exact hp
  · rw [phase_set_of_ne hw]
    exact h w' hw

/-- The invariant is kept where one worker goes on. -/
theorem inv_set (hI : Inv cfg s) (h : Change cfg s w p) : Inv cfg (s.set w p) := by
  have hfree : ∀ w', w' ≠ w → ∀ key ∈ p.locks, key ∉ (s.phase w').locks := by
    intro w' hne key hkey
    rcases h.locks key hkey with hl | hf
    · exact hI.exclusive w w' (Ne.symm hne) key hl
    · exact hf w' hne
  refine ⟨?_, ?_, ?_, ?_, ?_, ?_, ?_⟩
  · exact forall_set (P := fun _ q => q.Sound cfg) h.sound fun w' _ => hI.sound w'
  · intro w₁ w₂ hne key hkey hkey'
    by_cases h₁ : w₁ = w
    · subst h₁
      rw [phase_set_self] at hkey
      rw [phase_set_of_ne (Ne.symm hne)] at hkey'
      exact hfree w₂ (Ne.symm hne) key hkey hkey'
    · rw [phase_set_of_ne h₁] at hkey
      by_cases h₂ : w₂ = w
      · subst h₂
        rw [phase_set_self] at hkey'
        exact hfree w₁ hne key hkey' hkey
      · rw [phase_set_of_ne h₂] at hkey'
        exact hI.exclusive w₁ w₂ hne key hkey hkey'
  · exact forall_set (P := fun _ q => ∀ row ∈ q.rows, row.key ∈ q.locks) (fun row hrow => (h.rows row hrow).1)
      fun w' _ => hI.locked w'
  · exact forall_set (P := fun _ q => ∀ row ∈ q.rows, s.rows row.key = none) (fun row hrow => (h.rows row hrow).2.1)
      fun w' _ => hI.unrecorded w'
  · exact forall_set (P := fun _ q => q.mark ≤ s.history.length) h.mark fun w' _ => hI.mark w'
  · exact forall_set (P := fun _ q => ∀ key ∈ q.seen, s.Known q.mark key) h.seen fun w' _ => hI.seen w'
  · exact forall_set (P := fun _ q => ∀ job a, q.answer = some (job, a) → ∀ id ∈ job.settled a,
      s.Known q.mark (job.consumer, id)) h.answers fun w' _ => hI.answers w'

/-- A worker that stops in the middle leaves the others as they were. -/
theorem inv_set_idle (hI : Inv cfg s) (w : W) : Inv cfg (s.set w .idle) :=
  inv_set hI (change_empty trivial rfl rfl rfl (Nat.zero_le _) fun _ _ ha => nomatch ha)

/-- Giving up a transaction and committing its work are two halves of a commit. -/
theorem set_publish_set (s : State ε T W) (w : W) (work : Work) (p : Phase ε T) :
    ((s.set w .idle).publish work).set w p = (s.publish work).set w p := by
  simp only [State.set, State.publish, Function.update_idem]

/-- The invariant is kept by a commit. -/
theorem inv_commit (hI : Inv cfg s) {job : Job} {tx : Tx} {k : Except (InboxError ε) Unit → Answer ε T}
    (h : s.phase w = .running job tx (.ret (.commit k))) (hleaf : job.Leaf (.commit k) tx)
    (hp : p = .idle ∨ ∃ r, p = .returned job tx.mark (k r)) : Inv cfg ((s.publish tx.work.cur).set w p) := by
  obtain ⟨hlive, hclean, hbal, herr, hok⟩ := hleaf
  have htx : (s.phase w).tx = some tx := by rw [h]; rfl
  have hpub : Inv cfg ((s.set w .idle).publish tx.work.cur) := by
    refine inv_publish (inv_set_idle hI w) hclean.deleted ?_
    exact forall_set (P := fun _ q => ∀ key ∈ q.locks, key ∉ tx.work.cur.keys) (fun key hkey => absurd hkey List.not_mem_nil)
      (notMem_keys_of_exclusive hI htx)
  rw [← set_publish_set]
  rcases hp with rfl | ⟨r, rfl⟩
  · exact inv_set_idle hpub w
  · refine inv_set hpub (change_returned ?_ ?_)
    · have := hI.mark w
      rw [h] at this
      exact Nat.le_succ_of_le this
    · intro id hid
      cases r with
      | error e =>
        rw [herr e] at hid
        exact absurd hid List.not_mem_nil
      | ok u =>
        rcases hok id hid with hs | hk
        · have hknown := hI.seen w (job.consumer, id)
          rw [h] at hknown
          exact known_publish (s := s.set w .idle) hclean.deleted (hknown hs)
        · obtain ⟨row, _, _, hr⟩ := publish_rows_of_mem (s := s.set w .idle) hk
          exact Or.inl (by rw [hr]; rfl)

/-- The invariant is kept by everything a step can do. -/
theorem inv_of_moved {s' : State ε T W} (hI : Inv cfg s) (h : Moved cfg s s') : Inv cfg s' := by
  cases h with
  | change h => exact inv_set hI h
  | commit h hjob hleaf hp => exact inv_commit hI h hleaf hp
  | tick h => exact ⟨hI.sound, hI.exclusive, hI.locked, hI.unrecorded, hI.mark, hI.seen, hI.answers⟩
  | purge hclock h => exact inv_purge hI

end InvariantAux

/-- The invariant holds in every state the workers can reach. -/
theorem inv_of_reachable [DecidableEq W] {s : State ε T W} (h : (machine cfg).Reachable s) : Inv cfg s :=
  h.invariant (fun _ h => inv_initial h) fun _ _ _ hI hs => inv_of_moved hI (moved_of_step hI hs)

end Txbox
