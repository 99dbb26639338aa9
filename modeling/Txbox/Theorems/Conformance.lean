import Txbox.Lemmas.Tokens

/-!
# What the conformance suite accepts

The verdict of the suite on the store of `tests/it/conformance.rs` is known for every fold of its ids, with or without its leak. A
store that keeps the contract of `InboxStore` answers as the one that neither folds nor leaks, so it passes, on any table and as often
as it is run; the three backends do.
-/

namespace Txbox

open Lib Testing ConformanceAux ContractAux

/-- Run after run on one store. -/
def Testing.conformanceEach {ε : Type} (boxed : InboxError ε → HandlerError ε) : List Run → StoreProg ε Unit
  | [] => return ()
  | run :: runs => do
    conformance boxed run
    conformanceEach boxed runs

/-- The row is one of a run. -/
def Testing.Run.Owns (run : Run) (key : String × String) : Prop := run.start.toList <+: key.1.toList

/-- A backend passes the suite as often as it is run, whatever `?` makes of an error and whatever the table holds, as long as `needs`
holds of the pool and the calls on it, and the numbers of the runs are distinct and new. No transaction is left open, and every row that
is no run's own is as it was. -/
def Conformant {ε : Type} (b : SqlBackend ε) (needs : Pool b → List (Pool b × StoreOp × Pool b) → Prop) : Prop :=
  ∀ (boxed : InboxError ε → HandlerError ε) (runs : List Run) (t : Table b.Columns) (conn : b.Conn) (readings : Nat → Readings),
    let pool := Pool.idle t conn readings
    t.keys.Finite → needs pool (Prog.steps Pool.exec (conformanceEach boxed runs) pool) → (runs.map Run.n).Nodup →
      (∀ run ∈ runs, ∀ key ∈ t.keys, ¬run.Owns key) →
      ∃ s, Prog.outcome Pool.exec (conformanceEach boxed runs) pool = (.ok (), s) ∧
        (∃ contents, s.turn.link = ⟨contents, .ended⟩) ∧ ∀ key, (∀ run ∈ runs, ¬run.Owns key) → s.table key = t key

namespace ConformanceAux

variable {ε : Type}

/-! ## The numbers of the runs -/

theorem digitChar_injective : ∀ i < 16, ∀ j < 16, Nat.digitChar i = Nat.digitChar j → i = j := by decide

/-- Numbers with the same hexadecimal digits are equal up to the power of the last. -/
theorem mod_eq_of_digits {m n : Nat} (k : Nat) (h : ∀ i < k, m / 16 ^ i % 16 = n / 16 ^ i % 16) : m % 16 ^ k = n % 16 ^ k := by
  induction k with
  | zero => simp [Nat.mod_one]
  | succ k ih =>
    rw [Nat.mod_pow_succ, Nat.mod_pow_succ, ih fun i hi => h i (by omega), h k (by omega)]

theorem hex_injective {m n : UInt64} (h : hex m = hex n) : m = n := by
  have hlists := String.ofList_injective h
  have hdigits : ∀ i < 16, m.toNat / 16 ^ i % 16 = n.toNat / 16 ^ i % 16 := by
    intro i hi
    have hi' := congrArg (fun l => l[15 - i]?) hlists
    have hsub : 15 - (15 - i) = i := by omega
    simp only [List.getElem?_map, List.getElem?_range (show 15 - i < 16 by omega), Option.map_some, Option.some.injEq, hsub] at hi'
    exact digitChar_injective _ (Nat.mod_lt _ (by decide)) _ (Nat.mod_lt _ (by decide)) hi'
  have hmod := mod_eq_of_digits 16 hdigits
  have hlt : ∀ k : UInt64, k.toNat < 16 ^ 16 := fun k => k.toNat_lt.trans_eq (by norm_num)
  rw [Nat.mod_eq_of_lt (hlt m), Nat.mod_eq_of_lt (hlt n)] at hmod
  exact UInt64.toNat_inj.1 hmod

/-- No row belongs to two runs. -/
theorem not_owns_of_ne {run run' : Run} (hne : run.n ≠ run'.n) {key : String × String} (h : run.Owns key) : ¬run'.Owns key := by
  intro h'
  have hlength : run.start.toList.length = run'.start.toList.length := by rw [(start_length run).1, (start_length run').1]
  have hstart : run.start.toList = run'.start.toList := by
    rw [List.prefix_iff_eq_take.1 h, List.prefix_iff_eq_take.1 h', hlength]
  have htext : "conformance-" ++ hex run.n ++ "-" = "conformance-" ++ hex run'.n ++ "-" := String.toList_injective hstart
  have hlists := congrArg String.toList htext
  simp only [String.toList_append, List.append_assoc, List.append_cancel_left_eq, List.append_cancel_right_eq] at hlists
  exact hne (hex_injective (String.toList_injective hlists))

/-! ## Run after run -/

theorem nodup_distinctIds : distinctIds.Nodup := by
  have hlong : ∀ s t : String, t.length < 511 → repeated 'm' 511 ++ s ≠ t := by
    rintro s t ht rfl
    rw [String.length_append, ← String.length_toList, toList_repeated, List.length_replicate] at ht
    omega
  have hab : repeated 'm' 511 ++ "a" ≠ repeated 'm' 511 ++ "b" := by simp
  simp only [distinctIds, List.nodup_cons, List.mem_cons, List.not_mem_nil, or_false, not_or, List.nodup_nil, and_true]
  exact ⟨⟨hab, hlong _ _ (by decide), hlong _ _ (by decide), hlong _ _ (by decide), hlong _ _ (by decide)⟩,
    ⟨hlong _ _ (by decide), hlong _ _ (by decide), hlong _ _ (by decide), hlong _ _ (by decide)⟩, by decide⟩

/-- A store that neither folds nor leaks passes. -/
theorem verdict_id : verdict id false = .ok () := by
  rw [verdict_eq_ok_iff]
  exact ⟨rfl, by decide, by simpa using nodup_distinctIds, by decide⟩

/-- So it does, run after run. -/
theorem outcome_conformanceEach (boxed : InboxError ε → HandlerError ε) {runs : List Run} (hnodup : (runs.map Run.n).Nodup)
    {rows : Finset (String × String)} (hunused : ∀ run ∈ runs, Unused run rows) :
    ∃ rows', Prog.outcome (FakeStore.exec id false) (conformanceEach boxed runs) (between rows) = (.ok (), between rows') ∧
      ∀ key ∈ rows', key ∈ rows ∨ ∃ run ∈ runs, run.Owns key := by
  induction runs generalizing rows with
  | nil => exact ⟨rows, rfl, fun key hkey => Or.inl hkey⟩
  | cons run runs ih =>
    rw [List.map_cons, List.nodup_cons] at hnodup
    obtain ⟨r, s, hrun, hr, hpass⟩ := outcome_conformance id false boxed (hunused run List.mem_cons_self)
    rw [verdict_id] at hr
    obtain ⟨rows₁, hadds, rfl⟩ := hpass hr
    have hunused₁ : ∀ run' ∈ runs, Unused run' rows₁ := by
      intro run' hrun' key hkey
      rcases hadds key hkey with hold | hnew
      · exact hunused run' (List.mem_cons_of_mem _ hrun') key hold
      · refine not_owns_of_ne ?_ hnew
        intro heq
        exact hnodup.1 (heq ▸ List.mem_map_of_mem hrun')
    obtain ⟨rows', hrest, hadds'⟩ := ih hnodup.2 hunused₁
    refine ⟨rows', ?_, ?_⟩
    · rw [conformanceEach, Prog.outcome_do, hrun, hr, Prog.andThen_ok, hrest]
    · intro key hkey
      rcases hadds' key hkey with hkey | ⟨run', hrun', howns⟩
      · rcases hadds key hkey with hkey | howns
        · exact Or.inl hkey
        · exact Or.inr ⟨run, List.mem_cons_self, howns⟩
      · exact Or.inr ⟨run', List.mem_cons_of_mem _ hrun', howns⟩

/-- Run after run makes plain calls, one of each run to `claim_many`. -/
theorem only_conformanceEach (boxed : InboxError ε → HandlerError ε) (runs : List Run) :
    Plainly runs.length (conformanceEach boxed runs) := by
  induction runs with
  | nil => exact only_ret ()
  | cons run runs ih =>
    rw [List.length_cons, Nat.add_comm]
    exact only_add (only_conformance boxed run) fun _ => ih

/-- A backend whose claims do what they should passes the suite, if it is ready for the suite's calls. -/
theorem conformant_of_claimsRight {b : SqlBackend ε} {needs : Pool b → List (Pool b × StoreOp × Pool b) → Prop}
    {ready : StoreOp → b.Conn → Table b.Columns → Prop} (hb : ClaimsRight b ready)
    (hready : ∀ boxed runs t conn readings,
      let steps := Prog.steps Pool.exec (conformanceEach boxed runs) (Pool.idle t conn readings)
      needs (Pool.idle t conn readings) steps → ∀ step ∈ steps, step.1.Made ready step.2.1) : Conformant b needs := by
  intro boxed runs t conn readings pool hfin hneeds hnodup hunused
  have hstart : Shows t pool (between hfin.toFinset) := .idle (fun _ _ => rfl) fun key => (Set.Finite.mem_toFinset hfin).symm
  have hunused' : ∀ run ∈ runs, Unused run hfin.toFinset :=
    fun run hrun key hkey => hunused run hrun key ((Set.Finite.mem_toFinset hfin).1 hkey)
  obtain ⟨rows', hout, hadds⟩ := outcome_conformanceEach boxed hnodup hunused'
  obtain ⟨hresult, hshows⟩ := Prog.outcome_simulated (keepsContract hb t) (hready boxed runs t conn readings hneeds) hstart
  rw [hout] at hresult hshows
  obtain ⟨⟨r, s⟩, hrun⟩ : ∃ p, Prog.outcome Pool.exec (conformanceEach boxed runs) pool = p := ⟨_, rfl⟩
  rw [hrun] at hresult hshows
  simp only at hresult hshows
  subst hresult
  refine ⟨s, hrun, ?_, ?_⟩
  · cases hshows with
    | idle hkeeps hrows => exact ⟨_, rfl⟩
  · cases hshows with
    | @idle contents conn' calls readings' _ hkeeps hrows =>
      intro key hkey
      by_cases hold : key ∈ t.keys
      · exact hkeeps key hold
      · have hnew : key ∉ contents.table.keys := by
          intro hmem
          rcases hadds key ((hrows key).1 hmem) with hin | ⟨run, hrun, howns⟩
          · exact hold ((Set.Finite.mem_toFinset hfin).1 hin)
          · exact hkey run hrun howns
        rw [Table.mem_keys_iff, not_not] at hold hnew
        exact hnew.trans hold.symm

end ConformanceAux

/-- On every table without rows of the run, the suite comes to its verdict on the store of the tests, and the stores it passes are
those that do not leak and keep apart the ids that it uses. -/
theorem conformance_verdict {ε : Type} (fold : String → String) (leak : Bool) (boxed : InboxError ε → HandlerError ε) (run : Run)
    (rows : Finset (String × String)) (h : ∀ key ∈ rows, ¬run.Owns key) :
    (Prog.outcome (FakeStore.exec fold leak) (conformance boxed run) ⟨rows, ∅, none⟩).1 = verdict fold leak ∧
      (verdict fold leak = .ok () ↔
        leak = false ∧ fold "dropped" ≠ fold "later" ∧ (distinctIds.map fold).Nodup ∧ (["a", "b", "c"].map fold).Nodup) := by
  obtain ⟨r, s, hrun, hr, _⟩ := outcome_conformance fold leak boxed h
  refine ⟨?_, verdict_eq_ok_iff fold leak⟩
  have hresult := congrArg Prod.fst hrun
  exact hresult.trans hr

/-- A store that leaks, next to the rows of another application. -/
theorem conformance_verdict_leak :
    (Prog.outcome (FakeStore.exec (ε := Unit) id true) (conformance (fun _ => .text "inbox") ⟨7⟩) ⟨{("newsletter", "issue-9")}, ∅, none⟩).1 =
      .error droppedMessage := by
  have hunused : ∀ key ∈ ({("newsletter", "issue-9")} : Finset (String × String)), ¬Run.Owns ⟨7⟩ key := by
    intro key hkey
    rw [Finset.mem_singleton.1 hkey, Run.Owns, Run.start, String.toList_append, String.toList_append]
    simp
  exact (conformance_verdict id true _ ⟨7⟩ _ hunused).1

/-- The three backends pass the suite, run after run, on every table; MySQL as long as the tokens it draws do not repeat. -/
theorem backends_conformant (ε : Type) {ι : Type} [LinearOrder ι] (json : JsonCodec) :
    (∀ server : PurgeServer Int Int ι Duration, Conformant (PgInbox.sqlBackend ε server) fun _ _ => True) ∧
    (∀ server : PurgeServer DateTime Int ι DateTime, Conformant (SqliteInbox.sqlBackend ε json server) fun _ _ => True) ∧
    (∀ server : PurgeServer Int MySqlInbox.Columns ι Nat,
      Conformant (MySqlInbox.sqlBackend ε json server) MySqlInbox.FreshTokens) := by
  refine ⟨fun server => ?_, fun server => ?_, fun server => ?_⟩
  · refine conformant_of_claimsRight (claimsRight_pg server) ?_
    intro boxed runs t conn readings steps _ step hstep
    obtain ⟨hplain, hnone⟩ := Prog.steps_of_only (only_conformanceEach boxed runs).only hstep
    refine ⟨hplain, ?_⟩
    change PgInbox.TimeoutAccepted step.2.1.lockTimeout
    rw [hnone]
    exact fun timeout h => nomatch h
  · refine conformant_of_claimsRight (claimsRight_sqlite json server) ?_
    intro boxed runs t conn readings steps _ step hstep
    exact ⟨(Prog.steps_of_only (only_conformanceEach boxed runs).only hstep).1, trivial⟩
  · refine conformant_of_claimsRight claimsRight_mysql ?_
    intro boxed runs t conn readings steps hfresh
    have hplain := (only_conformanceEach boxed runs).only.imp fun op hop => hop.1
    exact made_of_drawn hplain hfresh.distinct ⟨hfresh.free, hfresh.free⟩

namespace MySqlInbox

/-- A table with one row, of another application. -/
def claimed : Table Columns := Function.update (fun _ => none) ("courier", "crate-7") (some ⟨0, none⟩)

/-- A pool on that table. -/
noncomputable def pool : Pool (sqlBackend Unit JsonCodec.list purgeServer) :=
  Pool.idle claimed (⟨⟨50, none⟩, fun _ => 0, fun _ => 0, claimed⟩ : Conn) fun k => ⟨fun _ => k, fun n => UInt64.ofNat (k + n)⟩

/-- A run draws one number, and no row carries one. -/
theorem freshTokens_pool (boxed : InboxError Unit → HandlerError Unit) :
    FreshTokens pool (Prog.steps Pool.exec (conformanceEach boxed [⟨7⟩]) pool) := by
  constructor
  · obtain ⟨steps, hsteps⟩ : ∃ steps, Prog.steps Pool.exec (conformanceEach boxed [⟨7⟩]) pool = steps := ⟨_, rfl⟩
    have hcount : (Prog.steps Pool.exec (conformanceEach boxed [⟨7⟩]) pool).countP (fun step => step.2.1.isClaimMany) ≤ 1 :=
      Prog.countP_steps_le (only_conformanceEach boxed [⟨7⟩]).atMost pool
    rw [hsteps, ← length_drawn] at hcount
    rw [hsteps]
    match drawn steps, hcount with
    | [], _ => exact List.nodup_nil
    | [token], _ => exact List.nodup_singleton token
  · intro key columns hcolumns token _
    have hcolumns' : columns = ⟨0, none⟩ := by
      by_cases hkey : key = ("courier", "crate-7")
      · subst hkey
        simpa [pool, Pool.idle, Pool.table, claimed, eq_comm] using hcolumns
      · simp [pool, Pool.idle, Pool.table, claimed, hkey] at hcolumns
    rw [hcolumns']
    simp

end MySqlInbox

open MySqlInbox in
/-- A run on MySQL, next to that row. -/
theorem backends_conformant_mysql : ∃ s : Pool (sqlBackend Unit JsonCodec.list purgeServer),
    Prog.outcome Pool.exec (conformanceEach (fun _ => .text "inbox") [⟨7⟩]) pool = (.ok (), s) ∧
      s.table ("courier", "crate-7") = some (⟨0, none⟩ : Columns) := by
  have hkeys : ∀ key ∈ claimed.keys, key = ("courier", "crate-7") := by
    intro key hkey
    by_contra hne
    rw [Table.mem_keys_iff] at hkey
    exact hkey (Function.update_of_ne hne _ _)
  have howns : ∀ run : Run, ¬run.Owns ("courier", "crate-7") := by
    intro run
    rw [Run.Owns, Run.start, String.toList_append, String.toList_append]
    simp
  have hnodup : ([⟨7⟩].map Run.n).Nodup := List.nodup_singleton _
  obtain ⟨s, hrun, _, hkept⟩ := (backends_conformant Unit JsonCodec.list).2.2 purgeServer (fun _ => .text "inbox") [⟨7⟩] claimed
    ⟨⟨50, none⟩, fun _ => 0, fun _ => 0, claimed⟩ (fun k => ⟨fun _ => k, fun n => UInt64.ofNat (k + n)⟩)
    ((Set.finite_singleton _).subset hkeys) (freshTokens_pool _) hnodup fun run _ key hkey => hkeys key hkey ▸ howns run
  exact ⟨s, hrun, (hkept _ fun run _ => howns run).trans (Function.update_self _ _ _)⟩

end Txbox
