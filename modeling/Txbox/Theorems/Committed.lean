import Txbox.Session
import Txbox.Lemmas.SqlConn

/-!
# A reported success and its commit

`process` commits as soon as the handler has returned `Ok`, and takes the answer of the commit for the fate of the transaction. So what
it reports is true exactly when the handler left the row where that commit finds it (`Kept`). A handler that swallowed the error of a
statement may have left the transaction aborted (PostgreSQL) or ended by a deadlock (MySQL), and then `Processed` is reported and the
row is not there. For handlers without transaction control it is exactly that: what is reported is true when the transaction is live.
-/

namespace Txbox

open Lib

namespace SqlConn

variable {D R ε T α : Type}

/-- What `process` reports is true: if it is `Processed`, the row is committed with the business data as the handler left them, and
others saw the database as it was or as it is now, never a part of the two. -/
def Truthful (server : Server) (handler : MessageId → HandlerProgram D R (Except (HandlerError ε) T)) (self : Consumer)
    (id : MessageId) (db : Database D) : Prop :=
  ∀ value, (runProcess server handler self id db).1 = .returned (.ok (.processed value)) →
    ∃ db', (runProcess server handler self id db).2.2.committed = db' ∧ (self.id, id) ∈ db'.rows ∧
      db'.data = (runProcess server handler self id db).2.1.data ∧
      ∀ seen ∈ (runProcess server handler self id db).2.1.others, seen = db ∨ seen = db'

/-- The connection after a fresh claim. -/
def claimed (db : Database D) (key : Key) : SqlConn D := ⟨db, .live (Named.start { db with rows := insert key db.rows })⟩

/-- The handler run after a fresh claim. -/
def handled (server : Server) (handler : MessageId → HandlerProgram D R (Except (HandlerError ε) T)) (self : Consumer)
    (id : MessageId) (db : Database D) : Except (HandlerError ε) T × Sight D × SqlConn D :=
  runProgram server (handler id) (⟨[], db.data⟩, claimed db (self.id, id))

/-- What a handler may leave to the commit. A transaction is open: the row is in it, and others saw nothing of it but as a whole. It
is aborted or over: all of it had been committed, at once, by the handler. On SQLite a commit is refused if there is no transaction. -/
def Kept (server : Server) (db : Database D) (key : Key) (v : Sight D) (s : SqlConn D) : Prop :=
  match s.tx with
  | .live work => key ∈ work.cur.rows ∧ ∀ seen ∈ v.others, seen = db ∨ seen = work.cur
  | .own work => key ∈ work.cur.rows ∧ ∀ seen ∈ v.others, seen = db ∨ seen = work.cur
  | .aborted _ => key ∈ s.committed.rows ∧ s.committed.data = v.data ∧ ∀ seen ∈ v.others, seen = db ∨ seen = s.committed
  | .auto => server = .sqlite ∨ (key ∈ s.committed.rows ∧ ∀ seen ∈ v.others, seen = db ∨ seen = s.committed)

/-! ## What the handler sees -/

/-- The handler sees what its connection shows. -/
def Shows (v : Sight D) (s : SqlConn D) : Prop :=
  match s.tx with
  | .live work => v.data = work.cur.data
  | .own work => v.data = work.cur.data
  | .auto => v.data = s.committed.data
  | .aborted _ => True

/-- It does after every statement. -/
theorem shows_note (v : Sight D) (s : SqlConn D) : Shows (v.note s) s := by
  obtain ⟨committed, tx⟩ := s
  cases tx with
  | live work => exact rfl
  | aborted saves => trivial
  | auto => exact rfl
  | own work => exact rfl

/-- It does at the end of every handler, by induction over its statements. -/
theorem shows_runProgram {server : Server} {v : Sight D} {s : SqlConn D} (h : Shows v s) (code : HandlerProgram D R α) :
    Shows (runProgram server code (v, s)).2.1 (runProgram server code (v, s)).2.2 := by
  induction code generalizing v s with
  | ret a => exact h
  | query f k ih => exact ih _ (shows_note _ _)
  | ddl f k ih => exact ih _ (shows_note _ _)
  | command c k ih => exact ih _ (shows_note _ _)
  | control c k ih => exact ih _ (shows_note _ _)

/-! ## Running `process` -/

section Process

variable {server : Server} (handler : MessageId → HandlerProgram D R (Except (HandlerError ε) T)) {self : Consumer}
  {id : MessageId} {db : Database D}

/-- The claim of `process`. -/
theorem answer_claim (onHandler : MessageId → Sight D × SqlConn D → Except (HandlerError ε) T × Sight D × SqlConn D)
    (htaken : server.refuses self.lockTimeout self.id [id] = false) (v : Sight D) :
    answer server onHandler (.claim { ClaimRequest.new self.id id with lockTimeout := self.lockTimeout }) (v, begin db) =
      (.ok (claimRow db.rows (self.id, id)).1, v,
        ⟨db, .live (Named.start { db with rows := (claimRow db.rows (self.id, id)).2 })⟩) := by
  simp only [answer, ClaimRequest.new, begin, statement, Named.start, htaken, Bool.false_eq_true, if_false]
  rfl

/-- A refused claim ends with its error. -/
theorem run_process_refused (h : server.refuses self.lockTimeout self.id [id] = true) :
    ∃ e, (runProcess server handler self id db).1 = .returned (.error e) := by
  have hclaim : ∃ s, answer server (fun id => runProgram server (handler id))
      (.claim { ClaimRequest.new self.id id with lockTimeout := self.lockTimeout }) (⟨[], db.data⟩, begin db) =
        (.error (inboxError .failed), ⟨[], db.data⟩, s) := by
    simp only [answer, ClaimRequest.new, begin, statement, Named.start, h, if_true]
    exact ⟨_, rfl⟩
  obtain ⟨s, hclaim⟩ := hclaim
  refine ⟨inboxError .failed, ?_⟩
  unfold runProcess Consumer.process runOn
  dsimp only
  rw [Consumer.processInTx_eq, Prog.run_call, hclaim]
  rfl

/-- A recorded message is a duplicate. -/
theorem run_process_known (htaken : server.refuses self.lockTimeout self.id [id] = false) (h : (self.id, id) ∈ db.rows) :
    (runProcess server handler self id db).1 = .returned (.ok .duplicate) := by
  have hrow : (claimRow db.rows (self.id, id)).1 = .duplicate := by
    unfold claimRow
    rw [if_pos h]
  unfold runProcess Consumer.process runOn
  dsimp only
  rw [Consumer.processInTx_eq, Prog.run_call, answer_claim _ htaken, hrow]
  rfl

/-- A message that is not recorded is given to its handler, and the transaction is committed if the handler says `Ok`. -/
theorem run_process_fresh (htaken : server.refuses self.lockTimeout self.id [id] = false) (h : (self.id, id) ∉ db.rows) :
    runProcess server handler self id db =
      match handled server handler self id db with
      | (.ok value, v, s) =>
        (.returned (((commit server s).1.mapError inboxError).map fun _ => .processed value), v, (commit server s).2)
      | (.error e, v, s) => (.returned (.error (.handler e)), v, (rollback server s).2) := by
  have hrow : claimRow db.rows (self.id, id) = (.fresh, insert (self.id, id) db.rows) := by
    unfold claimRow
    rw [if_neg h]
  have hcall : answer server (fun id => runProgram server (handler id)) (.handler id)
      (⟨[], db.data⟩, ⟨db, .live (Named.start { db with rows := insert (self.id, id) db.rows })⟩) =
        handled server handler self id db := rfl
  unfold runProcess Consumer.process runOn
  dsimp only
  rw [Consumer.processInTx_eq, Prog.run_call, answer_claim _ htaken, hrow]
  dsimp only
  rw [Prog.run_call, hcall]
  obtain ⟨r, v, s⟩ := handled server handler self id db
  cases r <;> rfl

/-- What a handler leaves is kept exactly when what the commit answers is true. -/
theorem kept_iff {key : Key} {v : Sight D} {s : SqlConn D} (hshows : Shows v s) :
    Kept server db key v s ↔ ((commit server s).1.isOk = true → key ∈ (commit server s).2.committed.rows ∧
      (commit server s).2.committed.data = v.data ∧ ∀ seen ∈ v.others, seen = db ∨ seen = (commit server s).2.committed) := by
  obtain ⟨committed, tx⟩ := s
  cases tx with
  | live work =>
    refine ⟨fun h _ => ⟨h.1, Eq.symm hshows, h.2⟩, fun h => ?_⟩
    obtain ⟨hkey, _, hseen⟩ := h rfl
    exact ⟨hkey, hseen⟩
  | own work =>
    refine ⟨fun h _ => ⟨h.1, Eq.symm hshows, h.2⟩, fun h => ?_⟩
    obtain ⟨hkey, _, hseen⟩ := h rfl
    exact ⟨hkey, hseen⟩
  | aborted saves => exact ⟨fun h _ => h, fun h => h rfl⟩
  | auto =>
    have hready : server ≠ .sqlite → commit server ⟨committed, .auto⟩ = (.ok (), ⟨committed, .auto⟩) := by
      intro hserver
      cases server with
      | postgres => rfl
      | mysql => rfl
      | sqlite => exact absurd rfl hserver
    by_cases hserver : server = .sqlite
    · subst hserver
      exact iff_of_true (Or.inl rfl) fun h => nomatch h
    · rw [hready hserver]
      refine ⟨?_, fun h => ?_⟩
      · rintro (hsqlite | h) _
        · exact absurd hsqlite hserver
        · exact ⟨h.1, Eq.symm hshows, h.2⟩
      · obtain ⟨hkey, _, hseen⟩ := h rfl
        exact Or.inr ⟨hkey, hseen⟩

/-- For a fresh message what `process` reports is true if the handler failed or kept the row. -/
theorem truthful_fresh (htaken : server.refuses self.lockTimeout self.id [id] = false) (h : (self.id, id) ∉ db.rows) :
    Truthful server handler self id db ↔ (handled server handler self id db).1.isOk = false ∨
      Kept server db (self.id, id) (handled server handler self id db).2.1 (handled server handler self id db).2.2 := by
  have hshows : Shows (handled server handler self id db).2.1 (handled server handler self id db).2.2 :=
    shows_runProgram (by exact rfl) (handler id)
  unfold Truthful
  rw [run_process_fresh handler htaken h, kept_iff hshows]
  obtain ⟨r, v, s⟩ := handled server handler self id db
  cases r with
  | error e => exact iff_of_true (fun _ hvalue => nomatch hvalue) (Or.inl rfl)
  | ok value =>
    dsimp only
    cases hcommit : (commit server s).1 with
    | error e => exact iff_of_true (fun _ hvalue => nomatch hvalue) (Or.inr fun hok => nomatch hok)
    | ok u =>
      refine ⟨fun h => Or.inr fun _ => ?_, ?_⟩
      · obtain ⟨db', rfl, hkey, hdata, hseen⟩ := h value rfl
        exact ⟨hkey, hdata, hseen⟩
      · rintro (hok | hkept) _ _
        · nomatch hok
        · exact ⟨_, rfl, hkept rfl⟩

/-- What `process` reports is true if the claim is refused, the message is recorded, or its handler failed or kept the row. -/
theorem truthful_iff : Truthful server handler self id db ↔
    server.refuses self.lockTimeout self.id [id] = true ∨ (self.id, id) ∈ db.rows ∨
      (handled server handler self id db).1.isOk = false ∨
      Kept server db (self.id, id) (handled server handler self id db).2.1 (handled server handler self id db).2.2 := by
  by_cases hrefused : server.refuses self.lockTimeout self.id [id] = true
  · refine iff_of_true (fun value hvalue => ?_) (Or.inl hrefused)
    obtain ⟨e, he⟩ : ∃ e, (runProcess server handler self id db).1 = .returned (.error e) := run_process_refused handler hrefused
    rw [he] at hvalue
    nomatch hvalue
  have htaken := Bool.eq_false_of_not_eq_true hrefused
  by_cases hknown : (self.id, id) ∈ db.rows
  · refine iff_of_true (fun value hvalue => ?_) (Or.inr (Or.inl hknown))
    rw [run_process_known handler htaken hknown] at hvalue
    nomatch hvalue
  · rw [truthful_fresh handler htaken hknown, or_iff_right hrefused, or_iff_right hknown]

end Process

/-! ## Handlers without transaction control -/

/-- The transaction of the inbox is not over, and the inbox rows are as the claim left them. -/
inductive Untouched (db : Database D) (rows : Finset Key) : SqlConn D → Prop
  | live {work : Named String (Database D)} (hcur : work.cur.rows = rows) (hsaves : ∀ p ∈ work.saves, p.2.rows = rows) :
      Untouched db rows ⟨db, .live work⟩
  | aborted {saves : List (String × Database D)} (hsaves : ∀ p ∈ saves, p.2.rows = rows) : Untouched db rows ⟨db, .aborted saves⟩

namespace Untouched

variable {server : Server} {db : Database D} {rows : Finset Key} {s : SqlConn D}

theorem committed (h : Untouched db rows s) : s.committed = db := by
  cases h <;> rfl

/-- A failed statement on an open transaction. -/
theorem fail {work : Named String (Database D)} (hcur : work.cur.rows = rows) (hsaves : ∀ p ∈ work.saves, p.2.rows = rows)
    (e : Failure) : Untouched db rows ⟨db, SqlConn.fail server e work⟩ ∨ Over db.rows ⟨db, SqlConn.fail server e work⟩ := by
  cases server with
  | postgres => exact Or.inl (.aborted hsaves)
  | mysql =>
    cases e with
    | failed => exact Or.inl (.live hcur hsaves)
    | ended => exact Or.inr (.auto rfl)
  | sqlite =>
    cases e with
    | failed => exact Or.inl (.live hcur hsaves)
    | ended => exact Or.inr (.auto rfl)

/-- A statement on business data. -/
theorem statement (h : Untouched db rows s) (f : D → Except Failure (R × D)) :
    let s' := (SqlConn.statement server (fun db => (f db.data).map fun p => (p.1, ({ db with data := p.2 } : Database D))) s).2
    Untouched db rows s' ∨ Over db.rows s' := by
  cases h with
  | @live work hcur hsaves =>
    simp only [SqlConn.statement]
    cases f work.cur.data with
    | ok p => exact Or.inl (.live hcur hsaves)
    | error e => exact fail hcur hsaves e
  | aborted hsaves => exact Or.inl (.aborted hsaves)

/-- A savepoint command on an open transaction. -/
theorem applied {work work' : Named String (Database D)} {c : Command String} (hcur : work.cur.rows = rows)
    (hsaves : ∀ p ∈ work.saves, p.2.rows = rows) (ha : work.apply server.replaces c = some work') :
    Untouched db rows ⟨db, .live work'⟩ := by
  obtain ⟨hmem, hcur'⟩ := Named.mem_apply ha
  refine .live ?_ ?_
  · rcases hcur' with heq | ⟨n, hn⟩
    · rw [heq, hcur]
    · exact hsaves _ hn
  · intro p hp
    rcases hmem p hp with hp | rfl
    · exact hsaves p hp
    · exact hcur

/-- A savepoint command. -/
theorem command (h : Untouched db rows s) (c : Command String) :
    Untouched db rows (SqlConn.command server c s).2 ∨ Over db.rows (SqlConn.command server c s).2 := by
  cases h with
  | @live work hcur hsaves =>
    simp only [SqlConn.command]
    cases ha : work.apply server.replaces c with
    | none => exact fail hcur hsaves .failed
    | some work' => exact Or.inl (applied hcur hsaves ha)
  | @aborted saves hsaves =>
    cases c with
    | savepoint name => exact Or.inl (.aborted hsaves)
    | release name => exact Or.inl (.aborted hsaves)
    | rollbackTo name =>
      simp only [SqlConn.command]
      cases hr : Named.restore name saves with
      | none => exact Or.inl (.aborted hsaves)
      | some work =>
        -- the state that is given up has no part in it: any with these rows will do
        have happly : (⟨{ db with rows }, saves⟩ : Named String (Database D)).apply server.replaces (.rollbackTo name) = some work := hr
        exact Or.inl (applied rfl hsaves happly)

end Untouched

/-- What a handler without transaction control leaves: the claim as it was and nothing for others to see, or no transaction, and no
row more than was committed. -/
def Proper (db : Database D) (rows : Finset Key) (v : Sight D) (s : SqlConn D) : Prop :=
  (Untouched db rows s ∧ ∀ seen ∈ v.others, seen = db) ∨ Over db.rows s

namespace Proper

variable {server : Server} {db : Database D} {rows : Finset Key} {v : Sight D} {s s' : SqlConn D}

/-- One statement more. -/
theorem note (hseen : ∀ seen ∈ v.others, seen = db) (h : Untouched db rows s' ∨ Over db.rows s') : Proper db rows (v.note s') s' := by
  rcases h with h | h
  · refine Or.inl ⟨h, ?_⟩
    intro seen hmem
    rcases List.mem_cons.1 hmem with rfl | hmem
    · exact h.committed
    · exact hseen seen hmem
  · exact Or.inr h

/-- A whole handler, by induction over its statements. -/
theorem runProgram (h : Proper db rows v s) (code : HandlerSql D R α) :
    Proper db rows (SqlConn.runProgram server code.program (v, s)).2.1 (SqlConn.runProgram server code.program (v, s)).2.2 := by
  induction code generalizing v s with
  | ret a => exact h
  | statement f k ih =>
    refine ih _ ?_
    rcases h with ⟨h, hseen⟩ | h
    · exact note hseen (h.statement f)
    · exact Or.inr (h.statement f)
  | command c k ih =>
    refine ih _ ?_
    rcases h with ⟨h, hseen⟩ | h
    · exact note hseen (h.command c.val)
    · exact Or.inr (h.command c.2)

/-- Such a handler keeps the row exactly when it leaves the transaction live. -/
theorem kept_iff_live {key : Key} (h : Proper db (insert key db.rows) v s) (hkey : key ∉ db.rows) :
    Kept server db key v s ↔ s.tx.isLive = true ∨ (server = .sqlite ∧ s.tx = .auto) := by
  rcases h with ⟨h, hseen⟩ | h
  · cases h with
    | live hcur hsaves =>
      have hmem := Finset.mem_insert_self key db.rows
      rw [← hcur] at hmem
      exact iff_of_true ⟨hmem, fun seen hin => Or.inl (hseen seen hin)⟩ (Or.inl rfl)
    | aborted hsaves =>
      refine iff_of_false (fun hkept => hkey hkept.1) ?_
      rintro (h | ⟨_, h⟩)
      · nomatch h
      · nomatch h
  · cases h with
    | @auto committed hrows =>
      refine ⟨?_, ?_⟩
      · rintro (hserver | ⟨hmem, _⟩)
        · exact Or.inr ⟨hserver, rfl⟩
        · exact absurd (hrows ▸ hmem) hkey
      · rintro (h | ⟨hserver, _⟩)
        · nomatch h
        · exact Or.inl hserver
    | @own committed work hrows hcur hsaves =>
      refine iff_of_false (fun hkept => hkey (hcur ▸ hkept.1)) ?_
      rintro (h | ⟨_, h⟩)
      · nomatch h
      · nomatch h

end Proper

/-- What a handler without transaction control leaves after a fresh claim. -/
theorem proper_handled (server : Server) (code : MessageId → HandlerSql D R (Except (HandlerError ε) T)) (self : Consumer)
    (id : MessageId) (db : Database D) :
    Proper db (insert (self.id, id) db.rows) (handled server (fun id => (code id).program) self id db).2.1
      (handled server (fun id => (code id).program) self id db).2.2 := by
  have hclaimed : Proper db (insert (self.id, id) db.rows) ⟨[], db.data⟩ (claimed db (self.id, id)) :=
    Or.inl ⟨.live rfl fun _ h => absurd h List.not_mem_nil, fun _ h => absurd h List.not_mem_nil⟩
  exact hclaimed.runProgram (code id)

/-- `process` is truthful exactly when the claim is refused, or the message is recorded already, or its handler returns an error, or
keeps the row. A handler without transaction control keeps it exactly when it leaves the transaction live (on SQLite it may also have
lost it: the commit is refused then). -/
theorem process_truthful_iff (server : Server) (self : Consumer) (id : MessageId) (db : Database D) :
    (∀ handler : MessageId → HandlerProgram D R (Except (HandlerError ε) T),
      Truthful server handler self id db ↔
        server.refuses self.lockTimeout self.id [id] = true ∨ (self.id, id) ∈ db.rows ∨
          (handled server handler self id db).1.isOk = false ∨
          Kept server db (self.id, id) (handled server handler self id db).2.1 (handled server handler self id db).2.2) ∧
    ∀ code : MessageId → HandlerSql D R (Except (HandlerError ε) T),
      let left := handled server (fun id => (code id).program) self id db
      Truthful server (fun id => (code id).program) self id db ↔
        server.refuses self.lockTimeout self.id [id] = true ∨ (self.id, id) ∈ db.rows ∨ left.1.isOk = false ∨
          left.2.2.tx.isLive = true ∨ (server = .sqlite ∧ left.2.2.tx = .auto) := by
  refine ⟨fun handler => truthful_iff handler, fun code => ?_⟩
  rw [truthful_iff]
  by_cases hknown : (self.id, id) ∈ db.rows
  · exact iff_of_true (Or.inr (Or.inl hknown)) (Or.inr (Or.inl hknown))
  · rw [(proper_handled server code self id db).kept_iff_live hknown]

/-- A handler whose one statement fails and that returns `Ok` all the same: on PostgreSQL, and on MySQL where the failure is a
deadlock, `Processed` is reported and nothing is committed. -/
theorem process_not_truthful_swallowed :
    (¬Truthful (D := Nat) (R := Unit) (ε := String) .postgres
        (fun _ => .query (fun _ => .error .failed) fun _ => .ret (.ok 7)) ⟨⟨"orders", by decide⟩, none⟩ ⟨"m1", by decide⟩
        ⟨∅, 0⟩) ∧
      ¬Truthful (D := Nat) (R := Unit) (ε := String) .mysql
        (fun _ => .query (fun _ => .error .ended) fun _ => .ret (.ok 7)) ⟨⟨"orders", by decide⟩, none⟩ ⟨"m1", by decide⟩
        ⟨∅, 0⟩ := by
  have htaken : Server.postgres.refuses none ⟨"orders", by decide⟩ [⟨"m1", by decide⟩] = false :=
    Server.refuses_eq_false_iff.2 fun _ => ⟨fun t ht => (nomatch ht), by decide, by decide⟩
  refine ⟨?_, ?_⟩
  · rw [truthful_fresh _ htaken (Finset.notMem_empty _)]
    rintro (hok | ⟨hmem, _⟩)
    · nomatch hok
    · exact absurd hmem (Finset.notMem_empty _)
  · rw [truthful_fresh _ rfl (Finset.notMem_empty _)]
    rintro (hok | hserver | ⟨hmem, _⟩)
    · nomatch hok
    · nomatch hserver
    · exact absurd hmem (Finset.notMem_empty _)

end SqlConn

end Txbox
