import SchemaLedger.Proofs.Migration.Planning

/-!
# How far a run comes

The records that a run adds, on a connection on which every query can fail.  A change-set is
recorded after its last statement, so whatever query ends a run, the records it added are those of a
first part of its plan: `mark_cases` for a recording, `step_cases` for a change-set,
`carryOut_cases` for a plan, `run_progress` for a run.  This needs change-sets whose statements do
not write to the ledger themselves (`Migrator.SparesLedger`).  Without it, what is left is that a
change-set adds records of its own name and of the empty name only (`names_step`).
-/

namespace SchemaLedger

namespace Migrator

/-! ## Recording a change-set -/

section Marking

variable {m : Migrator Memory} {s : Memory}

/-- Recording a change-set adds its entry and nothing else, to a ledger that had no record of that
name; or it fails and leaves the records.  It fails because of a record of that name exactly if the
question for the name is accepted and there is one. -/
theorem mark_cases (hm : m.connection.Unreliable) (hs : s.responses = []) (p : Pending)
    (ran : Ran) :
    s.Keeps (m.mark p ran s).2 ∧
    ((m.mark p ran s).1 = .ok () ∧ p.file ∉ s.names ∧
        (m.mark p ran s).2.records = s.records ++ [m.entryOf p ran] ∨
      ∃ e, (m.mark p ran s).1 = .error e ∧ (m.mark p ran s).2.records = s.records ∧
        (e = .alreadyMigrated p.file ↔
          m.connection.Accepts (Ledger.lookupSql m.connection) [.text p.file] s ∧
            p.file ∈ s.names)) := by
  rcases Ledger.isRecorded_cases hm hs p.file with
    ⟨e, s', hlookup, hkeeps, hrecords, hfails⟩ | ⟨hlookup, haccepts⟩
  · have hmark : m.mark p ran s = (.error (.connection e), s') := Action.bind_of_error hlookup
    rw [hmark]
    refine ⟨hkeeps, Or.inr ⟨_, rfl, hrecords, ?_⟩⟩
    simp [hfails]
  · have hkeeps := Memory.keeps_receive s ⟨Ledger.lookupSql m.connection, [.text p.file]⟩
    by_cases hp : p.file ∈ s.names
    · rw [decide_eq_true hp] at hlookup
      have hmark : m.mark p ran s = (.error (.alreadyMigrated p.file),
          s.receive ⟨Ledger.lookupSql m.connection, [.text p.file]⟩) :=
        Action.bind_of_ok hlookup
      rw [hmark]
      refine ⟨hkeeps, Or.inr ⟨_, rfl, rfl, ?_⟩⟩
      simp [haccepts, hp]
    · rw [decide_eq_false hp] at hlookup
      have hmark : m.mark p ran s = Ledger.record m.connection (m.entryOf p ran)
          (s.receive ⟨Ledger.lookupSql m.connection, [.text p.file]⟩) :=
        Action.bind_of_ok hlookup
      obtain ⟨hkeeps', ⟨e, herror, hrecords⟩ | ⟨hok, hrecords⟩⟩ :=
        Ledger.record_cases hm (hkeeps.responses.trans hs) (m.entryOf p ran)
      · rw [hmark]
        refine ⟨hkeeps.trans hkeeps', Or.inr ⟨_, herror, hrecords, ?_⟩⟩
        simp [hp]
      · rw [hmark]
        exact ⟨hkeeps.trans hkeeps', Or.inl ⟨hok, hp, hrecords⟩⟩

/-- Recording a change-set adds at most its name. -/
lemma names_mark (hm : m.connection.Unreliable) (hs : s.responses = []) (p : Pending)
    (ran : Ran) : ∀ name ∈ (m.mark p ran s).2.names, name ∈ s.names ∨ name = p.file := by
  intro name hname
  obtain ⟨-, ⟨-, -, hrecords⟩ | ⟨e, -, hrecords, -⟩⟩ := mark_cases hm hs p ran
  · rw [Memory.names, hrecords, List.map_append, List.mem_append] at hname
    refine hname.imp_right fun h => ?_
    simpa [entryOf] using h
  · rw [Memory.names, hrecords] at hname
    exact Or.inl hname

end Marking

/-! ## The statements of a change-set -/

section Statements

variable {c : Connection Memory} {s : Memory}

/-- A rejected statement is the last one of its change-set that is sent. -/
lemma runStatements_cons_of_error {sql : String} {e : ConnectionError} {s' : Memory}
    (h : c.query sql [] s = (.error e, s')) (file : String) (completed : Nat)
    (rest : List String) :
    runStatements c file completed (sql :: rest) s =
      (.error (.statement file sql completed e), s') :=
  Action.bind_of_error (Action.mapError_of_error h)

/-- After an accepted statement, the others of its change-set are sent. -/
lemma runStatements_cons_of_ok {sql : String} {rows : List Sql.Row} {s' : Memory}
    (h : c.query sql [] s = (.ok rows, s')) (file : String) (completed : Nat)
    (rest : List String) :
    runStatements c file completed (sql :: rest) s =
      runStatements c file (completed + 1) rest s' :=
  Action.bind_of_ok (Action.mapError_of_ok h)

/-- The statements of a change-set keep all that decides about later statements.  They add at most
records without a name, and none if no statement begins with the words of an insertion. -/
theorem runStatements_frame (hc : c.Unreliable) (file : String) (completed : Nat)
    (statements : List String) :
    s.Keeps (runStatements c file completed statements s).2 ∧
    (∀ name ∈ (runStatements c file completed statements s).2.names,
      name ∈ s.names ∨ name = "") ∧
    ((∀ sql ∈ statements, Text.beginsWith sql (Ledger.insertWords c) = false) →
      (runStatements c file completed statements s).2.records = s.records) := by
  induction statements generalizing s completed with
  | nil => exact ⟨.refl s, fun name hname => Or.inl hname, fun _ => rfl⟩
  | cons sql rest ih =>
    have hkeeps := hc.keeps_query sql [] s
    have hnames : ∀ name ∈ (c.query sql [] s).2.names, name ∈ s.names ∨ name = "" :=
      fun name hname => hc.mem_names_query_nil hname
    have hrecords : Text.beginsWith sql (Ledger.insertWords c) = false →
        (c.query sql [] s).2.records = s.records := fun hsql => hc.records_query hsql [] s
    rcases hquery : c.query sql [] s with ⟨e | rows, s'⟩ <;>
      rw [hquery] at hkeeps hnames hrecords
    · rw [runStatements_cons_of_error hquery]
      exact ⟨hkeeps, hnames, fun hspares => hrecords (hspares sql List.mem_cons_self)⟩
    · obtain ⟨ihkeeps, ihnames, ihrecords⟩ := ih (completed + 1) (s := s')
      rw [runStatements_cons_of_ok hquery]
      refine ⟨hkeeps.trans ihkeeps, fun name hname => ?_, fun hspares => ?_⟩
      · rcases ihnames name hname with hname | rfl
        · exact hnames name hname
        · exact Or.inr rfl
      · rw [ihrecords fun sql hsql => hspares sql (List.mem_cons_of_mem _ hsql)]
        exact hrecords (hspares sql List.mem_cons_self)

end Statements

/-! ## One change-set -/

section Step

variable {σ : Type}

/-- The part of a run that carries out one change-set. -/
def step (m : Migrator σ) (skip : List String) (p : Pending) (statements : List String) :
    Action σ MigrateError Unit :=
  if skip.contains p.file then m.mark p .skipped
  else do
    runStatements m.connection p.file 0 statements
    m.mark p (.statements statements)

/-- The summary with one more file in front, which was passed over if it is one to skip. -/
def consSummary (skip : List String) (file : String) (summary : RunSummary) : RunSummary :=
  if skip.contains file then summary.consSkipped file else summary.consMigrated file

/-- A plan is carried out by its first change-set and then the others. -/
lemma carryOut_cons (m : Migrator σ) (skip : List String) (p : Pending) (statements : List String)
    (rest : List (Pending × List String)) :
    m.carryOut skip ((p, statements) :: rest) =
      (do
        m.step skip p statements
        let summary ← m.carryOut skip rest
        pure (consSummary skip p.file summary)) := by
  rw [carryOut]
  unfold step consSummary
  split
  · rfl
  · rw [Action.bind_assoc]

/-- After its first change-set, a plan goes on like the plan of the others. -/
lemma carryOut_cons_of_ok {m : Migrator σ} {s s' : σ} {skip : List String}
    {item : Pending × List String} (h : m.step skip item.1 item.2 s = (.ok (), s'))
    (rest : List (Pending × List String)) :
    m.carryOut skip (item :: rest) s =
      ((m.carryOut skip rest s').1.map (consSummary skip item.1.file),
        (m.carryOut skip rest s').2) := by
  rw [show item :: rest = (item.1, item.2) :: rest from rfl, carryOut_cons, Action.bind_of_ok h]
  rcases hrest : m.carryOut skip rest s' with ⟨e | summary, s''⟩
  · exact Action.bind_of_error hrest
  · exact Action.bind_of_ok hrest

/-- A plan fails when its first change-set does. -/
lemma carryOut_cons_of_error {m : Migrator σ} {s s' : σ} {skip : List String}
    {item : Pending × List String} {e : MigrateError}
    (h : m.step skip item.1 item.2 s = (.error e, s')) (rest : List (Pending × List String)) :
    m.carryOut skip (item :: rest) s = (.error e, s') := by
  rw [show item :: rest = (item.1, item.2) :: rest from rfl, carryOut_cons]
  exact Action.bind_of_error h

/-- The record of a change-set that was carried out. -/
def entryFor (m : Migrator σ) (skip : List String) (item : Pending × List String) : LedgerEntry :=
  m.entryOf item.1 (if skip.contains item.1.file then .skipped else .statements item.2)

@[simp] lemma migration_entryFor (m : Migrator σ) (skip : List String)
    (item : Pending × List String) : (m.entryFor skip item).migration = item.1.file := rfl

/-- No statement of a change-set begins with the words of an insertion into the ledger. -/
def SparesLedger (m : Migrator σ) : Prop :=
  ∀ found, m.changeSets = .ok found → ∀ p ∈ found, ∀ statements, m.sql p .up = .ok statements →
    ∀ sql ∈ statements, Text.beginsWith sql (Ledger.insertWords m.connection) = false

/-- All change-sets spare the ledger if those of a plan of all of them do. -/
lemma SparesLedger.of_changeSets {m : Migrator σ} {planned : List (Pending × List String)}
    (hall : m.changeSets = .ok (planned.map Prod.fst))
    (hsql : ∀ item ∈ planned, m.sql item.1 .up = .ok item.2)
    (hspares : ∀ item ∈ planned, ∀ sql ∈ item.2,
      Text.beginsWith sql (Ledger.insertWords m.connection) = false) : m.SparesLedger := by
  intro found hfound p hp statements hstatements
  obtain rfl : planned.map Prod.fst = found := Except.ok.inj (hall.symm.trans hfound)
  obtain ⟨item, hitem, rfl⟩ := List.mem_map.mp hp
  obtain rfl : item.2 = statements := Except.ok.inj ((hsql item hitem).symm.trans hstatements)
  exact hspares item hitem

/-- No statement of the sample writes to the ledger. -/
lemma sparesLedger_sampleOfThree : sampleOfThree.SparesLedger :=
  .of_changeSets changeSets_sampleOfThree sql_sampleOfThree (by decide)

/-- The statements of a plan spare the ledger if those of all change-sets do. -/
lemma SparesLedger.of_plan {m : Migrator σ} (hspares : m.SparesLedger) {names : List String}
    {planned : List (Pending × List String)}
    (hfound : m.unrecorded names = .ok (planned.map Prod.fst))
    (hplan : m.plan (planned.map Prod.fst) = .ok planned) :
    ∀ item ∈ planned, ∀ sql ∈ item.2,
      Text.beginsWith sql (Ledger.insertWords m.connection) = false := by
  intro item hitem
  obtain ⟨all, hall, heq⟩ := sublist_of_unrecorded hfound
  have hmem : item.1 ∈ planned.map Prod.fst := List.mem_map_of_mem hitem
  rw [heq] at hmem
  exact hspares all hall item.1 (List.mem_of_mem_filter hmem) item.2
    ((plan_eq_ok_iff.mp hplan).2 item hitem)

variable {m : Migrator Memory} {s : Memory}

/-- Carrying out a change-set adds at most its name and the empty name. -/
lemma names_step (hm : m.connection.Unreliable) (hs : s.responses = []) (skip : List String)
    (p : Pending) (statements : List String) :
    ∀ name ∈ (m.step skip p statements s).2.names,
      name ∈ s.names ∨ name = "" ∨ name = p.file := by
  intro name hname
  rw [step] at hname
  split at hname
  · exact (names_mark hm hs p _ name hname).imp_right Or.inr
  · obtain ⟨hkeeps, hframe, -⟩ := runStatements_frame hm p.file 0 statements (s := s)
    rcases hrun : runStatements m.connection p.file 0 statements s with ⟨_ | _, s'⟩ <;>
      rw [hrun] at hkeeps hframe
    · rw [Action.bind_of_error hrun] at hname
      exact (hframe name hname).imp_right Or.inl
    · rw [Action.bind_of_ok hrun] at hname
      rcases names_mark hm (hkeeps.responses.trans hs) p _ name hname with hname | rfl
      · exact (hframe name hname).imp_right Or.inl
      · exact Or.inr (Or.inr rfl)

/-- Carrying out a change-set adds its record to those that its statements left, or fails and leaves
them; no statement is sent for one to skip. -/
theorem step_records (hm : m.connection.Unreliable) (hs : s.responses = []) (skip : List String)
    (item : Pending × List String) :
    s.Keeps (m.step skip item.1 item.2 s).2 ∧
    ∃ between, (between = s ∨
        between = (runStatements m.connection item.1.file 0 item.2 s).2) ∧
      ((m.step skip item.1 item.2 s).1 = .ok () ∧
          (m.step skip item.1 item.2 s).2.records = between.records ++ [m.entryFor skip item] ∨
        ∃ e, (m.step skip item.1 item.2 s).1 = .error e ∧
          (m.step skip item.1 item.2 s).2.records = between.records) := by
  obtain ⟨p, statements⟩ := item
  unfold step entryFor
  split
  · obtain ⟨hkeeps, ⟨hok, -, hrecords⟩ | ⟨e, herror, hrecords, -⟩⟩ := mark_cases hm hs p .skipped
    · exact ⟨hkeeps, s, Or.inl rfl, Or.inl ⟨hok, hrecords⟩⟩
    · exact ⟨hkeeps, s, Or.inl rfl, Or.inr ⟨e, herror, hrecords⟩⟩
  · obtain ⟨hkeeps, -, -⟩ := runStatements_frame hm p.file 0 statements (s := s)
    rcases hrun : runStatements m.connection p.file 0 statements s with ⟨e | _, s'⟩ <;>
      rw [hrun] at hkeeps
    · rw [Action.bind_of_error hrun]
      exact ⟨hkeeps, s', Or.inr rfl, Or.inr ⟨e, rfl, rfl⟩⟩
    · rw [Action.bind_of_ok hrun]
      obtain ⟨hkeeps', ⟨hok, -, hadded⟩ | ⟨e, herror, hleft, -⟩⟩ :=
        mark_cases hm (hkeeps.responses.trans hs) p (.statements statements)
      · exact ⟨hkeeps.trans hkeeps', s', Or.inr rfl, Or.inl ⟨hok, hadded⟩⟩
      · exact ⟨hkeeps.trans hkeeps', s', Or.inr rfl, Or.inr ⟨e, herror, hleft⟩⟩

/-- Carrying out a change-set adds its record, or fails and leaves the records. -/
theorem step_cases (hm : m.connection.Unreliable) (hs : s.responses = []) (skip : List String)
    {item : Pending × List String}
    (hspares : ∀ sql ∈ item.2, Text.beginsWith sql (Ledger.insertWords m.connection) = false) :
    s.Keeps (m.step skip item.1 item.2 s).2 ∧
    ((m.step skip item.1 item.2 s).1 = .ok () ∧
        (m.step skip item.1 item.2 s).2.records = s.records ++ [m.entryFor skip item] ∨
      ∃ e, (m.step skip item.1 item.2 s).1 = .error e ∧
        (m.step skip item.1 item.2 s).2.records = s.records) := by
  obtain ⟨hkeeps, between, hbetween, hstep⟩ := step_records hm hs skip item
  have hrecords : between.records = s.records := by
    rcases hbetween with rfl | rfl
    · rfl
    · exact (runStatements_frame hm item.1.file 0 item.2).2.2 hspares
  rw [hrecords] at hstep
  exact ⟨hkeeps, hstep⟩

end Step

/-! ## A plan -/

section Plan

variable {m : Migrator Memory} {s : Memory}

/-- Carrying out a plan adds the records of a first part of it, which is all of it unless it fails.
-/
theorem carryOut_cases (hm : m.connection.Unreliable) (hs : s.responses = []) (skip : List String)
    {planned : List (Pending × List String)}
    (hspares : ∀ item ∈ planned, ∀ sql ∈ item.2,
      Text.beginsWith sql (Ledger.insertWords m.connection) = false) :
    s.Keeps (m.carryOut skip planned s).2 ∧
    ∃ done rest, planned = done ++ rest ∧
      (m.carryOut skip planned s).2.records = s.records ++ done.map (m.entryFor skip) ∧
      ∀ summary, (m.carryOut skip planned s).1 = .ok summary → rest = [] := by
  induction planned generalizing s with
  | nil => exact ⟨.refl s, [], [], rfl, (List.append_nil _).symm, fun _ _ => rfl⟩
  | cons item rest ih =>
    obtain ⟨hkeeps, hstep⟩ := step_cases hm hs skip (hspares item List.mem_cons_self)
    rcases hresult : m.step skip item.1 item.2 s with ⟨result, s'⟩
    rw [hresult] at hkeeps hstep
    rcases hstep with ⟨hok, hrecords⟩ | ⟨e, herror, hrecords⟩
    · obtain rfl : result = .ok () := hok
      obtain ⟨hkeeps', done, left, rfl, hadded, hend⟩ := ih (hkeeps.responses.trans hs)
        fun item hitem => hspares item (List.mem_cons_of_mem _ hitem)
      have hall : s'.records ++ done.map (m.entryFor skip) =
          s.records ++ (item :: done).map (m.entryFor skip) := by
        rw [show s'.records = s.records ++ [m.entryFor skip item] from hrecords]
        simp
      rw [carryOut_cons_of_ok hresult]
      refine ⟨hkeeps.trans hkeeps', item :: done, left, rfl, hadded.trans hall, ?_⟩
      intro summary h
      cases hcarry : (m.carryOut skip (done ++ left) s').1 with
      | error e =>
        rw [hcarry] at h
        cases h
      | ok summary' => exact hend summary' hcarry
    · obtain rfl : result = .error e := herror
      rw [carryOut_cons_of_error hresult]
      exact ⟨hkeeps, [], item :: rest, rfl, hrecords.trans (List.append_nil _).symm,
        fun summary h => by cases h⟩

/-- A run fails and leaves the records, or it has a plan and adds the records of a first part of it,
which is all of it unless the run fails. -/
theorem run_progress (hm : m.connection.Unreliable) (hs : s.responses = [])
    (hspares : m.SparesLedger) (skip : List String) :
    s.Keeps (m.run skip s).2 ∧
    ((∃ e, (m.run skip s).1 = .error e ∧ (m.run skip s).2.records = s.records) ∨
      ∃ done rest, m.unrecorded s.names = .ok ((done ++ rest).map Prod.fst) ∧
        m.plan ((done ++ rest).map Prod.fst) = .ok (done ++ rest) ∧
        (m.run skip s).2.records = s.records ++ done.map (m.entryFor skip) ∧
        ∀ summary, (m.run skip s).1 = .ok summary → rest = []) := by
  rcases run_cases hm hs skip with ⟨e, herror, hkeeps, hrecords⟩ | ⟨planned, hfound, hplan, hrun⟩
  · exact ⟨hkeeps, Or.inl ⟨e, herror, hrecords⟩⟩
  · have hkeeps := Memory.keeps_receive s ⟨Ledger.namesSql m.connection, []⟩
    obtain ⟨hkeeps', done, rest, rfl, hrecords, hend⟩ :=
      carryOut_cases hm (hkeeps.responses.trans hs) skip (hspares.of_plan hfound hplan)
    rw [hrun]
    exact ⟨hkeeps.trans hkeeps', Or.inr ⟨done, rest, hfound, hplan, hrecords, hend⟩⟩

end Plan

end Migrator

end SchemaLedger
