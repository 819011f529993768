import SchemaLedger.Proofs.Migration.Trace

/-!
# Previews and runs

A preview and a run compute what is left to do each on its own: the preview renders the change-sets
without a record one by one and shows them, and the run renders all of them before it sends anything
and then changes the records that it has read.  Both start with the same first half
(`Migrator.planning`): a run is its plan carried out (`run_eq_planning`), and a preview is its plan
shown (`preview_eq_planning`), on every connection and in every state.  On a database in memory the
two therefore fail together, and what a preview shows is what a run sends (`preview_agrees`).
-/

namespace SchemaLedger

/-- The entry of a preview without its statements. -/
def PreviewEntry.withoutSql (e : PreviewEntry) : PreviewEntry := { e with sql := none }

namespace Migrator

/-! ## The half that previews and runs share -/

section Planning

variable {σ : Type}

/-- What a run does before it sends a statement of a change-set: it asks for the names of the
records, and makes a plan of the change-sets without one. -/
def planning (m : Migrator σ) : Action σ MigrateError (List (Pending × List String)) := do
  let found ← m.pending
  Action.ofExcept (m.plan found)

/-- The entry of a change-set in a summary. -/
def listed (m : Migrator σ) (p : Pending) : PreviewEntry :=
  ⟨m.config.relativePath p.path, p.file, none⟩

/-- The entry of a planned change-set in a preview. -/
def shown (m : Migrator σ) (item : Pending × List String) : PreviewEntry :=
  ⟨m.config.relativePath item.1.path, item.1.file, some item.2⟩

/-- A run is its plan carried out. -/
lemma run_eq_planning (m : Migrator σ) (skip : List String) :
    m.run skip = m.planning >>= m.carryOut skip := by
  rw [planning, Action.bind_assoc]
  rfl

/-- The entries of a preview are those of the plan. -/
lemma previewEntries_false (m : Migrator σ) (found : List Pending) :
    m.previewEntries false found = (m.plan found).map (List.map m.shown) := by
  induction found with
  | nil => rfl
  | cons p rest ih =>
    rw [previewEntries, previewEntry, plan, ih]
    cases hsql : m.sql p .up with
    | error e => rfl
    | ok statements =>
      cases hplan : m.plan rest with
      | error e => rfl
      | ok planned => rfl

/-- The entries of a summary need no plan. -/
lemma previewEntries_true (m : Migrator σ) (found : List Pending) :
    m.previewEntries true found = .ok (found.map m.listed) := by
  induction found with
  | nil => rfl
  | cons p rest ih =>
    rw [previewEntries, ih]
    rfl

/-- A preview is its plan shown. -/
lemma preview_eq_planning (m : Migrator σ) :
    m.preview false = m.planning >>= fun planned => pure (planned.map m.shown) := by
  rw [planning, Action.bind_assoc]
  unfold preview
  congr 1
  funext found
  rw [Action.ofExcept_bind_pure, previewEntries_false]

/-- A summary is the list of the change-sets without a record. -/
lemma preview_eq_pending (m : Migrator σ) :
    m.preview true = m.pending >>= fun found => pure (found.map m.listed) := by
  unfold preview
  congr 1
  funext found
  rw [previewEntries_true]
  rfl

end Planning

/-! ## What is shown and what is sent -/

section Received

variable {σ : Type}

/-- What a database receives when a change-set is run: its statements, and the question and the
insertion that record them. -/
def receivedFor (m : Migrator σ) (item : Pending × List String) : List Received :=
  item.2.map (⟨·, []⟩) ++
    [⟨Ledger.lookupSql m.connection, [.text item.1.file]⟩,
      ⟨Ledger.insertSql m.connection, (m.entryOf item.1 (.statements item.2)).bindings⟩]

/-- Without change-sets to skip, the queries of a plan are those of its change-sets. -/
lemma received_planQueries (m : Migrator σ) (planned : List (Pending × List String)) :
    (m.planQueries [] planned).map RunQuery.received = planned.flatMap m.receivedFor := by
  rw [planQueries, List.map_flatMap]
  refine congrArg (planned.flatMap ·) (funext fun (p, statements) => ?_)
  have hstep : m.stepQueries [] p statements = statementQueries p.file 0 statements ++
      m.markQueries p (Ran.statements statements).toText := by
    rw [Ran.toText_statements]
    rfl
  show (m.stepQueries [] p statements).map RunQuery.received = _
  rw [hstep, List.map_append, received_statementQueries]
  rfl

end Received

variable {m : Migrator Memory} {s : Memory}

/-- Planning is to plan the change-sets without a record. -/
lemma planning_of_unrecorded (hm : m.connection.InMemory) (hs : s.Ready)
    (haccepts : s.rejects (Ledger.namesSql m.connection) = false) {found : List Pending}
    (hfound : m.unrecorded s.names = .ok found) :
    m.planning s = (m.plan found, s.receive ⟨Ledger.namesSql m.connection, []⟩) := by
  have hpending := pending_of_accepts hm hs haccepts
  rw [hfound] at hpending
  exact Action.bind_of_ok hpending

/-- Planning sends the question for the names of the records only.  It fails, or it plans the
change-sets without a record. -/
lemma planning_cases (hm : m.connection.InMemory) (hs : s.Ready)
    (haccepts : s.rejects (Ledger.namesSql m.connection) = false) :
    (∃ e, m.planning s = (.error e, s.receive ⟨Ledger.namesSql m.connection, []⟩)) ∨
    ∃ planned, m.planning s = (.ok planned, s.receive ⟨Ledger.namesSql m.connection, []⟩) ∧
      m.unrecorded s.names = .ok (planned.map Prod.fst) := by
  cases hfound : m.unrecorded s.names with
  | error e =>
    have hpending := pending_of_accepts hm hs haccepts
    rw [hfound] at hpending
    exact Or.inl ⟨e, Action.bind_of_error hpending⟩
  | ok found =>
    have hplanning := planning_of_unrecorded hm hs haccepts hfound
    cases hplan : m.plan found with
    | error e =>
      rw [hplan] at hplanning
      exact Or.inl ⟨e, hplanning⟩
    | ok planned =>
      rw [hplan] at hplanning
      obtain ⟨rfl, -⟩ := plan_eq_ok_iff.mp hplan
      exact Or.inr ⟨planned, hplanning, rfl⟩

/-- A summary lists the change-sets without a record. -/
lemma summary_of_accepts (hm : m.connection.InMemory) (hs : s.Ready)
    (haccepts : s.rejects (Ledger.namesSql m.connection) = false) :
    m.preview true s = ((m.unrecorded s.names).map (List.map m.listed),
      s.receive ⟨Ledger.namesSql m.connection, []⟩) := by
  have hpending := pending_of_accepts hm hs haccepts
  rw [preview_eq_pending]
  cases hfound : m.unrecorded s.names <;> rw [hfound] at hpending
  · exact Action.bind_of_error hpending
  · exact Action.bind_of_ok hpending

/-- A preview sends the question for the names of the records only. -/
lemma snd_preview (hm : m.connection.InMemory) (hs : s.Ready)
    (haccepts : s.rejects (Ledger.namesSql m.connection) = false) (summary : Bool) :
    (m.preview summary s).2 = s.receive ⟨Ledger.namesSql m.connection, []⟩ := by
  cases summary with
  | true => rw [summary_of_accepts hm hs haccepts]
  | false =>
    rw [preview_eq_planning]
    rcases planning_cases hm hs haccepts with ⟨e, hplanning⟩ | ⟨planned, hplanning, -⟩
    · rw [Action.bind_of_error hplanning]
    · rw [Action.bind_of_ok hplanning, Action.pure_apply]

/-- On a database in memory with an open session, in which the question for the names of the records
is accepted, a preview sends that question and changes nothing but the log.  A summary succeeds
whenever the change-sets without a record are known, for it does not load them.  A preview with
statements fails exactly if a run fails before it sends anything else, whatever the run is to skip,
and with the same error.  When it succeeds, the summary has the same entries without the statements,
and a run without change-sets to skip whose queries are accepted migrates the files of the entries
in their order; it sends for each entry the statements that are shown and then the two queries that
record it. -/
theorem preview_agrees (hm : m.connection.InMemory) (hs : s.Ready)
    (haccepts : s.rejects (Ledger.namesSql m.connection) = false) :
    (∀ summary, (m.preview summary s).2 =
      { s with log := ⟨Ledger.namesSql m.connection, []⟩ :: s.log }) ∧
    (m.preview true s).1 = (m.pending s).1.map (List.map m.listed) ∧
    (∀ e skip, (m.preview false s).1 = .error e ↔
      m.run skip s =
        (.error e, { s with log := ⟨Ledger.namesSql m.connection, []⟩ :: s.log })) ∧
    (∀ entries, (m.preview false s).1 = .ok entries →
      (m.preview true s).1 = .ok (entries.map PreviewEntry.withoutSql) ∧
      ∃ planned : List (Pending × List String), entries = planned.map m.shown ∧
        (m.pending s).1 = .ok (planned.map Prod.fst) ∧
        ((∀ query ∈ planned.flatMap m.receivedFor, s.rejects query.sql = false) →
          (m.run [] s).1 = .ok ⟨entries.map PreviewEntry.file, []⟩ ∧
          (m.run [] s).2.log = (planned.flatMap m.receivedFor).reverse ++
            ⟨Ledger.namesSql m.connection, []⟩ :: s.log)) := by
  have hpending := pending_of_accepts hm hs haccepts
  have hsummary := summary_of_accepts hm hs haccepts
  refine ⟨snd_preview hm hs haccepts, by rw [hsummary, hpending], ?_⟩
  -- Both failures are that of planning, and both successes are about the same plan.
  rcases planning_cases hm hs haccepts with ⟨e, hplanning⟩ | ⟨planned, hplanning, hfound⟩
  · have hpreview : m.preview false s =
        (.error e, s.receive ⟨Ledger.namesSql m.connection, []⟩) := by
      rw [preview_eq_planning]
      exact Action.bind_of_error hplanning
    have hrun : ∀ skip, m.run skip s =
        (.error e, s.receive ⟨Ledger.namesSql m.connection, []⟩) := fun skip => by
      rw [run_eq_planning]
      exact Action.bind_of_error hplanning
    refine ⟨fun e' skip => ?_, fun entries hentries => ?_⟩
    · rw [hpreview, hrun]
      constructor
      · intro h
        cases h
        rfl
      · intro h
        cases h
        rfl
    · rw [hpreview] at hentries
      cases hentries
  · have hpreview : m.preview false s =
        (.ok (planned.map m.shown), s.receive ⟨Ledger.namesSql m.connection, []⟩) := by
      rw [preview_eq_planning]
      exact Action.bind_of_ok hplanning
    have hrun : ∀ skip, m.run skip s =
        m.carryOut skip planned (s.receive ⟨Ledger.namesSql m.connection, []⟩) := fun skip => by
      rw [run_eq_planning]
      exact Action.bind_of_ok hplanning
    have hkeeps := Memory.keeps_receive s ⟨Ledger.namesSql m.connection, []⟩
    have hsends := fun skip => sends_plan hm (hkeeps.ready hs) skip hfound
    refine ⟨fun e skip => ?_, fun entries hentries => ?_⟩
    · rw [hpreview, hrun]
      constructor
      · intro h
        cases h
      · -- A run that fails after it was planned has sent a query of its plan.
        intro h
        exact absurd h ((hsends skip).ne_error e)
    · rw [hpreview] at hentries
      cases hentries
      rw [hsummary, hpending, hfound, hrun]
      refine ⟨?_, planned, rfl, rfl, fun hall => ?_⟩
      · rw [Except.map, List.map_map, List.map_map]
        rfl
      · have hqueries : ∀ q ∈ m.planQueries [] planned,
            (s.receive ⟨Ledger.namesSql m.connection, []⟩).rejects q.sql = false := by
          intro q hq
          have hsent := List.mem_map_of_mem hq (f := RunQuery.received)
          rw [received_planQueries] at hsent
          rw [← RunQuery.sql_received]
          exact hall _ hsent
        obtain ⟨houtcome, hlog⟩ := (hsends []).of_accepts hqueries
        rw [houtcome, hlog, received_planQueries, summaryOf_nil, List.map_map]
        exact ⟨rfl, rfl⟩

/-- A run of the sample runs what the preview shows.  The other sample has a file that cannot be
loaded, and only its summary succeeds. -/
theorem preview_agrees_sample :
    ((sampleOfThree.preview false (openMemory none [])).1 =
        .ok [⟨"m", "1.json", some ["a"]⟩, ⟨"m", "2.json", some ["b", "c!"]⟩,
          ⟨"m", "3.json", some ["d"]⟩] ∧
      (sampleOfThree.run [] (openMemory none [])).1 =
        .ok ⟨["1.json", "2.json", "3.json"], []⟩) ∧
    ∃ e, (brokenSample.preview false (openMemory none [])).1 = .error e ∧
      (brokenSample.preview true (openMemory none [])).1 =
        .ok [⟨"m", "1.json", none⟩, ⟨"m", "2.json", none⟩] := by
  have hs := ready_openMemory none []
  constructor
  · have hm : sampleOfThree.connection.InMemory := inMemory_sample _
    have hunrecorded : sampleOfThree.unrecorded [] = .ok (planOfThree.map Prod.fst) :=
      unrecorded_of_changeSets changeSets_sampleOfThree []
    have hplan : sampleOfThree.plan (planOfThree.map Prod.fst) = .ok planOfThree :=
      plan_eq_ok_iff.mpr ⟨rfl, sql_sampleOfThree⟩
    have hplanning := planning_of_unrecorded hm hs rfl hunrecorded
    rw [hplan] at hplanning
    have hpreview : (sampleOfThree.preview false (openMemory none [])).1 =
        .ok (planOfThree.map sampleOfThree.shown) := by
      rw [preview_eq_planning, Action.bind_of_ok hplanning]
      rfl
    obtain ⟨-, -, -, hagrees⟩ := preview_agrees hm hs rfl
    obtain ⟨-, planned, -, -, hrun⟩ := hagrees _ hpreview
    exact ⟨hpreview, (hrun fun _ _ => rfl).1⟩
  · have hm : brokenSample.connection.InMemory := inMemory_sample _
    have haccepted : acceptedInAll brokenSample.files brokenSample.loaders
        brokenSample.config.paths = .ok [⟨⟨"/m"⟩, "1.json"⟩, ⟨⟨"/m"⟩, "2.json"⟩] := rfl
    have hunrecorded : brokenSample.unrecorded [] =
        .ok [⟨⟨"/m"⟩, "1.json"⟩, ⟨⟨"/m"⟩, "2.json"⟩] :=
      unrecorded_of_changeSets (discover_of_pairwise_lt haccepted (by decide)) []
    have hplanning : brokenSample.planning (openMemory none []) =
        (.error (.load ⟨"/m/2.json"⟩ (.file .notText)), _) :=
      planning_of_unrecorded hm hs rfl hunrecorded
    obtain ⟨-, hsummary, -, -⟩ := preview_agrees hm hs rfl
    refine ⟨.load ⟨"/m/2.json"⟩ (.file .notText), ?_, ?_⟩
    · rw [preview_eq_planning, Action.bind_of_error hplanning]
    · rw [hsummary, pending_of_accepts hm hs rfl]
      show (brokenSample.unrecorded []).map _ = _
      rw [hunrecorded]
      decide

end Migrator

end SchemaLedger
