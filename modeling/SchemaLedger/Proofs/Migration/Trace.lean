import SchemaLedger.Proofs.Migration.Progress

/-!
# What a run sends

The queries that a run sends after its plan was made, in their order.  They are a function of the
plan and of the change-sets to skip (`Migrator.planQueries`), with the values that each query binds
written out (`Migrator.markQueries`); a rejected query only ends the list early.  `Migrator.Sends`
says this of an action: it sends a list of queries up to the first rejected one, fails with the
error of that query, and gives its value when there is none.  Actions that send compose
(`Sends.bind`), so the lists of statements, of recordings and of whole plans are each put together
from smaller ones.

The ledger changes while the plan is carried out, and recording must still find no record of the
next change-set.  It does not, because a change-set adds records of its own name and of the empty
name only (`names_step`), and the names of a plan are distinct and not empty.
-/

namespace SchemaLedger

/-! ## Queries -/

/-- A query of a run after its plan was made: a statement of a change-set with the number of those
before it, or a query to the ledger. -/
inductive RunQuery where
  | statement (file : String) (completed : Nat) (sql : String)
  | ledger (sql : String) (bindings : List Sql.Value)
  deriving DecidableEq, Repr

namespace RunQuery

/-- The statement that is sent. -/
def sql : RunQuery → String
  | .statement _ _ sql => sql
  | .ledger sql _ => sql

/-- What the database receives; the statements of change-sets have no bindings. -/
def received : RunQuery → Received
  | .statement _ _ sql => ⟨sql, []⟩
  | .ledger sql bindings => ⟨sql, bindings⟩

/-- The error of a run that ends with the rejection of the query. -/
def error : RunQuery → MigrateError
  | .statement file completed sql => .statement file sql completed (Memory.rejection sql)
  | .ledger sql _ => .connection (Memory.rejection sql)

/-- What the database receives is the statement that is sent. -/
lemma sql_received (q : RunQuery) : q.received.sql = q.sql := by
  cases q <;> rfl

end RunQuery

namespace Memory

/-- The queries that are sent from a list: those up to the first rejected one, which is sent too. -/
def sent (s : Memory) : List RunQuery → List RunQuery
  | [] => []
  | q :: rest => if s.rejects q.sql then [q] else q :: s.sent rest

/-- The first rejected query of a list. -/
def firstRejected (s : Memory) (queries : List RunQuery) : Option RunQuery :=
  queries.find? fun q => s.rejects q.sql

variable {s s' : Memory}

/-- States that reject the same statements send the same queries. -/
lemma Keeps.sent_eq (h : s.Keeps s') (queries : List RunQuery) :
    s'.sent queries = s.sent queries := by
  induction queries with
  | nil => rfl
  | cons q rest ih => rw [sent, sent, h.rejects_eq, ih]

/-- States that reject the same statements stop at the same query. -/
lemma Keeps.firstRejected_eq (h : s.Keeps s') (queries : List RunQuery) :
    s'.firstRejected queries = s.firstRejected queries := by
  simp only [firstRejected, h.rejects_eq]

/-- The queries that are sent from a list are a first part of it. -/
lemma sent_prefix (s : Memory) (queries : List RunQuery) : s.sent queries <+: queries := by
  induction queries with
  | nil => exact List.prefix_refl _
  | cons q rest ih =>
    rw [sent]
    split
    · exact ⟨rest, rfl⟩
    · exact List.cons_prefix_cons.mpr ⟨rfl, ih⟩

/-- All queries are sent when none is rejected. -/
lemma sent_of_none {queries : List RunQuery} (h : s.firstRejected queries = none)
    (more : List RunQuery) : s.sent (queries ++ more) = queries ++ s.sent more := by
  induction queries with
  | nil => rfl
  | cons q rest ih =>
    rw [firstRejected, List.find?_cons] at h
    cases hq : s.rejects q.sql with
    | true =>
      rw [hq] at h
      cases h
    | false =>
      rw [hq] at h
      rw [List.cons_append, sent, hq, ih h]
      rfl

/-- A list without a rejected query is sent as it is. -/
lemma sent_eq_self {queries : List RunQuery} (h : s.firstRejected queries = none) :
    s.sent queries = queries := by
  have hsent := sent_of_none h []
  rwa [List.append_nil, sent, List.append_nil] at hsent

/-- No query is sent after a rejected one. -/
lemma sent_of_some {queries : List RunQuery} {q : RunQuery}
    (h : s.firstRejected queries = some q) (more : List RunQuery) :
    s.sent (queries ++ more) = s.sent queries := by
  induction queries with
  | nil => cases h
  | cons r rest ih =>
    rw [firstRejected, List.find?_cons] at h
    cases hr : s.rejects r.sql with
    | true => simp only [List.cons_append, sent, hr, if_true]
    | false =>
      rw [hr] at h
      rw [List.cons_append, sent, sent, ih h]

/-- There is no rejected query exactly if all are accepted. -/
lemma firstRejected_eq_none {queries : List RunQuery} :
    s.firstRejected queries = none ↔ ∀ q ∈ queries, s.rejects q.sql = false := by
  simp [firstRejected]

/-- The queries before the first rejected one and that one are the queries that are sent. -/
lemma sent_eq_of_rejects {before after : List RunQuery} {q : RunQuery}
    (hbefore : ∀ r ∈ before, s.rejects r.sql = false) (hq : s.rejects q.sql = true) :
    s.sent (before ++ q :: after) = before ++ [q] := by
  have hnone := firstRejected_eq_none.mpr hbefore
  rw [sent_of_none hnone, sent, if_pos hq]

/-- A query that is rejected after accepted ones is the first rejected one. -/
lemma firstRejected_eq_some {before after : List RunQuery} {q : RunQuery}
    (hbefore : ∀ r ∈ before, s.rejects r.sql = false) (hq : s.rejects q.sql = true) :
    s.firstRejected (before ++ q :: after) = some q := by
  have hnone := firstRejected_eq_none.mpr hbefore
  rw [firstRejected] at hnone ⊢
  rw [List.find?_append, hnone, Option.none_or, List.find?_cons, hq]

end Memory

namespace Migrator

/-! ## Actions that send queries -/

/-- An action sends queries up to the first rejected one.  It fails with the error of that query,
and gives a value when there is none. -/
structure Sends {α : Type} (a : Action Memory MigrateError α) (s : Memory)
    (queries : List RunQuery) (value : α) : Prop where
  keeps : s.Keeps (a s).2
  outcome : (a s).1 =
    match s.firstRejected queries with
    | none => .ok value
    | some q => .error q.error
  log : (a s).2.log = ((s.sent queries).map RunQuery.received).reverse ++ s.log

namespace Sends

variable {α β : Type} {a : Action Memory MigrateError α} {next : α → Action Memory MigrateError β}
  {s : Memory} {queries more : List RunQuery} {value : α} {result : β}

/-- What is kept by an action that sends, when its end is known. -/
lemma keeps_of_eq (ha : Sends a s queries value) {outcome : Except MigrateError α} {s' : Memory}
    (h : a s = (outcome, s')) : s.Keeps s' := by
  have hkeeps := ha.keeps
  rwa [h] at hkeeps

/-- An action that does nothing sends nothing. -/
lemma result_nil (s : Memory) (value : α) : Sends (pure value) s [] value :=
  ⟨.refl s, rfl, rfl⟩

/-- One query that is accepted or rejected. -/
lemma of_query {q : RunQuery}
    (haccepts : s.rejects q.sql = false →
      ∃ s', a s = (.ok value, s') ∧ s.Keeps s' ∧ s'.log = q.received :: s.log)
    (hrejects : s.rejects q.sql = true → a s = (.error q.error, s.receive q.received)) :
    Sends a s [q] value := by
  cases hq : s.rejects q.sql with
  | true =>
    have ha := hrejects hq
    have hfirst : s.firstRejected [q] = some q := by
      rw [Memory.firstRejected, List.find?_cons, hq]
    refine ⟨?_, ?_, ?_⟩
    · rw [ha]
      exact Memory.keeps_receive s _
    · rw [ha, hfirst]
    · rw [ha, Memory.sent, if_pos hq]
      rfl
  | false =>
    obtain ⟨s', ha, hkeeps, hlog⟩ := haccepts hq
    have hfirst : s.firstRejected [q] = none := by simp [Memory.firstRejected, hq]
    refine ⟨?_, ?_, ?_⟩
    · rwa [ha]
    · rw [ha, hfirst]
    · rw [ha, hlog, Memory.sent, hq]
      rfl

/-- An action that sends and then another one send the queries of both. -/
lemma bind (ha : Sends a s queries value)
    (hnext : ∀ s', a s = (.ok value, s') → Sends (next value) s' more result) :
    Sends (a >>= next) s (queries ++ more) result := by
  have houtcome := ha.outcome
  cases hfirst : s.firstRejected queries with
  | some q =>
    rw [hfirst] at houtcome
    have hbind : (a >>= next) s = (.error q.error, (a s).2) :=
      Action.bind_of_error (Prod.ext houtcome rfl)
    have hmore : s.firstRejected (queries ++ more) = some q := by
      rw [Memory.firstRejected] at hfirst ⊢
      rw [List.find?_append, hfirst, Option.some_or]
    refine ⟨?_, ?_, ?_⟩
    · rw [hbind]
      exact ha.keeps
    · rw [hbind, hmore]
    · rw [hbind, Memory.sent_of_some hfirst]
      exact ha.log
  | none =>
    rw [hfirst] at houtcome
    have hbind : (a >>= next) s = next value (a s).2 :=
      Action.bind_of_ok (Prod.ext houtcome rfl)
    have hsends := hnext (a s).2 (Prod.ext houtcome rfl)
    have hmore : s.firstRejected (queries ++ more) = (a s).2.firstRejected more := by
      rw [ha.keeps.firstRejected_eq]
      rw [Memory.firstRejected] at hfirst ⊢
      rw [List.find?_append, hfirst, Option.none_or, Memory.firstRejected]
    refine ⟨?_, ?_, ?_⟩
    · rw [hbind]
      exact ha.keeps.trans hsends.keeps
    · rw [hbind, hmore]
      exact hsends.outcome
    · rw [hbind, hsends.log, ha.keeps.sent_eq, ha.log, Memory.sent_eq_self hfirst,
        Memory.sent_of_none hfirst]
      simp

/-- The value of an action that sends can be changed afterwards. -/
lemma map (ha : Sends a s queries value) (f : α → β) :
    Sends (a >>= fun x => pure (f x)) s queries (f value) := by
  have h : Sends (a >>= fun x => pure (f x)) s (queries ++ []) (f value) :=
    ha.bind fun s' _ => result_nil s' (f value)
  rwa [List.append_nil] at h

/-- An action whose queries are accepted sends all of them and gives its value. -/
lemma of_accepts (ha : Sends a s queries value) (h : ∀ q ∈ queries, s.rejects q.sql = false) :
    (a s).1 = .ok value ∧ (a s).2.log = (queries.map RunQuery.received).reverse ++ s.log := by
  have hnone := Memory.firstRejected_eq_none.mpr h
  rw [ha.outcome, ha.log, hnone, Memory.sent_eq_self hnone]
  exact ⟨rfl, rfl⟩

/-- An action that sends and gives a value had all its queries accepted. -/
lemma accepts_of_ok (ha : Sends a s queries value) {value' : α} (h : (a s).1 = .ok value') :
    ∀ q ∈ queries, s.rejects q.sql = false := by
  refine Memory.firstRejected_eq_none.mp ?_
  have houtcome := ha.outcome
  rw [h] at houtcome
  split at houtcome
  · assumption
  · cases houtcome

/-- An action that sends fails with a query in the log. -/
lemma ne_error (ha : Sends a s queries value) (e : MigrateError) : a s ≠ (.error e, s) := by
  intro h
  have houtcome := ha.outcome
  have hlog := congrArg List.length ha.log
  rw [h] at houtcome hlog
  cases queries with
  | nil => cases houtcome
  | cons q rest =>
    have hsent : 0 < (s.sent (q :: rest)).length := by
      rw [Memory.sent]
      split <;> exact Nat.succ_pos _
    simp only [List.length_append, List.length_reverse, List.length_map] at hlog
    omega

end Sends

/-! ## The queries of a plan -/

section Queries

variable {σ : Type}

/-- The statements of a change-set, each with the number of those before it. -/
def statementQueries (file : String) (completed : Nat) (statements : List String) :
    List RunQuery :=
  (statements.zipIdx completed).map fun (sql, completed) => .statement file completed sql

/-- The number of the statements before a statement is not sent. -/
lemma received_statementQueries (file : String) (completed : Nat) (statements : List String) :
    (statementQueries file completed statements).map RunQuery.received =
      statements.map (⟨·, []⟩) := by
  induction statements generalizing completed with
  | nil => rfl
  | cons sql rest ih =>
    have hrest := ih (completed + 1)
    rw [statementQueries] at hrest ⊢
    rw [List.zipIdx_cons, List.map_cons, List.map_cons, hrest]
    rfl

/-- The question for the name of a change-set, and the insertion of its record.  The record has the
file name, the directory when there is more than one, the authors when they are known, and a text
for what ran. -/
def markQueries (m : Migrator σ) (p : Pending) (ranSql : String) : List RunQuery :=
  [.ledger ("SELECT id FROM " ++ Ledger.quotedTable m.connection ++ " WHERE migration = ?")
      [.text p.file],
    .ledger ("INSERT INTO " ++ Ledger.quotedTable m.connection ++
        " (migration, path, authors, ran_sql) VALUES (?, ?, ?, ?)")
      [.text p.file,
        .text (if 1 < m.config.paths.length then m.config.relativePath p.path else ""),
        .text ((m.authors p.fullPath).getD ""),
        .text ranSql]]

/-- The queries of a change-set: its statements and the recording of them with a blank line between
neighbours, or only the recording of the word for skipped ones. -/
def stepQueries (m : Migrator σ) (skip : List String) (p : Pending) (statements : List String) :
    List RunQuery :=
  if skip.contains p.file then m.markQueries p "skipped"
  else statementQueries p.file 0 statements ++ m.markQueries p ("\n\n".intercalate statements)

/-- The queries of a plan, change-set by change-set. -/
def planQueries (m : Migrator σ) (skip : List String) (planned : List (Pending × List String)) :
    List RunQuery :=
  planned.flatMap fun (p, statements) => m.stepQueries skip p statements

end Queries

variable {c : Connection Memory} {m : Migrator Memory} {s s' : Memory}

/-- A statement of a change-set is one query. -/
lemma sends_statement (hc : c.InMemory) (hs : s.Ready) (file sql : String) (completed : Nat) :
    ∃ rows, Sends ((c.query sql []).mapError (.statement file sql completed)) s
      [.statement file completed sql] rows := by
  cases hsql : s.rejects sql with
  | true =>
    refine ⟨[], Sends.of_query (fun h => ?_) fun h => ?_⟩
    · rw [RunQuery.sql, hsql] at h
      cases h
    · exact Action.mapError_of_error (Memory.query_of_rejects hc hs.connected hsql [])
  | false =>
    have hquery := Memory.query_of_accepts hc hs.connected hsql []
    refine ⟨_, Sends.of_query (fun _ => ⟨_, Action.mapError_of_ok hquery, ?_, ?_⟩) fun h => ?_⟩
    · exact (Memory.keeps_receive s _).trans (Memory.keeps_respond c _ sql [])
    · exact Memory.log_respond c _ sql []
    · rw [RunQuery.sql, hsql] at h
      cases h

/-- The statements of a change-set are sent in their order. -/
lemma sends_runStatements (hc : c.InMemory) (hs : s.Ready) (file : String) (completed : Nat)
    (statements : List String) :
    Sends (runStatements c file completed statements) s
      (statementQueries file completed statements) () := by
  induction statements generalizing s completed with
  | nil => exact Sends.result_nil s ()
  | cons sql rest ih =>
    obtain ⟨rows, hsends⟩ := sends_statement hc hs file sql completed
    refine hsends.bind fun s' hs' => ?_
    exact ih ((hsends.keeps_of_eq hs').ready hs) (completed + 1)

/-- A change-set without a record is recorded by two queries, of which the second one binds what is
kept of it. -/
lemma sends_mark (hm : m.connection.InMemory) (hs : s.Ready) {p : Pending} (hp : p.file ∉ s.names)
    (ran : Ran) : Sends (m.mark p ran) s (m.markQueries p ran.toText) () := by
  have hkeeps := Memory.keeps_receive s ⟨Ledger.lookupSql m.connection, [.text p.file]⟩
  have hlookup : Sends (Ledger.isRecorded m.connection p.file) s
      [.ledger (Ledger.lookupSql m.connection) [.text p.file]] false := by
    refine Sends.of_query (fun h => ?_) fun h => Ledger.isRecorded_of_rejects hm hs h p.file
    have haccepts := Ledger.isRecorded_of_accepts hm hs h p.file
    rw [decide_eq_false hp] at haccepts
    exact ⟨_, haccepts, hkeeps, rfl⟩
  refine hlookup.bind fun s' hs' => ?_
  have hready := (hlookup.keeps_of_eq hs').ready hs
  refine Sends.of_query (fun h => ?_) fun h => ?_
  · exact ⟨_, Ledger.record_of_accepts hm hready h _, ⟨rfl, rfl, rfl⟩, rfl⟩
  · exact Ledger.record_of_rejects hm hready h _

/-! ## Carrying out a plan -/

/-- A change-set without a record sends its queries. -/
lemma sends_step (hm : m.connection.InMemory) (hs : s.Ready) (skip : List String) {p : Pending}
    (hname : p.file ≠ "") (hp : p.file ∉ s.names) (statements : List String) :
    Sends (m.step skip p statements) s (m.stepQueries skip p statements) () := by
  unfold step stepQueries
  split
  · exact sends_mark hm hs hp .skipped
  · have hsends := sends_runStatements hm hs p.file 0 statements
    rw [← Ran.toText_statements]
    refine hsends.bind fun s' hs' => ?_
    have hframe := (runStatements_frame hm.unreliable p.file 0 statements (s := s)).2.1 p.file
    rw [hs'] at hframe
    refine sends_mark hm ((hsends.keeps_of_eq hs').ready hs) (fun hmem => ?_) _
    rcases hframe hmem with hmem | hempty
    · exact hp hmem
    · exact hname hempty

/-- The summary of files: those outside and those inside a list of files to skip. -/
def summaryOf (skip files : List String) : RunSummary where
  migrated := files.filter fun file => !skip.contains file
  skipped := files.filter fun file => skip.contains file

/-- Without change-sets to skip, all files are migrated. -/
lemma summaryOf_nil (files : List String) : summaryOf [] files = ⟨files, []⟩ := by
  simp [summaryOf]

/-- The summary of files is made from the front. -/
lemma summaryOf_cons (skip : List String) (file : String) (files : List String) :
    summaryOf skip (file :: files) = consSummary skip file (summaryOf skip files) := by
  unfold summaryOf consSummary
  cases hskip : skip.contains file with
  | true => simp only [List.filter_cons, hskip, RunSummary.consSkipped, Bool.not_true]; rfl
  | false => simp only [List.filter_cons, hskip, RunSummary.consMigrated, Bool.not_false]; rfl

/-- The later ones of distinct change-sets without records have none after the first one either,
which recorded nothing but its own name and perhaps the empty one. -/
lemma fresh_step (hm : m.connection.Unreliable) (hs : s.responses = []) (skip : List String)
    {item : Pending × List String} {rest : List (Pending × List String)}
    (hfresh : ∀ other ∈ item :: rest, other.1.file ≠ "" ∧ other.1.file ∉ s.names)
    (hitem : item.1.file ∉ rest.map fun other => other.1.file) :
    ∀ other ∈ rest, other.1.file ≠ "" ∧
      other.1.file ∉ (m.step skip item.1 item.2 s).2.names := by
  intro other hother
  obtain ⟨hname, hfree⟩ := hfresh other (List.mem_cons_of_mem _ hother)
  refine ⟨hname, fun hmem => ?_⟩
  rcases names_step hm hs skip item.1 item.2 other.1.file hmem with hmem | hempty | heq
  · exact hfree hmem
  · exact hname hempty
  · exact hitem (List.mem_map.mpr ⟨other, hother, heq⟩)

/-- A plan of distinct change-sets without records sends their queries one after another. -/
theorem sends_carryOut (hm : m.connection.InMemory) (hs : s.Ready) (skip : List String)
    {planned : List (Pending × List String)}
    (hfresh : ∀ item ∈ planned, item.1.file ≠ "" ∧ item.1.file ∉ s.names)
    (hdistinct : (planned.map fun item => item.1.file).Nodup) :
    Sends (m.carryOut skip planned) s (m.planQueries skip planned)
      (summaryOf skip (planned.map fun item => item.1.file)) := by
  induction planned generalizing s with
  | nil => exact Sends.result_nil s RunSummary.empty
  | cons item rest ih =>
    obtain ⟨p, statements⟩ := item
    obtain ⟨hname, hp⟩ := hfresh (p, statements) List.mem_cons_self
    rw [List.map_cons, List.nodup_cons] at hdistinct
    rw [carryOut_cons, List.map_cons, summaryOf_cons]
    have hsends := sends_step hm hs skip hname hp statements
    refine hsends.bind fun s' hs' => Sends.map (ih ?_ ?_ hdistinct.2) _
    · exact (hsends.keeps_of_eq hs').ready hs
    · have hleft := fresh_step hm.unreliable hs.responses skip hfresh hdistinct.1
      rwa [hs'] at hleft

/-- A plan of the change-sets without a record sends its queries one after another. -/
lemma sends_plan (hm : m.connection.InMemory) (hs : s.Ready) (skip : List String)
    {planned : List (Pending × List String)}
    (hfound : m.unrecorded s.names = .ok (planned.map Prod.fst)) :
    Sends (m.carryOut skip planned) s (m.planQueries skip planned)
      (summaryOf skip (planned.map fun item => item.1.file)) := by
  have hascending := List.pairwise_map.mp (pairwise_lt_of_unrecorded hfound)
  refine sends_carryOut hm hs skip (fun item hitem => ?_) ?_
  · exact file_fresh_of_unrecorded hfound (List.mem_map_of_mem hitem)
  · exact List.pairwise_map.mpr (hascending.imp ne_of_lt)

/-! ## The trace of a run -/

/-- A run whose change-sets without a record all have statements sends the question for names, and
then the queries of its plan up to and including the first rejected one: change-set by change-set in
strictly ascending order of their names, for one to skip the question for its name and the insertion
of a record that ends in the word `skipped`, and for another one its statements in order, then the
question, and the insertion of a record that ends in the statements with blank lines between them.
The run succeeds exactly if no query is rejected, and its summary then splits the files by the list
to skip.  When a query is rejected, the error of the run is the error of that query; for a statement
it tells the file and the number of its statements that were accepted before.  The change-sets
without a record are known only with an open session in which the question for names is accepted, so
the third hypothesis says this too. -/
theorem run_trace (hm : m.connection.InMemory) (hs : s.responses = []) (skip : List String)
    {planned : List (Pending × List String)}
    (hfound : (m.pending s).1 = .ok (planned.map Prod.fst))
    (hsql : ∀ item ∈ planned, m.sql item.1 .up = .ok item.2) :
    (planned.Pairwise fun a b => a.1.file < b.1.file) ∧
    (m.run skip s).2.log =
      ((s.sent (m.planQueries skip planned)).map RunQuery.received).reverse ++
        ⟨Ledger.namesSql m.connection, []⟩ :: s.log ∧
    (∀ summary, (m.run skip s).1 = .ok summary ↔
      (∀ q ∈ m.planQueries skip planned, s.rejects q.sql = false) ∧
        summary = summaryOf skip (planned.map fun item => item.1.file)) ∧
    (∀ before q after, m.planQueries skip planned = before ++ q :: after →
      (∀ r ∈ before, s.rejects r.sql = false) → s.rejects q.sql = true →
      s.sent (m.planQueries skip planned) = before ++ [q] ∧
        (m.run skip s).1 = .error q.error) := by
  obtain ⟨hready, haccepts, hunrecorded⟩ := ready_of_pending hm hs hfound
  have hpending := pending_of_accepts hm hready haccepts
  rw [hunrecorded] at hpending
  have hplan : m.plan (planned.map Prod.fst) = .ok planned := plan_eq_ok_iff.mpr ⟨rfl, hsql⟩
  have hkeeps := Memory.keeps_receive s ⟨Ledger.namesSql m.connection, []⟩
  have hascending := List.pairwise_map.mp (pairwise_lt_of_unrecorded hunrecorded)
  have hsends := sends_plan hm (hkeeps.ready hready) skip hunrecorded
  have houtcome := hsends.outcome
  have hlog := hsends.log
  rw [hkeeps.firstRejected_eq] at houtcome
  rw [hkeeps.sent_eq] at hlog
  rw [run_of_plan_ok hpending hplan]
  refine ⟨hascending, hlog, fun summary => ?_, fun before q after hqueries hbefore hq => ?_⟩
  · rw [houtcome, ← Memory.firstRejected_eq_none]
    cases hfirst : s.firstRejected (m.planQueries skip planned) with
    | none =>
      constructor
      · intro h
        cases h
        exact ⟨rfl, rfl⟩
      · rintro ⟨-, rfl⟩
        rfl
    | some q =>
      constructor
      · intro h
        cases h
      · rintro ⟨h, -⟩
        cases h
  · rw [houtcome, hqueries, Memory.firstRejected_eq_some hbefore hq]
    exact ⟨Memory.sent_eq_of_rejects hbefore hq, rfl⟩

/-- Three change-sets below two directories.  The second one has an author. -/
def sampleOfTwoDirs : Migrator Memory :=
  { sample [("m", [("1.json", some ["a"])]),
      ("n", [("2.json", some ["b", "c"]), ("3.json", some ["d", "e!"])])] with
    authors := fun file => if file = ⟨"/n/2.json"⟩ then some "dev" else none }

/-- The plan of the sample. -/
def planOfTwoDirs : List (Pending × List String) :=
  [(⟨⟨"/m"⟩, "1.json"⟩, ["a"]), (⟨⟨"/n"⟩, "2.json"⟩, ["b", "c"]),
    (⟨⟨"/n"⟩, "3.json"⟩, ["d", "e!"])]

/-- The change-sets of the sample are those of its plan. -/
lemma changeSets_sampleOfTwoDirs :
    sampleOfTwoDirs.changeSets = .ok (planOfTwoDirs.map Prod.fst) := by
  have haccepted : acceptedInAll sampleOfTwoDirs.files sampleOfTwoDirs.loaders
      sampleOfTwoDirs.config.paths = .ok (planOfTwoDirs.map Prod.fst) := rfl
  exact discover_of_pairwise_lt haccepted (by decide)

/-- The database of the sample is one in memory. -/
lemma inMemory_sampleOfTwoDirs : sampleOfTwoDirs.connection.InMemory := ⟨_, _, rfl⟩

/-- When the question for names is accepted, the change-sets without a record are those of the plan
that have none. -/
lemma pending_sampleOfTwoDirs {failOn : Option String} {records : List LedgerEntry}
    (haccepts : (openMemory failOn records).rejects
      (Ledger.namesSql sampleOfTwoDirs.connection) = false) :
    (sampleOfTwoDirs.pending (openMemory failOn records)).1 =
      .ok ((planOfTwoDirs.map Prod.fst).filter
        fun p => !(openMemory failOn records).names.contains p.file) := by
  rw [pending_of_accepts inMemory_sampleOfTwoDirs (ready_openMemory _ _) haccepts]
  exact unrecorded_of_changeSets changeSets_sampleOfTwoDirs _

/-- What the database receives when the first change-set of the sample is skipped and nothing is
rejected. -/
def receivedFromSample : List Received :=
  [⟨"SELECT migration FROM `tramp_migrations`", []⟩,
    ⟨"SELECT id FROM `tramp_migrations` WHERE migration = ?", [.text "1.json"]⟩,
    ⟨"INSERT INTO `tramp_migrations` (migration, path, authors, ran_sql) VALUES (?, ?, ?, ?)",
      [.text "1.json", .text "m", .text "", .text "skipped"]⟩,
    ⟨"b", []⟩, ⟨"c", []⟩,
    ⟨"SELECT id FROM `tramp_migrations` WHERE migration = ?", [.text "2.json"]⟩,
    ⟨"INSERT INTO `tramp_migrations` (migration, path, authors, ran_sql) VALUES (?, ?, ?, ?)",
      [.text "2.json", .text "n", .text "dev", .text "b\n\nc"]⟩,
    ⟨"d", []⟩, ⟨"e!", []⟩,
    ⟨"SELECT id FROM `tramp_migrations` WHERE migration = ?", [.text "3.json"]⟩,
    ⟨"INSERT INTO `tramp_migrations` (migration, path, authors, ran_sql) VALUES (?, ?, ?, ?)",
      [.text "3.json", .text "n", .text "", .text "d\n\ne!"]⟩]

/-- A database that rejects insertions, with a record of the first change-set of the sample. -/
def withoutInsertions : Memory := openMemory (some "INSERT") [⟨"1.json", "m", "", "a"⟩]

/-- The first change-set of the sample is skipped, and all queries are accepted, or the second
statement of the third change-set is rejected.  Where the first change-set has a record and
insertions are rejected, both statements of the second one ran before the run fails. -/
theorem run_trace_sample :
    ((sampleOfTwoDirs.run ["1.json"] (openMemory none [])).2.log.reverse = receivedFromSample ∧
      (sampleOfTwoDirs.run ["1.json"] (openMemory none [])).1 =
        .ok ⟨["2.json", "3.json"], ["1.json"]⟩) ∧
    ((sampleOfTwoDirs.run ["1.json"] (openMemory (some "!") [])).2.log.reverse =
        receivedFromSample.take 9 ∧
      (sampleOfTwoDirs.run ["1.json"] (openMemory (some "!") [])).1 =
        .error (.statement "3.json" "e!" 1 (.driver "rejected: e!"))) ∧
    ((sampleOfTwoDirs.run [] withoutInsertions).2.log.reverse =
        [⟨"SELECT migration FROM `tramp_migrations`", []⟩,
          ⟨"b", []⟩, ⟨"c", []⟩,
          ⟨"SELECT id FROM `tramp_migrations` WHERE migration = ?", [.text "2.json"]⟩,
          ⟨"INSERT INTO `tramp_migrations` (migration, path, authors, ran_sql) VALUES (?, ?, ?, ?)",
            [.text "2.json", .text "n", .text "dev", .text "b\n\nc"]⟩] ∧
      (sampleOfTwoDirs.run [] withoutInsertions).1 =
        .error (.connection (.driver ("rejected: INSERT INTO `tramp_migrations` " ++
          "(migration, path, authors, ran_sql) VALUES (?, ?, ?, ?)")))) := by
  have hm := inMemory_sampleOfTwoDirs
  have hsql : ∀ item ∈ planOfTwoDirs, sampleOfTwoDirs.sql item.1 .up = .ok item.2 := by decide
  refine ⟨?_, ?_, ?_⟩
  · have hall : (sampleOfTwoDirs.pending (openMemory none [])).1 =
        .ok (planOfTwoDirs.map Prod.fst) := pending_sampleOfTwoDirs (by decide)
    obtain ⟨-, hlog, hok, -⟩ := run_trace hm rfl ["1.json"] hall hsql
    refine ⟨?_, (hok _).mpr ⟨by decide, by decide⟩⟩
    rw [hlog]
    decide
  · have hall : (sampleOfTwoDirs.pending (openMemory (some "!") [])).1 =
        .ok (planOfTwoDirs.map Prod.fst) := pending_sampleOfTwoDirs (by decide)
    obtain ⟨-, hlog, -, hrejected⟩ := run_trace hm rfl ["1.json"] hall hsql
    obtain ⟨-, herror⟩ := hrejected
      (sampleOfTwoDirs.planQueries ["1.json"] (planOfTwoDirs.take 2) ++ [.statement "3.json" 0 "d"])
      (.statement "3.json" 1 "e!") _ rfl (by decide) (by decide)
    refine ⟨?_, herror⟩
    rw [hlog]
    decide
  · have hleft : (sampleOfTwoDirs.pending withoutInsertions).1 =
        .ok (planOfTwoDirs.tail.map Prod.fst) := pending_sampleOfTwoDirs (by decide)
    obtain ⟨-, hlog, -, hrejected⟩ := run_trace hm rfl [] hleft
      fun item hitem => hsql item (List.mem_of_mem_tail hitem)
    obtain ⟨-, herror⟩ := hrejected ((sampleOfTwoDirs.planQueries [] planOfTwoDirs.tail).take 3)
      _ _ rfl (by decide) (by decide)
    refine ⟨?_, herror⟩
    rw [hlog]
    decide

end Migrator

end SchemaLedger
