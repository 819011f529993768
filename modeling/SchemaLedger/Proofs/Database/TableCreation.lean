import SchemaLedger.Proofs.Database.Exchanges
import SchemaLedger.Proofs.Database.Execution
import SchemaLedger.Proofs.Grammar.CommandStatements

/-!
# The creation of the ledger table

The ledger asks for its table by name and creates it by a quoted name.  On MySQL both are made of
the table prefix and the name of the table, so on a connection with that prefix and with a known
database the answer to the question is whether the table exists (`isEmpty_tableRows`), and the
creation is a single statement that names the table (`toSql_blueprint`), whatever the prefix is.
Together, the ledger creates its table when and only when there is none (`observes_ensureTable`),
and it does not fail to do so when nothing is rejected (`Ledger.succeeds_ensureTable`).
-/

namespace SchemaLedger

namespace Text

/-- Characters that stand between others occur in all of them. -/
lemma occursIn_append (before needle after : List Char) :
    occursIn needle (before ++ (needle ++ after)) = true := by
  induction before with
  | nil =>
    rw [List.nil_append]
    cases htext : needle ++ after with
    | nil =>
      obtain ⟨rfl, -⟩ := List.append_eq_nil_iff.mp htext
      rfl
    | cons c rest =>
      rw [occursIn, ← htext, List.isPrefixOf_iff_prefix.mpr (List.prefix_append needle after),
        Bool.true_or]
  | cons c before ih => rw [List.cons_append, occursIn, ih, Bool.or_true]

/-- A text contains what its beginning contains between other texts. -/
lemma contains_of_beginsWith {text before needle after : String}
    (h : beginsWith text (before ++ needle ++ after) = true) : contains text needle = true := by
  obtain ⟨rest, htext⟩ := beginsWith_iff.mp h
  have hparts : text.toList = before.toList ++ (needle.toList ++ (after.toList ++ rest)) := by
    rw [htext]
    simp only [String.toList_append, List.append_assoc]
  rw [contains, hparts]
  exact occursIn_append _ _ _

end Text

open Memory

variable {settings : Settings} {stringLength : Nat} {s : Memory}

/-! ## The question -/

namespace Memory

/-- The question whether the table exists is answered by its row, if it does. -/
lemma respond_tableExists (h : s.responses = []) (grammar : Grammar) (bindings : List Sql.Value) :
    respond settings grammar
      "SELECT * FROM information_schema.tables WHERE table_schema = ? AND table_name = ?"
      bindings s = (tableRows settings bindings s, s) := by
  have hexists : Text.beginsWith
      "SELECT * FROM information_schema.tables WHERE table_schema = ? AND table_name = ?"
      "SELECT * FROM information_schema.tables" = true := by decide
  simp only [respond, h, List.find?_nil, hexists, if_true]

/-- The row is there exactly if the table is, when the question has the name of the database and the
name of the table with its prefix. -/
lemma isEmpty_tableRows {database : String} (hdatabase : settings.database = some database)
    (s : Memory) :
    (tableRows settings [.ofText? settings.database,
      .text (settings.tablePrefix ++ Ledger.tableName)] s).isEmpty = !s.tableCreated := by
  cases htable : s.tableCreated <;> simp [tableRows, hdatabase, htable, Sql.Value.ofText?,
    Sql.Value.text?]

end Memory

/-! ## The statement -/

namespace Ledger

/-- The words of the creation and the quoted name of the table, up to the bracket behind. -/
def creationFront (tablePrefix : String) : String :=
  "CREATE TABLE " ++ (MySql.naming tablePrefix).wrapTable tableName ++ " ("

variable {tablePrefix : String}

/-- The front of the creation is what stands in front of the columns of the ledger table. -/
lemma createHead_blueprint (tablePrefix : String) :
    MySql.createHead tablePrefix blueprint ++ "(" = creationFront tablePrefix := by
  have htemporary : blueprint.temporary = false := rfl
  have htable : blueprint.table = tableName := rfl
  have hwords : "CREATE" ++ " TABLE " = "CREATE TABLE " := by decide
  have hbracket : " " ++ "(" = " (" := by decide
  rw [MySql.createHead, htemporary, htable, if_neg Bool.false_ne_true, hwords, String.append_assoc,
    hbracket, creationFront]

/-- Nothing of the front is taken away when a statement is made of a text that begins with it. -/
lemma beginsWith_creationFront {text sql : String}
    (htext : Text.beginsWith text (creationFront tablePrefix) = true)
    (hsql : Blueprint.statement? text = some sql) :
    Text.beginsWith sql (creationFront tablePrefix) = true := by
  obtain ⟨rest, htext⟩ := Text.beginsWith_iff.mp htext
  obtain ⟨middle, hfront⟩ : ∃ middle, (creationFront tablePrefix).toList =
      'C' :: middle ++ ['('] :=
    ⟨"REATE TABLE ".toList ++ ((MySql.naming tablePrefix).wrapTable tableName).toList ++ [' '],
      by simp [creationFront]⟩
  have hlast : ∀ c ∈ (creationFront tablePrefix).toList.getLast?,
      Text.isBlank c = false ∧ c ≠ ';' := by
    intro c hc
    rw [hfront, List.getLast?_concat, Option.mem_def, Option.some.injEq] at hc
    subst hc
    decide
  have hbody : Blueprint.IsBody (creationFront tablePrefix).toList := by
    refine ⟨?_, fun c hc => ?_, fun c hc => (hlast c hc).1⟩
    · rw [hfront]
      exact List.cons_ne_nil _ _
    · rw [hfront, List.cons_append, List.head?_cons, Option.mem_def, Option.some.injEq] at hc
      subst hc
      decide
  obtain ⟨more, hmore⟩ := Blueprint.statement?_of_front htext hbody hlast
  rw [Option.some.inj (hsql.symm.trans hmore)]
  exact Text.beginsWith_iff.mpr ⟨more, String.toList_ofList⟩

/-- The ledger table is created by one statement. -/
lemma toSql_blueprint {statements : List String}
    (h : blueprint.toSql (Grammar.mysql tablePrefix stringLength) settings = .ok statements) :
    ∃ sql, statements = [sql] ∧ Text.beginsWith sql (creationFront tablePrefix) = true := by
  have hcommands : blueprint.resolvedCommands.filter blueprint.speaks = [.create] := by decide
  have hstatements := Blueprint.statements_of_compileCommands h
  rw [hcommands] at hstatements
  cases hstatements with
  | @cons _ sql _ _ hsql hrest =>
    cases hrest
    obtain ⟨text, hcompile, hstatement⟩ := hsql
    obtain ⟨definitions, -, htext⟩ := MySql.compile_create hcompile
    refine ⟨sql, rfl, beginsWith_creationFront ?_ hstatement⟩
    rw [Option.some.inj htext, createHead_blueprint]
    iterate 3 refine Text.beginsWith_append_right ?_ _
    exact Text.beginsWith_self _

end Ledger

/-! ## When there is no table -/

/-- A connection asks for the ledger table under the name with which it creates it: its dialect has
the table prefix of its settings, and the database is known. -/
structure Connection.FindsLedger (c : Connection Memory) : Prop extends
    Connection.SparesTables c where
  grammar : ∃ stringLength, c.grammar = Grammar.mysql c.settings.tablePrefix stringLength
  database : ∃ database, c.settings.database = some database

namespace Connection.FindsLedger

variable {c : Connection Memory}

/-- The question of the ledger is observed.  It gives whether the table exists. -/
lemma observes_hasTable (hc : c.FindsLedger) (hs : s.responses = []) :
    Observes c (c.observed.queue.hasTable c.observed Ledger.tableName)
      (c.queue.hasTable c Ledger.tableName) s fun found s' => found = s'.tableCreated := by
  obtain ⟨stringLength, hgrammar⟩ := hc.grammar
  obtain ⟨database, hdatabase⟩ := hc.database
  have hbindings : c.queue.tableBindings c Ledger.tableName =
      [.ofText? c.settings.database, .text (c.settings.tablePrefix ++ Ledger.tableName)] := by
    have hqueue : c.queue.grammar = Grammar.mysql c.settings.tablePrefix stringLength := hgrammar
    rw [ChangeQueue.tableBindings, hqueue]
    rfl
  refine Observes.bind_ofExcept fun sql hsql => ?_
  have hsql : sql =
      "SELECT * FROM information_schema.tables WHERE table_schema = ? AND table_name = ?" := by
    have htableExists : c.grammar.tableExists = .ok sql := hsql
    rw [hgrammar] at htableExists
    cases htableExists
    rfl
  have hwords : Text.beginsWith sql "CREATE TABLE" = false := by
    rw [hsql]
    decide
  have hquery := hc.observes_query hs (c.queue.tableBindings c Ledger.tableName)
    fun hcreation => absurd hcreation (ne_true_of_eq_false hwords)
  refine (hquery.mapError _).bind fun rows s' _ hrows => Observes.result ?_
  have hreceived : (s.receive ⟨sql, c.queue.tableBindings c Ledger.tableName⟩).responses = [] := hs
  rw [hsql] at hrows hreceived
  rw [respond_tableExists hreceived, hbindings] at hrows
  obtain ⟨rfl, rfl⟩ := Prod.mk.inj hrows
  rw [isEmpty_tableRows hdatabase, Bool.not_not]

/-- The execution of the creation is observed when there is no table.  There is one afterwards, if
it does not fail. -/
lemma observes_creation (hc : c.FindsLedger) (hs : s.responses = [])
    (habsent : s.tableCreated = false) :
    Observes c ((c.observed.queue.push Ledger.blueprint).execute c.observed).1
      ((c.queue.push Ledger.blueprint).execute c).1 s fun _ s' => s'.tableCreated = true := by
  obtain ⟨stringLength, hgrammar⟩ := hc.grammar
  have hquoted : (MySql.naming c.settings.tablePrefix).wrapTable Ledger.tableName =
      Ledger.quotedTable c := by
    rw [Ledger.quotedTable, hgrammar]
    rfl
  refine Observes.bind_ofExcept fun statements hstatements => ?_
  have hrender : Ledger.blueprint.toSql c.grammar c.settings = .ok statements := hstatements
  rw [hgrammar] at hrender
  obtain ⟨sql, rfl, hfront⟩ := Ledger.toSql_blueprint hrender
  have hwords : Text.beginsWith sql "CREATE TABLE" = true := by
    have hspace : Text.beginsWith "CREATE TABLE " "CREATE TABLE" = true := by decide
    have hfrontWords : Text.beginsWith (Ledger.creationFront c.settings.tablePrefix)
        "CREATE TABLE" = true :=
      Text.beginsWith_append_right (Text.beginsWith_append_right hspace _) _
    exact Text.beginsWith_trans hfront hfrontWords
  have hnamed : Text.contains sql (Ledger.quotedTable c) = true := by
    rw [← hquoted]
    exact Text.contains_of_beginsWith hfront
  have hquery := hc.observes_query hs [] fun _ => And.intro hnamed habsent
  have hsend : Observes c (ChangeQueue.send c.observed sql []) (ChangeQueue.send c sql []) s
      fun _ s' => s'.tableCreated = true := by
    refine (hquery.mapError _).imp fun rows s' hrows => ?_
    have hreceived : (s.receive ⟨sql, []⟩).responses = [] := hs
    have htable := tableCreated_respond (c := c) hreceived sql []
    rwa [← hrows, hwords, hnamed, Bool.and_self, Bool.or_true] at htable
  have hsendAll : Observes c (ChangeQueue.sendAll c.observed [sql]) (ChangeQueue.sendAll c [sql]) s
      fun _ s' => s'.tableCreated = true :=
    hsend.bind fun _ s' _ htable => Observes.result htable
  exact hsendAll.bind fun _ s' _ htable => Observes.result htable

/-- The ledger makes sure of its table: this is observed, and there is a table afterwards if it does
not fail. -/
lemma observes_ensureTable (hc : c.FindsLedger) (hs : s.responses = []) :
    Observes c (Ledger.ensureTable c.observed) (Ledger.ensureTable c) s
      fun _ s' => s'.tableCreated = true := by
  have hquestion := hc.observes_hasTable hs
  refine (hquestion.mapError _).bind fun found s' hkept hfound => ?_
  cases found with
  | true => exact Observes.result hfound.symm
  | false =>
    have hcreation := hc.observes_creation (hkept.trans hs) hfound.symm
    exact (hcreation.mapError _).bind fun _ s'' _ htable => Observes.result htable

end Connection.FindsLedger

/-! ## When nothing is rejected -/

namespace Memory

/-- An action does not fail while the session is open and no statement is rejected, and leaves it
so. -/
def Succeeds {ε α : Type} (a : Action Memory ε α) : Prop :=
  ∀ s, s.connected = true → s.failOn = none → ∃ value s', a s = (.ok value, s') ∧ s.Keeps s'

namespace Succeeds

variable {ε ε' α β : Type} {a : Action Memory ε α}

/-- A value succeeds. -/
lemma result (value : α) : Succeeds (pure value : Action Memory ε α) :=
  fun s _ _ => ⟨value, s, rfl, .refl s⟩

/-- Actions that succeed succeed one after another. -/
lemma bind {next : α → Action Memory ε β} (ha : Succeeds a)
    (hnext : ∀ value, Succeeds (next value)) : Succeeds (a >>= next) := by
  intro s hconnected hfailOn
  obtain ⟨value, s', h, hkeeps⟩ := ha s hconnected hfailOn
  obtain ⟨value', s'', h', hkeeps'⟩ := hnext value s' (hkeeps.connected.trans hconnected)
    (hkeeps.failOn.trans hfailOn)
  exact ⟨value', s'', (Action.bind_of_ok h).trans h', hkeeps.trans hkeeps'⟩

/-- How errors are seen does not matter to an action that succeeds. -/
lemma mapError (ha : Succeeds a) (f : ε → ε') : Succeeds (a.mapError f) := by
  intro s hconnected hfailOn
  obtain ⟨value, s', h, hkeeps⟩ := ha s hconnected hfailOn
  exact ⟨value, s', Action.mapError_of_ok h, hkeeps⟩

/-- A query succeeds. -/
lemma query {c : Connection Memory} (hc : c.InMemory) (sql : String)
    (bindings : List Sql.Value) : Succeeds (c.query sql bindings) := by
  intro s hconnected hfailOn
  have hrejects : s.rejects sql = false := by
    rw [rejects, hfailOn, Option.map_none, Option.getD_none]
  have hquery := query_of_accepts hc hconnected hrejects bindings
  exact ⟨_, _, hquery, (keeps_receive s _).trans (keeps_respond c _ sql bindings)⟩

end Succeeds

end Memory

/-- Statements can be sent when nothing is rejected. -/
lemma ChangeQueue.succeeds_sendAll {c : Connection Memory} (hc : c.InMemory)
    (statements : List String) : Succeeds (sendAll c statements) := by
  induction statements with
  | nil => exact .result 0
  | cons sql rest ih =>
    exact ((Succeeds.query hc sql []).mapError _).bind fun _ => ih.bind fun _ => .result _

/-- The ledger can make sure of its table when nothing is rejected. -/
lemma Ledger.succeeds_ensureTable {c : Connection Memory} (hc : c.InMemory) {tablePrefix : String}
    (hgrammar : c.grammar = Grammar.mysql tablePrefix stringLength) :
    Succeeds (Ledger.ensureTable c) := by
  have hquestion : Succeeds (c.queue.hasTable c tableName) := by
    have hexists : ∃ sql, c.queue.grammar.tableExists = .ok sql := by
      have hqueue : c.queue.grammar = Grammar.mysql tablePrefix stringLength := hgrammar
      rw [hqueue]
      exact ⟨_, rfl⟩
    obtain ⟨sql, hsql⟩ := hexists
    rw [ChangeQueue.hasTable, hsql]
    exact ((Succeeds.query hc sql _).mapError _).bind fun _ => .result _
  have hcreation : Succeeds ((c.queue.push blueprint).execute c).1 := by
    have hrender : ∃ statements, blueprint.toSql c.grammar c.settings = .ok statements := by
      rw [hgrammar]
      exact ⟨_, rfl⟩
    obtain ⟨statements, hstatements⟩ := hrender
    have hall : (c.queue.push blueprint).renderAll [.blueprint 0] = .ok (statements ++ []) := by
      have hentry : (c.queue.push blueprint).render (.blueprint 0) = .ok statements := hstatements
      rw [ChangeQueue.renderAll, hentry]
      rfl
    have hexecute : ((c.queue.push blueprint).execute c).1 =
        ChangeQueue.sendAll c (statements ++ []) :=
      ChangeQueue.executeEntries_of_renderAll _ c hall
    rw [hexecute]
    exact ChangeQueue.succeeds_sendAll hc _
  refine (hquestion.mapError _).bind fun found => ?_
  split
  · exact .result ()
  · exact (hcreation.mapError _).bind fun _ => .result ()

end SchemaLedger
