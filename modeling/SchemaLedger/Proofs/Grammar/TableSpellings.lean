import SchemaLedger.Database.Connection
import SchemaLedger.Proofs.Grammar.ColumnCalls
import SchemaLedger.Proofs.Grammar.WrappedIdentifiers

/-!
# The spellings of a table

A table is spelled in three ways.  A question about it binds its name with the prefix in front
(`ChangeQueue.asks_hasTable`, `ChangeQueue.asks_columnListing`).  A change of its columns holds that
name in a string literal, which is read as the name unless there is a backslash in it
(`MySql.passesTable_alterColumnCall`).  Every other statement writes the table as an identifier
(`MySql.writesTable_of_compile`).

The identifier is one quoted text that is read as the prefixed name exactly if that name is plain:
without a dot, without an alias, and not the star (`Naming.isQuotedName_wrapTable_iff`).  For any
other name a statement targets something else than what is asked about and changed.
-/

namespace SchemaLedger

open Sql

/-! ## Identifiers -/

namespace Naming

/-- A text is one quoted identifier, and it is read as a name. -/
def IsQuotedName (quote : Char) (sql name : String) : Prop :=
  Quoted.read quote sql.toList = some (name.toList, [])

instance (quote : Char) (sql name : String) : Decidable (IsQuotedName quote sql name) :=
  inferInstanceAs (Decidable (_ = _))

variable {n : Naming}

/-- A segment is read back in front of anything but a quote, unless it is a bare star. -/
lemma read_wrapValue (hstar : n.quote ≠ '*') (segment : String) {rest : List Char}
    (hrest : rest.head? ≠ some n.quote) :
    Quoted.read n.quote ((n.wrapValue segment).toList ++ rest) =
      if segment = "*" then none else some (segment.toList, rest) := by
  by_cases hsegment : segment = "*"
  · have hbare : (n.wrapValue segment).toList ++ rest = '*' :: rest := by
      simp [wrapValue, hsegment]
    rw [hbare, if_pos hsegment, Quoted.read, if_neg hstar.symm]
  · have hquoted : (n.wrapValue segment).toList = Quoted.encode n.quote segment.toList := by
      rw [wrapValue, if_neg hsegment, String.toList_ofList]
    rw [hquoted, if_neg hsegment]
    exact Quoted.read_encode segment.toList hrest

/-- An identifier begins with a segment.  Nothing follows it exactly if there is neither a dot nor
an alias, and then it is the whole identifier. -/
def BeginsWithSegment (n : Naming) (isWhole : Prop) (value sql : String) : Prop :=
  ∃ segment rest, sql.toList = (n.wrapValue segment).toList ++ rest ∧
    rest.head? ≠ some n.quote ∧ (rest = [] → isWhole ∧ segment = value)

/-- Segments in a row begin with the first of them. -/
lemma beginsWithSegment_wrapSegments (hdot : n.quote ≠ '.') (start value : String) :
    n.BeginsWithSegment ('.' ∉ value.toList) value (n.wrapSegments start value) := by
  by_cases hdotted : '.' ∈ value.toList
  · obtain ⟨first, second, others, hsplit⟩ := Text.splitOn_of_mem hdotted
    have hsegments : Text.split '.' value =
        String.ofList first :: String.ofList second :: others.map String.ofList := by
      rw [Text.split, hsplit]
      rfl
    have hwritten : (n.wrapSegments start value).toList =
        (n.wrapValue (start ++ String.ofList first)).toList ++ ('.' ::
          (Text.join "." ((String.ofList second :: others.map String.ofList).map
            n.wrapValue)).toList) := by
      simp only [wrapSegments, hsegments, List.map_cons, Text.join, String.toList_append,
        List.append_assoc]
      rfl
    refine ⟨_, _, hwritten, ?_, fun hnil => absurd hnil (List.cons_ne_nil _ _)⟩
    rw [List.head?_cons, ne_eq, Option.some.injEq]
    exact hdot.symm
  · refine ⟨value, [], ?_, (Option.some_ne_none _).symm, fun _ => ⟨hdotted, rfl⟩⟩
    rw [wrapSegments_of_not_dotted hdotted, List.append_nil]

/-- An identifier begins with the first of its segments. -/
lemma beginsWithSegment_wrapIdentifier (hdot : n.quote ≠ '.') (hblank : n.quote ≠ ' ')
    (start aliasStart value : String) :
    n.BeginsWithSegment ('.' ∉ value.toList ∧ hasAlias value = false) value
      (n.wrapIdentifier start aliasStart value) := by
  cases halias : hasAlias value with
  | false =>
    obtain ⟨segment, rest, hsql, hrest, hwhole⟩ :=
      beginsWithSegment_wrapSegments hdot start value
    rw [wrapIdentifier_of_not_hasAlias halias]
    refine ⟨segment, rest, hsql, hrest, fun hnil => ?_⟩
    obtain ⟨hplain, heq⟩ := hwhole hnil
    exact ⟨⟨hplain, rfl⟩, heq⟩
  | true =>
    obtain ⟨left, word, right, -, hwritten⟩ :=
      wrapIdentifier_of_hasAlias (n := n) halias start aliasStart
    obtain ⟨segment, rest, hsql, hrest, -⟩ :=
      beginsWithSegment_wrapSegments hdot start (Text.trim left)
    have hword : " AS ".toList = [' ', 'A', 'S', ' '] := by decide
    refine ⟨segment, rest ++ (' ' :: (['A', 'S', ' '] ++
      (n.wrapValue (aliasStart ++ Text.trim right)).toList)), ?_, ?_, fun hnil => ?_⟩
    · rw [hwritten, String.toList_append, String.toList_append, hsql, hword]
      simp
    · cases rest with
      | nil =>
        rw [List.nil_append, List.head?_cons, ne_eq, Option.some.injEq]
        exact hblank.symm
      | cons c rest => exact hrest
    · exact absurd (List.append_eq_nil_iff.mp hnil).2 (List.cons_ne_nil _ _)

/-- A table is written as one quoted identifier that is read as its prefixed name exactly if that
name has no dot and no alias and is not the star. -/
theorem isQuotedName_wrapTable_iff (hstar : n.quote ≠ '*') (hdot : n.quote ≠ '.')
    (hblank : n.quote ≠ ' ') (table : String) :
    IsQuotedName n.quote (n.wrapTable table) (n.tablePrefix ++ table) ↔
      '.' ∉ (n.tablePrefix ++ table).toList ∧ hasAlias (n.tablePrefix ++ table) = false ∧
        n.tablePrefix ++ table ≠ "*" := by
  unfold IsQuotedName wrapTable
  constructor
  · intro hread
    obtain ⟨segment, rest, hsql, hrest, hwhole⟩ :=
      beginsWithSegment_wrapIdentifier hdot hblank "" n.tablePrefix (n.tablePrefix ++ table)
    rw [hsql, read_wrapValue hstar segment hrest] at hread
    split at hread
    · cases hread
    · rename_i hne
      rw [Option.some.injEq, Prod.mk.injEq] at hread
      obtain ⟨⟨hplain, halias⟩, hsegment⟩ := hwhole hread.2
      rw [hsegment] at hne
      exact ⟨hplain, halias, hne⟩
  · rintro ⟨hplain, halias, hne⟩
    have hend : ([] : List Char).head? ≠ some n.quote := (Option.some_ne_none _).symm
    have hread := read_wrapValue hstar (n.tablePrefix ++ table) hend
    rw [if_neg hne, List.append_nil] at hread
    rw [wrapIdentifier_of_not_hasAlias halias, wrapSegments_of_not_dotted hplain]
    exact hread

end Naming

/-! ## Questions -/

namespace ChangeQueue

variable {σ α : Type} {c : Connection σ} {q : ChangeQueue} {sql table : String}

/-- An action asks a single question.  It fails if the question is rejected, and otherwise only the
rows of the answer decide about its value. -/
def Asks (c : Connection σ) (sql : String) (bindings : List Sql.Value)
    (a : Action σ SchemaError α) : Prop :=
  ∃ value : List Sql.Row → α, ∀ s, a s =
    match c.query sql bindings s with
    | (.ok rows, s') => (.ok (value rows), s')
    | (.error e, s') => (.error (.execution sql e), s')

/-- A statement that is sent for its rows is a single question. -/
lemma asks_send (c : Connection σ) (sql : String) (bindings : List Sql.Value)
    (value : List Sql.Row → α) :
    Asks c sql bindings (send c sql bindings >>= fun rows => pure (value rows)) := by
  refine ⟨value, fun s => ?_⟩
  rcases hquery : c.query sql bindings s with ⟨e | rows, s'⟩
  · exact Action.bind_of_error (Action.mapError_of_error hquery)
  · exact Action.bind_of_ok (Action.mapError_of_ok hquery)

/-- Whether there is a table is asked by its prefixed name. -/
lemma asks_hasTable (h : q.grammar.tableExists = .ok sql) :
    Asks c sql [.ofText? c.settings.database, .text (q.grammar.tablePrefix ++ table)]
      (q.hasTable c table) := by
  unfold hasTable
  rw [h, Action.ofExcept_ok_bind]
  exact asks_send c sql _ _

/-- The columns of a table are asked for by its prefixed name. -/
lemma asks_columnListing (h : q.grammar.columnListing = .ok sql) :
    Asks c sql [.ofText? c.settings.database, .text (q.grammar.tablePrefix ++ table)]
      (q.columnListing c table) := by
  unfold columnListing
  rw [h, Action.ofExcept_ok_bind]
  exact asks_send c sql _ _

end ChangeQueue

/-! ## Statements -/

namespace MySql

variable {tablePrefix table sql : String} {stringLength : Nat} {b : Blueprint}
  {settings : Settings} {command : Command}

/-- A statement calls the stored function, and its first argument is read as the name of a table. -/
def PassesTable (table sql : String) : Prop :=
  ∃ arguments rest, sql = "SET @ddl_sql=TRAMP_ALTER_COLUMN(" ++ arguments ∧
    StringLiteral.read '\x27' arguments.toList = some (table.toList, ", ".toList ++ rest)

/-- The table of a change is read back if there is no backslash in its name. -/
lemma passesTable_alterColumnCall (h : '\\' ∉ table.toList) (column : String)
    (arguments : List String) : PassesTable table (alterColumnCall table column arguments) := by
  obtain ⟨behind, hbehind⟩ : ∃ behind, alterColumnCall table column arguments =
      "SET @ddl_sql=TRAMP_ALTER_COLUMN(" ++ (quoteString table ++ (", " ++ behind)) := by
    refine ⟨quoteString column ++ (", " ++ (Text.join ", " arguments ++
      "); PREPARE stmt FROM @ddl_sql; SET @ddl_sql=''; EXECUTE stmt; DROP PREPARE stmt")), ?_⟩
    unfold alterColumnCall
    simp only [String.append_assoc]
  have hcomma : (", ".toList ++ behind.toList).head? ≠ some '\x27' := by
    have hchars : ", ".toList = [',', ' '] := by decide
    rw [hchars]
    simp
  have hread : StringLiteral.readRest '\x27' (Quoted.double '\x27' table.toList ++
      '\x27' :: (", ".toList ++ behind.toList)) =
        some (table.toList, ", ".toList ++ behind.toList) :=
    StringLiteral.readRest_double h hcomma
  refine ⟨_, behind.toList, hbehind, ?_⟩
  have hchars : (quoteString table ++ (", " ++ behind)).toList =
      '\x27' :: (Quoted.double '\x27' table.toList ++
        '\x27' :: (", ".toList ++ behind.toList)) := by
    simp only [String.toList_append, toList_quoteString, Quoted.encode, List.cons_append,
      List.append_assoc, List.nil_append]
  rw [hchars, StringLiteral.read, if_pos rfl]
  exact hread

/-- The words in front of the table in statements that write it as an identifier. -/
def tableWords : List String :=
  ["CREATE TABLE ", "CREATE TEMPORARY TABLE ", "ALTER TABLE ", "DROP TABLE ",
    "DROP TABLE IF EXISTS ", "RENAME TABLE "]

/-- A statement writes a table as an identifier, behind some words. -/
def WritesTable (naming : Naming) (table sql : String) : Prop :=
  ∃ words ∈ tableWords, ∃ rest, sql = words ++ naming.wrapTable table ++ rest

/-- A statement that writes a table goes on to do so when something follows. -/
lemma WritesTable.append {naming : Naming} (h : WritesTable naming table sql) (more : String) :
    WritesTable naming table (sql ++ more) := by
  obtain ⟨words, hwords, rest, rfl⟩ := h
  exact ⟨words, hwords, rest ++ more, String.append_assoc⟩

/-- Words and the table behind them write the table. -/
lemma writesTable_words {naming : Naming} {words : String} (h : words ∈ tableWords)
    (table : String) : WritesTable naming table (words ++ naming.wrapTable table) :=
  ⟨words, h, "", String.append_empty.symm⟩

/-- An altered table stands behind its words. -/
lemma writesTable_alterTable (naming : Naming) (b : Blueprint) (change : String) :
    WritesTable naming b.table (alterTable naming b change) :=
  ((writesTable_words (by decide) b.table).append " ").append change

/-- A table that gets an index stands behind its words. -/
lemma writesTable_standaloneIndex {naming : Naming} {index : IndexCommand} {kind : String}
    (h : standaloneIndex naming table index kind = some sql) : WritesTable naming table sql := by
  unfold standaloneIndex at h
  split at h
  · cases h
  · rw [Option.some.injEq] at h
    have hwords : "ALTER TABLE " = "ALTER TABLE" ++ " " := by decide
    have hrow (more : List String) : WritesTable naming table
        (Text.join " " ("ALTER TABLE" :: naming.wrapTable table :: "ADD" :: more)) := by
      have hsql : Text.join " " ("ALTER TABLE" :: naming.wrapTable table :: "ADD" :: more) =
          "ALTER TABLE " ++ naming.wrapTable table ++ (" " ++ Text.join " " ("ADD" :: more)) := by
        simp only [Text.join, hwords, String.append_assoc]
      rw [hsql]
      exact (writesTable_words (by decide) table).append _
    rw [← h]
    unfold addIndex
    simp only [List.append_assoc, List.cons_append]
    exact hrow _

/-- Apart from changes of columns, every command writes the table as an identifier. -/
theorem writesTable_of_compile (hchange : command ≠ .change)
    (hrename : ∀ oldName newName, command ≠ .renameColumn oldName newName)
    (h : (Grammar.mysql tablePrefix stringLength).compileCommand b command settings =
      .ok (some sql)) : WritesTable (naming tablePrefix) b.table sql := by
  cases command with
  | create =>
    obtain ⟨definitions, -, hsql⟩ := compile_create h
    rw [Option.some.injEq] at hsql
    rw [hsql]
    have hhead : WritesTable (naming tablePrefix) b.table (createHead tablePrefix b) := by
      cases htemporary : b.temporary with
      | true =>
        have hwords : "CREATE TEMPORARY" ++ " TABLE " = "CREATE TEMPORARY TABLE " := by decide
        rw [createHead, htemporary, if_pos rfl, hwords]
        exact (writesTable_words (by decide) b.table).append " "
      | false =>
        have hwords : "CREATE" ++ " TABLE " = "CREATE TABLE " := by decide
        rw [createHead, htemporary, if_neg Bool.false_ne_true, hwords]
        exact (writesTable_words (by decide) b.table).append " "
    exact (((hhead.append "(").append _).append ")").append _
  | add =>
    obtain ⟨definitions, -, ⟨-, hnone⟩ | ⟨-, hsql⟩⟩ := compile_add h
    · cases hnone
    · rw [Option.some.injEq] at hsql
      rw [hsql]
      exact writesTable_alterTable _ b _
  | change => exact absurd rfl hchange
  | renameColumn oldName newName => exact absurd rfl (hrename oldName newName)
  | drop =>
    cases h
    exact writesTable_words (by decide) b.table
  | dropIfExists =>
    cases h
    exact writesTable_words (by decide) b.table
  | rename newName =>
    cases h
    exact ((writesTable_words (by decide) b.table).append " TO ").append _
  | primary index => exact writesTable_standaloneIndex (Except.ok.inj h)
  | unique index => exact writesTable_standaloneIndex (Except.ok.inj h)
  | index index => exact writesTable_standaloneIndex (Except.ok.inj h)
  | foreign key =>
    cases h
    unfold Naming.addForeignKey
    iterate 11 refine WritesTable.append ?_ _
    exact writesTable_words (by decide) b.table
  -- The other commands put their change behind the altered table.
  | _ =>
    cases h
    exact writesTable_alterTable _ b _

/-- How the text of a command spells a table.  The changes of columns call the stored function once
for every column, and a change of a name calls it once; a backslash in the name of the table may
hide where the name ends.  Any other text writes the table as an identifier. -/
def SpellsTable (tablePrefix table : String) (changed : List Column) (sql : String) :
    Command → Prop
  | .change => '\\' ∉ (tablePrefix ++ table).toList →
    ∃ calls, sql = Text.join ";\n\n" calls ∧
      List.Forall₂ (fun _ call => PassesTable (tablePrefix ++ table) call) changed calls
  | .renameColumn _ _ => '\\' ∉ (tablePrefix ++ table).toList →
    PassesTable (tablePrefix ++ table) sql
  | _ => WritesTable (naming tablePrefix) table sql

/-- The changes of columns pass the table on, and so does a change of a name; all other commands
write it. -/
lemma spellsTable_of_compile
    (h : (Grammar.mysql tablePrefix stringLength).compileCommand b command settings =
      .ok (some sql)) : SpellsTable tablePrefix b.table b.changedColumns sql command := by
  cases command with
  | change =>
    intro hbackslash
    obtain ⟨calls, hcalls, ⟨-, hnone⟩ | ⟨-, hsql⟩⟩ := compile_change h
    · cases hnone
    · refine ⟨calls, Option.some.inj hsql, hcalls.imp fun column call hcall => ?_⟩
      obtain ⟨texts, -, rfl⟩ := changeColumn_eq_ok hcall
      exact passesTable_alterColumnCall hbackslash _ _
  | renameColumn oldName newName =>
    intro hbackslash
    cases h
    exact passesTable_alterColumnCall hbackslash _ _
  | _ => exact writesTable_of_compile Command.noConfusion (fun _ _ => Command.noConfusion) h

/-- The name of a table with its prefix is what questions about the table bind, whatever the name
is, and what the calls of the stored function are read as, if the name has no backslash.  All other
statements write the table as an identifier, which is one quoted text that is read as that name
exactly if the name has no dot and no alias and is not the star. -/
theorem table_spellings {q : ChangeQueue} (hq : q.grammar = Grammar.mysql tablePrefix stringLength)
    (table : String) :
    (∀ {σ : Type} (c : Connection σ), ∃ existence listing,
      ChangeQueue.Asks c existence [.ofText? c.settings.database, .text (tablePrefix ++ table)]
        (q.hasTable c table) ∧
      ChangeQueue.Asks c listing [.ofText? c.settings.database, .text (tablePrefix ++ table)]
        (q.columnListing c table)) ∧
    (∀ (b : Blueprint) (command : Command) (settings : Settings) (sql : String), b.table = table →
      q.grammar.compileCommand b command settings = .ok (some sql) →
        SpellsTable tablePrefix table b.changedColumns sql command) ∧
    (Naming.IsQuotedName '\x60' ((naming tablePrefix).wrapTable table) (tablePrefix ++ table) ↔
      '.' ∉ (tablePrefix ++ table).toList ∧ Naming.hasAlias (tablePrefix ++ table) = false ∧
        tablePrefix ++ table ≠ "*") := by
  have hprefix : q.grammar.tablePrefix = tablePrefix := by
    rw [hq]
    rfl
  refine ⟨fun c => ?_, ?_, ?_⟩
  · obtain ⟨existence, hexistence⟩ : ∃ sql, q.grammar.tableExists = .ok sql := by
      rw [hq]
      exact ⟨_, rfl⟩
    obtain ⟨listing, hlisting⟩ : ∃ sql, q.grammar.columnListing = .ok sql := by
      rw [hq]
      exact ⟨_, rfl⟩
    rw [← hprefix]
    exact ⟨existence, listing, ChangeQueue.asks_hasTable hexistence,
      ChangeQueue.asks_columnListing hlisting⟩
  · rintro b command settings sql rfl h
    rw [hq] at h
    exact spellsTable_of_compile h
  · have hquote : (naming tablePrefix).quote = '\x60' := rfl
    have hstar : (naming tablePrefix).quote ≠ '*' := by
      rw [hquote]
      decide
    have hdot : (naming tablePrefix).quote ≠ '.' := by
      rw [hquote]
      decide
    have hblank : (naming tablePrefix).quote ≠ ' ' := by
      rw [hquote]
      decide
    exact Naming.isQuotedName_wrapTable_iff hstar hdot hblank table

/-- A table with an apostrophe in its name is spelled as its prefixed name by the call that changes
the name of a column and by its identifier, while a dotted name is taken apart. -/
theorem table_spellings_of_apostrophe :
    PassesTable "app_it\x27s" (renameColumn "app_it\x27s" "a" "b") ∧
      Naming.IsQuotedName '\x60' ((naming "app_").wrapTable "it\x27s") ("app_" ++ "it\x27s") ∧
      ¬ Naming.IsQuotedName '\x60' ((naming "app_").wrapTable "a.b") ("app_" ++ "a.b") := by
  have hq : (ChangeQueue.empty (Grammar.mysql "app_" 255) Settings.empty).grammar =
      Grammar.mysql "app_" 255 := rfl
  refine ⟨?_, ?_, ?_⟩
  · exact (table_spellings hq "it\x27s").2.1 (Blueprint.ofTable "it\x27s")
      (.renameColumn "a" "b") Settings.empty _ rfl rfl (by decide)
  · exact (table_spellings hq "it\x27s").2.2.mpr (by decide)
  · intro hread
    exact absurd ((table_spellings hq "a.b").2.2.mp hread).1 (by decide)

end MySql

end SchemaLedger
