import SchemaLedger.Proofs.Grammar.ColumnChange
import SchemaLedger.Proofs.Grammar.Compilation
import SchemaLedger.Proofs.Sql.Reading
import SchemaLedger.Proofs.Sql.StringLiteral

/-!
# The shape of column changes

The change of a column is five statements: a call of the stored function with ten arguments, and
four statements that prepare its result, execute it and clean up.  Names, types and texts of
modifiers stand in the arguments as literals, and no character of them leaves its literal: a reader
that knows only strings finds the ten arguments and the five statements again
(`callsFunction_callStatements`).  So the compiled changes of a blueprint are read as five
statements for every changed column, in the order of the columns (`columnChanges_keep_shape`).
-/

namespace SchemaLedger.MySql

open Sql

variable {stops : List Char}

/-! ## Arguments -/

/-- A backslash in a literal takes the character behind it along. -/
lemma pass?_pair (depth : Nat) (d : Char) (cs : List Char) :
    Reading.strings.pass? stops (.inside '"' depth) ('\\' :: d :: cs) =
      Reading.strings.pass? stops (.inside '"' depth) cs := by
  simp [Reading.pass?, Reading.step, Reading.strings, Place.top]

/-- A character of a literal that is neither its quote nor a backslash does not lead out of it. -/
lemma pass?_plain {c : Char} (hquote : c ≠ '"') (hbackslash : c ≠ '\\') (depth : Nat)
    (cs : List Char) :
    Reading.strings.pass? stops (.inside '"' depth) (c :: cs) =
      Reading.strings.pass? stops (.inside '"' depth) cs := by
  simp [Reading.pass?, Reading.step, Reading.strings, Place.top, hquote, hbackslash]

/-- The written form of a character does not lead out of the literal that holds it. -/
lemma pass?_escapeChar (depth : Nat) (c : Char) :
    Reading.strings.pass? stops (.inside '"' depth) (Json.escapeChar c) =
      some (.inside '"' depth) := by
  unfold Json.escapeChar
  split_ifs with hquote hbackslash
  -- The seven pairs of a backslash and a letter.
  iterate 7 exact pass?_pair depth _ []
  · have hhigh := StringLiteral.hexDigit_plain (c.toNat / 16)
    have hlow := StringLiteral.hexDigit_plain c.toNat
    rw [pass?_pair, pass?_plain (by decide) (by decide), pass?_plain (by decide) (by decide),
      pass?_plain hhigh.1 hhigh.2, pass?_plain hlow.1 hlow.2]
    rfl
  · exact pass?_plain hquote hbackslash depth []

/-- The characters of a written string do not lead out of the literal that holds it. -/
lemma pass?_escape (depth : Nat) (cs : List Char) :
    Reading.strings.pass? stops (.inside '"' depth) (Json.escape cs) =
      some (.inside '"' depth) := by
  induction cs with
  | nil => rfl
  | cons c cs ih =>
    rw [Json.escape_cons, Reading.pass?_append, pass?_escapeChar]
    exact ih

/-- A written string passes as a whole. -/
lemma passes_quote (hstops : '"' ∉ stops) (s : String) :
    Reading.strings.Passes stops (Json.quote s) := by
  rw [Reading.Passes, Json.toList_quote, Reading.pass?, if_neg fun h => hstops h.2]
  have hopen : Reading.strings.step .top '"' = .inside '"' 0 := rfl
  rw [hopen, Reading.pass?_append, pass?_escape]
  rfl

/-- The characters at which changes are taken apart. -/
def callMarks : List Char := [';', ',']

/-- An argument is left whole. -/
lemma passes_nameArgument (text : Option String) :
    Reading.strings.Passes callMarks (nameArgument text) := by
  cases text with
  | none => decide
  | some s => exact passes_quote (by decide) s

lemma isFlush_nameArgument (text : Option String) : Text.isFlush (nameArgument text) = true := by
  cases text with
  | none => decide
  | some s =>
    have hquote : Text.isBlank '"' = false := by decide
    simp [nameArgument, Text.isFlush, hquote]

/-- A name without backslashes is left whole. -/
lemma passes_tableLiteral {name : String} (h : '\\' ∉ name.toList) :
    Reading.strings.Passes callMarks (quoteString name) :=
  .encode (by decide) (by decide) (.inr h)

lemma isFlush_tableLiteral (name : String) : Text.isFlush (quoteString name) = true := by
  have hquote : Text.isBlank '\x27' = false := by decide
  simp [Text.isFlush, Quoted.encode, hquote]

/-- An argument is the word `NULL` or one complete literal. -/
lemma nameArgument_cases (text : Option String) :
    nameArgument text = "NULL" ∨ (StringLiteral.value? '"' (nameArgument text)).isSome = true := by
  cases text with
  | none => exact .inl rfl
  | some s =>
    right
    rw [nameArgument, StringLiteral.value?_quote]
    rfl

/-! ## Calls -/

/-- The statements of a change behind its first one. -/
def callEnding : List String :=
  ["PREPARE stmt FROM @ddl_sql", "SET @ddl_sql=''", "EXECUTE stmt", "DROP PREPARE stmt"]

/-- Statements call the stored function for a column of a table: the first one does so with ten
arguments, of which two name the table and the column between single quotes and the others are the
word `NULL` or one literal between double quotes each. -/
def CallsFunction (table column : String) (statements : List String) : Prop :=
  ∃ arguments first second others,
    statements = ("SET @ddl_sql=TRAMP_ALTER_COLUMN(" ++ arguments ++ ")") :: callEnding ∧
    Reading.strings.items ',' arguments = first :: second :: others ∧
    StringLiteral.value? '\x27' first = some table ∧
    StringLiteral.value? '\x27' second = some column ∧
    others.length = 8 ∧
    ∀ argument ∈ others,
      argument = "NULL" ∨ (StringLiteral.value? '"' argument).isSome = true

/-- A change of one column asks for the five statements of a call. -/
lemma CallsFunction.length_eq {table column : String} {statements : List String}
    (h : CallsFunction table column statements) : statements.length = 5 := by
  obtain ⟨arguments, first, second, others, rfl, -⟩ := h
  rfl

/-- The row of arguments of a change. -/
def argumentRow (table column : String) (texts : List (Option String)) : List String :=
  quoteString table :: quoteString column :: texts.map nameArgument

/-- The statements of a change. -/
def callStatements (table column : String) (texts : List (Option String)) : List String :=
  ("SET @ddl_sql=TRAMP_ALTER_COLUMN(" ++ Text.join ", " (argumentRow table column texts) ++ ")") ::
    callEnding

/-- A change is its statements in a row. -/
lemma alterColumnCall_eq_join {table column : String} {texts : List (Option String)}
    (hne : texts ≠ []) :
    alterColumnCall table column (texts.map nameArgument) =
      Text.join "; " (callStatements table column texts) := by
  cases texts with
  | nil => exact absurd rfl hne
  | cons text texts =>
    have hending :
        "); PREPARE stmt FROM @ddl_sql; SET @ddl_sql=''; EXECUTE stmt; DROP PREPARE stmt" =
          ")" ++ ("; " ++ Text.join "; " callEnding) := by decide +kernel
    calc
      _ = "SET @ddl_sql=TRAMP_ALTER_COLUMN(" ++ quoteString table ++ ", " ++ quoteString column ++
            ", " ++ Text.join ", " ((text :: texts).map nameArgument) ++
              (")" ++ ("; " ++ Text.join "; " callEnding)) := congrArg (_ ++ ·) hending
      _ = "SET @ddl_sql=TRAMP_ALTER_COLUMN(" ++ (quoteString table ++ ", " ++
            (quoteString column ++ ", " ++ Text.join ", " ((text :: texts).map nameArgument))) ++
              ")" ++ "; " ++ Text.join "; " callEnding := by simp only [String.append_assoc]

variable {table column : String} {texts : List (Option String)}

lemma passes_argumentRow (htable : '\\' ∉ table.toList) (hcolumn : '\\' ∉ column.toList) :
    ∀ argument ∈ argumentRow table column texts,
      Reading.strings.Passes callMarks argument := by
  intro argument hargument
  rcases List.mem_cons.mp hargument with rfl | hargument
  · exact passes_tableLiteral htable
  rcases List.mem_cons.mp hargument with rfl | hargument
  · exact passes_tableLiteral hcolumn
  · obtain ⟨text, -, rfl⟩ := List.mem_map.mp hargument
    exact passes_nameArgument text

/-- The statements of a change are left whole where semicolons separate. -/
lemma isItem_callStatements (htable : '\\' ∉ table.toList) (hcolumn : '\\' ∉ column.toList) :
    ∀ statement ∈ callStatements table column texts, Reading.strings.IsItem ';' statement := by
  have hrow : Reading.strings.Passes [';'] (Text.join ", " (argumentRow table column texts)) :=
    .join (by decide) fun argument hargument =>
      (passes_argumentRow htable hcolumn argument hargument).mono (by decide)
  have hending : ∀ statement ∈ callEnding, Reading.strings.IsItem ';' statement := by
    simp only [callEnding, List.forall_mem_cons]
    exact ⟨⟨by decide, by decide⟩, ⟨by decide, by decide⟩, ⟨by decide, by decide⟩,
      ⟨by decide, by decide⟩, List.forall_mem_nil _⟩
  intro statement hstatement
  rcases List.mem_cons.mp hstatement with rfl | hstatement
  · have hopen : Reading.strings.Passes [';'] "SET @ddl_sql=TRAMP_ALTER_COLUMN(" := by decide
    have hflush : Text.isFlush "SET @ddl_sql=TRAMP_ALTER_COLUMN(" = true := by decide
    have hclose : Reading.strings.Passes [';'] ")" := by decide
    exact ⟨(hopen.append hrow).append hclose,
      Text.isFlush_append (Text.isFlush_append hflush _) _⟩
  · exact hending statement hstatement

/-- The arguments of a change are found again. -/
lemma items_argumentRow (htable : '\\' ∉ table.toList) (hcolumn : '\\' ∉ column.toList) :
    Reading.strings.items ',' (Text.join ", " (argumentRow table column texts)) =
      argumentRow table column texts := by
  refine Reading.items_join (by decide) fun argument hargument => ⟨?_, ?_⟩
  · exact (passes_argumentRow htable hcolumn argument hargument).mono (by decide)
  · rcases List.mem_cons.mp hargument with rfl | hargument
    · exact isFlush_tableLiteral _
    rcases List.mem_cons.mp hargument with rfl | hargument
    · exact isFlush_tableLiteral _
    · obtain ⟨text, -, rfl⟩ := List.mem_map.mp hargument
      exact isFlush_nameArgument text

/-- The statements of a change with eight texts call the stored function for its column. -/
lemma callsFunction_callStatements (htable : '\\' ∉ table.toList)
    (hcolumn : '\\' ∉ column.toList) (hlength : texts.length = 8) :
    CallsFunction table column (callStatements table column texts) := by
  refine ⟨_, quoteString table, quoteString column, texts.map nameArgument, rfl,
    items_argumentRow htable hcolumn, StringLiteral.value?_quoteString htable,
    StringLiteral.value?_quoteString hcolumn, ?_, ?_⟩
  · rw [List.length_map, hlength]
  · intro argument hargument
    obtain ⟨text, -, rfl⟩ := List.mem_map.mp hargument
    exact nameArgument_cases text

/-- The texts of a change of nothing but the name. -/
def renameTexts (newName : String) : List (Option String) :=
  [some newName, none, none, none, none, none, none, none]

/-- A change of a name is its statements in a row. -/
lemma renameColumn_eq_join (newName : String) :
    renameColumn table column newName =
      Text.join "; " (callStatements table column (renameTexts newName)) := by
  have harguments : renameColumn table column newName =
      alterColumnCall table column ((renameTexts newName).map nameArgument) := rfl
  have hne : renameTexts newName ≠ [] := List.cons_ne_nil _ _
  rw [harguments, alterColumnCall_eq_join hne]

/-! ## Changes of a blueprint -/

variable {tablePrefix : String} {stringLength : Nat} {b : Blueprint} {settings : Settings}

/-- The change of a column is the statements of a call in a row. -/
lemma changeColumn_eq_join {column : Column} {block : String}
    (h : changeColumn (columnWriter tablePrefix stringLength) table column = .ok block) :
    ∃ texts : List (Option String), texts.length = 8 ∧
      block = Text.join "; " (callStatements table column.name texts) := by
  obtain ⟨texts, -, rfl⟩ := changeColumn_eq_ok h
  have hne : changeTexts stringLength column texts ≠ [] := List.cons_ne_nil _ _
  exact ⟨changeTexts stringLength column texts, rfl, alterColumnCall_eq_join hne⟩

/-- Changes of columns are the statements of their calls in a row: those of every column call the
stored function for it, and they are left whole where semicolons separate. -/
lemma callsFunction_of_changeColumns {columns : List Column} {blocks : List String}
    (htable : '\\' ∉ table.toList) (hcolumns : ∀ column ∈ columns, '\\' ∉ column.name.toList)
    (h : List.Forall₂ (fun column block =>
      changeColumn (columnWriter tablePrefix stringLength) table column = .ok block)
        columns blocks) :
    ∃ groups : List (List String), blocks = groups.map (Text.join "; ") ∧
      List.Forall₂ (fun column => CallsFunction table column.name) columns groups ∧
      ∀ group ∈ groups,
        group ≠ [] ∧ ∀ statement ∈ group, Reading.strings.IsItem ';' statement := by
  induction h with
  | nil => exact ⟨[], rfl, .nil, List.forall_mem_nil _⟩
  | cons hblock _ ih =>
    rw [List.forall_mem_cons] at hcolumns
    obtain ⟨hcolumn, hcolumns⟩ := hcolumns
    obtain ⟨groups, rfl, hcalls, hitems⟩ := ih hcolumns
    obtain ⟨texts, hlength, rfl⟩ := changeColumn_eq_join hblock
    refine ⟨callStatements table _ texts :: groups, rfl,
      .cons (callsFunction_callStatements htable hcolumn hlength) hcalls, ?_⟩
    rw [List.forall_mem_cons]
    exact ⟨⟨List.cons_ne_nil _ _, isItem_callStatements htable hcolumn⟩, hitems⟩

/-- Groups of five statements are five times as many statements. -/
lemma length_flatten_of_callsFunction {columns : List Column} {groups : List (List String)}
    (h : List.Forall₂ (fun column => CallsFunction table column.name) columns groups) :
    groups.flatten.length = 5 * columns.length := by
  induction h with
  | nil => rfl
  | cons hgroup _ ih =>
    rw [List.flatten_cons, List.length_append, hgroup.length_eq, ih, List.length_cons]
    omega

/-- Whatever the new names, types and modifiers are, a reader of strings finds five statements for
every changed column in the compiled changes of a blueprint, and five in a change of the name of a
column; each five call the stored function for their column of the prefixed table.  Only the table,
its prefix and the present names of columns must be free of backslashes. -/
theorem columnChanges_keep_shape (hstart : '\\' ∉ tablePrefix.toList)
    (htable : '\\' ∉ b.table.toList) :
    ((∀ column ∈ b.changedColumns, '\\' ∉ column.name.toList) → ∀ result,
      (Grammar.mysql tablePrefix stringLength).compileCommand b .change settings = .ok result →
        (result = none ↔ b.changedColumns = []) ∧
        ∀ sql, result = some sql →
          (Reading.strings.items ';' sql).length = 5 * b.changedColumns.length ∧
          ∃ groups : List (List String), Reading.strings.items ';' sql = groups.flatten ∧
            List.Forall₂ (fun column => CallsFunction (tablePrefix ++ b.table) column.name)
              b.changedColumns groups) ∧
    ∀ oldName newName : String, '\\' ∉ oldName.toList →
      ∃ sql, (Grammar.mysql tablePrefix stringLength).compileCommand b
          (.renameColumn oldName newName) settings = .ok (some sql) ∧
        (Reading.strings.items ';' sql).length = 5 ∧
        CallsFunction (tablePrefix ++ b.table) oldName (Reading.strings.items ';' sql) := by
  have hname : '\\' ∉ (tablePrefix ++ b.table).toList := by
    rw [String.toList_append, List.mem_append]
    exact not_or.mpr ⟨hstart, htable⟩
  constructor
  · intro hcolumns result hresult
    obtain ⟨blocks, hblocks, hresult⟩ := compile_change hresult
    obtain ⟨groups, rfl, hcalls, hitems⟩ :=
      callsFunction_of_changeColumns hname hcolumns hblocks
    rcases hresult with ⟨hnil, rfl⟩ | ⟨hne, rfl⟩
    · exact ⟨⟨fun _ => hnil, fun _ => rfl⟩, fun sql hsql => (nomatch hsql)⟩
    · refine ⟨⟨fun hnone => (nomatch hnone), fun hnil => absurd hnil hne⟩, ?_⟩
      rintro sql ⟨⟩
      rw [Reading.items_join_join (by decide) (by decide)
        (fun group hgroup => (hitems group hgroup).1) fun group hgroup => (hitems group hgroup).2]
      exact ⟨length_flatten_of_callsFunction hcalls, groups, rfl, hcalls⟩
  · intro oldName newName hold
    have hitems : Reading.strings.items ';'
        (renameColumn (tablePrefix ++ b.table) oldName newName) =
          callStatements (tablePrefix ++ b.table) oldName (renameTexts newName) := by
      rw [renameColumn_eq_join, Reading.items_join (by decide) (isItem_callStatements hname hold)]
    have hcalls : CallsFunction (tablePrefix ++ b.table) oldName
        (Reading.strings.items ';' (renameColumn (tablePrefix ++ b.table) oldName newName)) := by
      rw [hitems]
      exact callsFunction_callStatements hname hold rfl
    exact ⟨_, rfl, hcalls.length_eq, hcalls⟩

/-- A blueprint whose changes are full of quotes, backslashes, commas and semicolons. -/
def hostileSample : Blueprint :=
  { Blueprint.ofTable "it's" with
    columns :=
      [{ Column.ofType "a;b" .integer with change := some true, renameTo := some "\"; \\" },
        { Column.ofType "c" (.enumeration ["x', 'y", "\""]) with
          change := some true
          comment := some "one; two, \"three\" \\" }] }

/-- Its two changes are read as ten statements, and a change of a name in it as five. -/
theorem columnChanges_keep_shape_hostile :
    ('\\' ∉ "p;".toList ∧ '\\' ∉ hostileSample.table.toList ∧
      ∀ column ∈ hostileSample.changedColumns, '\\' ∉ column.name.toList) ∧
    (∃ sql, (Grammar.mysql "p;" defaultStringLength).compileCommand hostileSample .change
        Settings.empty = .ok (some sql) ∧ (Reading.strings.items ';' sql).length = 10) ∧
    ∃ sql, (Grammar.mysql "p;" defaultStringLength).compileCommand hostileSample
        (.renameColumn "d'" "\\\";") Settings.empty = .ok (some sql) ∧
      (Reading.strings.items ';' sql).length = 5 := by
  have hnames : ∀ column ∈ hostileSample.changedColumns, '\\' ∉ column.name.toList := by decide
  obtain ⟨hchanges, hrenames⟩ := @columnChanges_keep_shape "p;" defaultStringLength hostileSample
    Settings.empty (by decide) (by decide)
  refine ⟨⟨by decide, by decide, hnames⟩, ?_, ?_⟩
  · obtain ⟨-, hshape⟩ := hchanges hnames _ rfl
    exact ⟨_, rfl, (hshape _ rfl).1⟩
  · obtain ⟨sql, hsql, hlength, -⟩ := hrenames "d'" "\\\";" (by decide)
    exact ⟨sql, hsql, hlength⟩

end SchemaLedger.MySql
