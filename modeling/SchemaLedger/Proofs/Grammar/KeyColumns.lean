import SchemaLedger.Proofs.Grammar.ColumnLists
import SchemaLedger.Proofs.Grammar.CommandStatements
import SchemaLedger.Proofs.Grammar.ModifierTexts
import SchemaLedger.Proofs.Grammar.StatementEnds

/-!
# Columns that keys name

A key that a column asks for names that column, by the name under which the column was given.  Two
consequences are worth knowing.

In the creation of a table every column that asks for a key has one, also a column that is to be
changed and is therefore not defined there.  So the keys name columns of the created table exactly
if every changed column that asks for a key shares its name with an added one (`createdKeys`).

On an existing table the keys come behind the changes of columns.  A column that gets another name
by its change is still named by the present one, so that only the key of a column that keeps its
name names it as it is called then (`alteredKeys`).
-/

namespace SchemaLedger

/-- The words for the key of a role in the statement that adds it. -/
def KeyRole.words : KeyRole → String
  | .primary => "PRIMARY KEY"
  | .unique => "UNIQUE"
  | .index => "INDEX"

/-- The name of a column once it has been changed, if it is to be changed. -/
def Column.nameAfterChange (column : Column) : String :=
  if column.isChange then column.renameTo.getD column.name else column.name

/-- The name of the key of a role on a column: that of its flag, or else the derived one. -/
def Blueprint.keyName (b : Blueprint) (column : Column) (role : KeyRole) : String :=
  ((column.flag role).bind IndexFlag.name?).getD (b.indexName role.indexRole [column.name])

namespace MySql

open Text

variable {tablePrefix sql : String} {stringLength : Nat} {b : Blueprint} {settings : Settings}
  {column : Column} {role : KeyRole}

/-- A text defines a column: the name of the column is in front. -/
def Defines (naming : Naming) (sql name : String) : Prop :=
  ∃ rest, sql = naming.wrap name ++ " " ++ rest

/-- A text is a key over one column: the name of the column stands between parentheses at its
end. -/
def ListsColumn (naming : Naming) (sql name : String) : Prop :=
  ∃ front, sql = front ++ "(" ++ naming.wrap name ++ ")"

/-- The text that adds a key over one column to a table. -/
def keyText (naming : Naming) (table : String) (role : KeyRole) (index name : String) : String :=
  "ALTER TABLE " ++ naming.wrapTable table ++ " ADD " ++ role.words ++ " " ++ naming.wrap index ++
    " (" ++ naming.wrap name ++ ")"

/-! ## Creating tables -/

/-- A definition begins with the name of its column. -/
lemma defines_definition (h : (columnWriter tablePrefix stringLength).definition column = .ok sql) :
    Defines (naming tablePrefix) sql column.name := by
  obtain ⟨rest, hrest, -⟩ := Modifier.exists_rest h
  exact ⟨typeText stringLength column.type ++ rest, hrest.trans String.append_assoc⟩

/-- A key inside the creation of a table ends in the name of its column. -/
lemma listsColumn_inlineIndex
    (h : inlineIndex (naming tablePrefix) (b.keyCommand column role) = some sql) :
    ListsColumn (naming tablePrefix) sql column.name := by
  have hcolumns : (naming tablePrefix).columnList [column.name] =
      (naming tablePrefix).wrap column.name := rfl
  have hopening : " (" = " " ++ "(" := by decide
  have hprimary : "PRIMARY KEY (" = "PRIMARY KEY " ++ "(" := by decide
  cases role with
  | primary =>
    simp only [Blueprint.keyCommand, KeyRole.command, inlineIndex, hcolumns, hprimary,
      Option.ite_none_right_eq_some, Option.some.injEq] at h
    exact ⟨_, h.2.symm⟩
  | unique =>
    simp only [Blueprint.keyCommand, KeyRole.command, inlineIndex, hcolumns, hopening,
      Option.ite_none_right_eq_some, Option.some.injEq, ← String.append_assoc] at h
    exact ⟨_, h.2.symm⟩
  | index =>
    simp only [Blueprint.keyCommand, KeyRole.command, inlineIndex, hcolumns, hopening,
      Option.ite_none_right_eq_some, Option.some.injEq, ← String.append_assoc] at h
    exact ⟨_, h.2.symm⟩

/-- The body of a created table holds the definition of every added column and then one key for
every column that asks for one, added or changed, which names that column.  So the keys name columns
that are defined there exactly if every changed column that asks for a key shares its name with an
added one. -/
theorem createdKeys {result : Option String} (hcreating : b.isCreating = true)
    (h : (Grammar.mysql tablePrefix stringLength).compileCommand b .create settings =
      .ok result) :
    ∃ definitions keys properties,
      result = some (createHead tablePrefix b ++ "(" ++ join ", " (definitions ++ keys) ++ ")" ++
        properties) ∧
      List.Forall₂ (fun column sql =>
        (columnWriter tablePrefix stringLength).definition column = .ok sql ∧
          Defines (naming tablePrefix) sql column.name) b.addedColumns definitions ∧
      List.Forall₂ (fun column sql => ∃ role, column.keyRole? = some role ∧
        inlineIndex (naming tablePrefix) (b.keyCommand column role) = some sql ∧
          ListsColumn (naming tablePrefix) sql column.name)
        (b.columns.filter Column.asksForKey) keys ∧
      ((∀ keyed ∈ b.columns.filter Column.asksForKey,
          ∃ defined ∈ b.addedColumns, defined.name = keyed.name) ↔
        ∀ changed ∈ b.changedColumns, changed.asksForKey = true →
          ∃ defined ∈ b.addedColumns, defined.name = changed.name) := by
  obtain ⟨definitions, hdefinitions, rfl⟩ := compile_create h
  refine ⟨definitions, _, _, rfl, hdefinitions.imp fun column sql hsql =>
    ⟨hsql, defines_definition hsql⟩, (inlineIndexes_of_asking hcreating).imp ?_, ?_⟩
  · rintro column sql ⟨role, hrole, hsql⟩
    exact ⟨role, hrole, hsql, listsColumn_inlineIndex hsql⟩
  · constructor
    · intro hkeyed changed hchanged hasks
      exact hkeyed changed (List.mem_filter.mpr ⟨(List.mem_filter.mp hchanged).1, hasks⟩)
    · intro hchanged keyed hkeyed
      obtain ⟨hmem, hasks⟩ := List.mem_filter.mp hkeyed
      cases hchange : keyed.isChange with
      | true => exact hchanged keyed (List.mem_filter.mpr ⟨hmem, hchange⟩) hasks
      | false =>
        have hadded : keyed ∈ b.addedColumns :=
          List.mem_filter.mpr ⟨hmem, by rw [hchange, Bool.not_false]⟩
        exact ⟨keyed, hadded, rfl⟩

/-- A table that is created with a column, and with a change of that column which asks for a key. -/
def revisedSample : Blueprint :=
  { Blueprint.ofTable "t" with
    columns :=
      [Column.ofType "c" .integer,
        { Column.ofType "c" .bigInteger with
          change := some true
          unique := some (.enabled true) }]
    commands := [.create] }

/-- Its only key names its only defined column. -/
theorem createdKeys_revised :
    revisedSample.isCreating = true ∧
    (Grammar.mysql "" defaultStringLength).compileCommand revisedSample .create
      Settings.empty = .ok (some
        "CREATE TABLE \x60t\x60 (\x60c\x60 INT, UNIQUE KEY \x60t_c_unique\x60 (\x60c\x60))") ∧
    ∀ keyed ∈ revisedSample.columns.filter Column.asksForKey,
      ∃ defined ∈ revisedSample.addedColumns, defined.name = keyed.name := by
  have hcreating : revisedSample.isCreating = true := by decide
  have h : (Grammar.mysql "" defaultStringLength).compileCommand revisedSample .create
      Settings.empty = .ok (some
        "CREATE TABLE \x60t\x60 (\x60c\x60 INT, UNIQUE KEY \x60t_c_unique\x60 (\x60c\x60))") := by
    decide +kernel
  obtain ⟨-, -, -, -, -, -, hkeys⟩ := createdKeys hcreating h
  exact ⟨hcreating, h, hkeys.mpr (by decide)⟩

/-- A table that is created with one column, and with a change of another which asks for a key. -/
def straySample : Blueprint :=
  { Blueprint.ofTable "t" with
    columns :=
      [Column.ofType "id" .integer,
        { Column.ofType "c" .integer with
          change := some true
          unique := some (.enabled true) }]
    commands := [.create] }

/-- Its only key names a column that the created table does not have. -/
theorem createdKeys_stray :
    straySample.isCreating = true ∧
    (Grammar.mysql "" defaultStringLength).compileCommand straySample .create Settings.empty =
      .ok (some
        "CREATE TABLE \x60t\x60 (\x60id\x60 INT, UNIQUE KEY \x60t_c_unique\x60 (\x60c\x60))") ∧
    ¬ ∀ keyed ∈ straySample.columns.filter Column.asksForKey,
      ∃ defined ∈ straySample.addedColumns, defined.name = keyed.name := by
  decide +kernel

/-! ## Altering tables -/

/-- The words for a key stand between the table and the name of the key, and the columns follow. -/
lemma addIndex_eq_keyText (naming : Naming) (table : String) (role : KeyRole)
    (index name : String) :
    addIndex naming table ⟨index, [name], none, false⟩ role.words =
      keyText naming table role index name := by
  have hwords : role.words.isEmpty = false := by cases role <;> decide
  have hcolumns : naming.columnList [name] = naming.wrap name := rfl
  have halter : "ALTER TABLE " = "ALTER TABLE" ++ " " := by decide
  have hadd : " ADD " = " " ++ "ADD" ++ " " := by decide
  have hopening : " (" = " " ++ "(" := by decide
  unfold addIndex keyText
  simp only [hwords, Bool.false_eq_true, if_false, hcolumns, List.append_nil, List.cons_append,
    List.nil_append, join, halter, hadd, hopening, String.append_assoc]

/-- The text that adds a key which a column asks for. -/
lemma compile_keyCommand {result : Option String} (hcreating : b.isCreating = false)
    (h : (Grammar.mysql tablePrefix stringLength).compileCommand b (b.keyCommand column role)
      settings = .ok result) :
    result = some
      (keyText (naming tablePrefix) b.table role (b.keyName column role) column.name) := by
  have hkey : (Grammar.mysql tablePrefix stringLength).compileCommand b (b.keyCommand column role)
      settings = .ok (standaloneIndex (naming tablePrefix) b.table
        ⟨b.keyName column role, [column.name], none, b.isCreating⟩ role.words) := by
    cases role <;> rfl
  rw [hkey, hcreating, Except.ok.injEq] at h
  rw [← h, ← addIndex_eq_keyText]
  rfl

/-- A text that adds a key is ended as it is. -/
lemma statement?_keyText (naming : Naming) (table index name : String) :
    Blueprint.statement? (keyText naming table role index name) =
      some (keyText naming table role index name ++ ";") := by
  obtain ⟨cs, hchars⟩ : ∃ cs, (keyText naming table role index name).toList =
      'A' :: cs ++ [')'] := by
    refine ⟨("LTER TABLE " ++ naming.wrapTable table ++ " ADD " ++ role.words ++ " " ++
      naming.wrap index ++ " (" ++ naming.wrap name).toList, ?_⟩
    unfold keyText
    simp
  have hlast : ∀ c ∈ (keyText naming table role index name).toList.getLast?, c = ')' := by
    intro c hc
    rw [hchars, List.getLast?_concat, Option.mem_some_iff] at hc
    exact hc.symm
  refine Blueprint.statement?_of_plain ⟨?_, ?_, ?_⟩ ?_
  · rw [hchars]
    exact List.cons_ne_nil _ _
  · intro c hc
    rw [hchars, List.cons_append, List.head?_cons, Option.mem_some_iff] at hc
    rw [← hc]
    decide
  · intro c hc
    rw [hlast c hc]
    decide
  · intro c hc
    rw [hlast c hc]
    decide

/-- The statement of the key that a column asks for. -/
lemma isStatementOf_keyCommand (hcreating : b.isCreating = false)
    (h : b.IsStatementOf (Grammar.mysql tablePrefix stringLength) settings
      (b.keyCommand column role) sql) :
    sql = keyText (naming tablePrefix) b.table role (b.keyName column role) column.name ++ ";" := by
  obtain ⟨text, htext, hsql⟩ := h
  cases compile_keyCommand hcreating htext
  rw [statement?_keyText, Option.some.injEq] at hsql
  exact hsql.symm

/-- On an existing table the keys that columns ask for are added last, one for each of these
columns, and the changes of columns are made first.  A key names its column as the column is given,
which is the name after these changes exactly if the two names are written alike. -/
theorem alteredKeys {statements : List String} (hcreating : b.isCreating = false)
    (h : b.toSql (Grammar.mysql tablePrefix stringLength) settings = .ok statements) :
    ∃ front keys, statements = front ++ keys ∧
      (b.changedColumns ≠ [] → ∃ change rest, front = change :: rest ∧
        b.IsStatementOf (Grammar.mysql tablePrefix stringLength) settings .change change) ∧
      List.Forall₂ (fun column sql => ∃ role, column.keyRole? = some role ∧
        sql = keyText (naming tablePrefix) b.table role (b.keyName column role) column.name ++
          ";" ∧
        (sql = keyText (naming tablePrefix) b.table role (b.keyName column role)
            column.nameAfterChange ++ ";" ↔
          (naming tablePrefix).wrap column.nameAfterChange =
            (naming tablePrefix).wrap column.name))
        (b.columns.filter Column.asksForKey) keys := by
  rw [Blueprint.toSql, Blueprint.resolvedCommands] at h
  obtain ⟨front, keys, rfl, hfront, hkeys⟩ := Blueprint.compileCommands_append h
  have hkeys := Blueprint.statements_of_compileCommands hkeys
  rw [Blueprint.filter_fluentIndexes, if_pos hcreating] at hkeys
  refine ⟨front, keys, rfl, fun hne => ?_, ?_⟩
  · have hchange : b.impliedChange = [.change] := if_pos ⟨hcreating, hne⟩
    rw [Blueprint.impliedCommands_eq, hchange, List.append_assoc] at hfront
    obtain ⟨change, rest, rfl, hfirst, -⟩ := Blueprint.compileCommands_append hfront
    have hfirst := Blueprint.statements_of_compileCommands hfirst
    rw [← hchange, Blueprint.filter_impliedChange, hchange] at hfirst
    cases hfirst with
    | cons hstatement hnil =>
      cases hnil
      exact ⟨_, rest, rfl, hstatement⟩
  · refine (Blueprint.statements_of_fluentIndexes hkeys).imp ?_
    rintro column sql ⟨role, hrole, hstatement⟩
    have hsql := isStatementOf_keyCommand hcreating hstatement
    refine ⟨role, hrole, hsql, ?_⟩
    rw [hsql]
    unfold keyText
    simp only [String.append_left_inj, String.append_right_inj]
    exact eq_comm

/-- A table on which a column that asks for a key is changed but keeps its name, while another one
gets a new name. -/
def keptNameSample : Blueprint :=
  { Blueprint.ofTable "t" with
    columns :=
      [{ Column.ofType "c" .integer with
          change := some true
          unique := some (.enabled true) },
        { Column.ofType "a" .integer with
          change := some true
          renameTo := some "b" }] }

/-- The key on the first column comes behind the changes and names the column as it is called
then. -/
theorem alteredKeys_keptName :
    keptNameSample.isCreating = false ∧
    ∃ change rest, keptNameSample.toSql (Grammar.mysql "" defaultStringLength) Settings.empty =
      .ok (change :: rest ++ ["ALTER TABLE `t` ADD UNIQUE `t_c_unique` (`c`);"]) ∧
      keptNameSample.IsStatementOf (Grammar.mysql "" defaultStringLength) Settings.empty .change
        change := by
  have hcreating : keptNameSample.isCreating = false := by decide
  obtain ⟨statements, h⟩ : ∃ statements,
      keptNameSample.toSql (Grammar.mysql "" defaultStringLength) Settings.empty =
        .ok statements := ⟨_, rfl⟩
  obtain ⟨front, keys, rfl, hfront, hkeys⟩ := alteredKeys hcreating h
  obtain ⟨change, rest, rfl, hchange⟩ := hfront (by decide)
  refine ⟨hcreating, change, rest, ?_, hchange⟩
  have hasking : keptNameSample.columns.filter Column.asksForKey =
      keptNameSample.columns.take 1 := by decide
  rw [hasking] at hkeys
  cases hkeys with
  | cons hkey hnil =>
    cases hnil
    obtain ⟨role, hrole, hsql, -⟩ := hkey
    have hunique : KeyRole.unique = role := Option.some.inj hrole
    subst hunique
    rw [h, hsql]
    have htext : keyText (naming "") "t" .unique "t_c_unique" "c" ++ ";" =
        "ALTER TABLE `t` ADD UNIQUE `t_c_unique` (`c`);" := by decide +kernel
    rw [← htext]
    rfl

/-- A table on which a column that asks for a key gets another name. -/
def renamedSample : Blueprint :=
  { Blueprint.ofTable "t" with
    columns :=
      [{ Column.ofType "c" .integer with
          change := some true
          renameTo := some "d"
          unique := some (.enabled true) }] }

/-- The key comes behind the change to another name and still names the column by the one that it no
longer has. -/
theorem alteredKeys_renamed :
    renamedSample.isCreating = false ∧
    renamedSample.changedColumns.map Column.nameAfterChange = ["d"] ∧
    ∃ change, renamedSample.toSql (Grammar.mysql "" defaultStringLength) Settings.empty =
        .ok (change ++ ["ALTER TABLE `t` ADD UNIQUE `t_c_unique` (`c`);"]) ∧
      List.Forall₂ (renamedSample.IsStatementOf (Grammar.mysql "" defaultStringLength)
        Settings.empty) [.change] change := by
  obtain ⟨statements, h⟩ : ∃ statements,
      renamedSample.toSql (Grammar.mysql "" defaultStringLength) Settings.empty =
        .ok statements := ⟨_, rfl⟩
  have hcommands : renamedSample.resolvedCommands = [.change] ++ renamedSample.fluentIndexes := by
    decide
  rw [Blueprint.toSql, hcommands] at h
  obtain ⟨change, keys, rfl, hchange, hkeys⟩ := Blueprint.compileCommands_append h
  have hkey : Blueprint.compileCommands (Grammar.mysql "" defaultStringLength) Settings.empty
      renamedSample renamedSample.fluentIndexes =
        .ok ["ALTER TABLE `t` ADD UNIQUE `t_c_unique` (`c`);"] := by
    decide +kernel
  rw [hkeys, Except.ok.injEq] at hkey
  rw [← hkey, Blueprint.toSql, hcommands]
  exact ⟨by decide, by decide, change, h, Blueprint.statements_of_compileCommands hchange⟩

end MySql

end SchemaLedger
