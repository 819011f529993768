import SchemaLedger.Proofs.Grammar.ColumnChange
import SchemaLedger.Proofs.Grammar.Identifiers
import SchemaLedger.Proofs.Schema.RequestedKeys
import Mathlib.Tactic.Common

/-!
# The prefix of tables

The prefix reaches the names of tables, each of them once, and nothing else.  A blueprint in a
dialect with a prefix is written as the blueprint with the prefix in its tables is written without
one (`toSql_prefixTables`).  The indexes that columns ask for under no name of their own are named
in it as they were (`Blueprint.nameKeys`), since a derived name begins with the bare table.  Names
with dots and tables with aliases are left out: a dot makes the first segment of a name a table, and
an alias takes a prefix of its own.
-/

namespace SchemaLedger

/-! ### Blueprints with prefixed tables -/

/-- A flag with a name for the index that it asks for without one. -/
def IndexFlag.withName (name : String) : IndexFlag → IndexFlag
  | .enabled true => .named name
  | flag => flag

/-- The tables that a command names besides the one of its blueprint. -/
def Command.tables : Command → List String
  | .rename newName => [newName]
  | .foreign key => [key.on]
  | _ => []

/-- The command with a prefix in the tables that it names. -/
def Command.prefixTables (tablePrefix : String) : Command → Command
  | .rename newName => .rename (tablePrefix ++ newName)
  | .foreign key => .foreign { key with on := tablePrefix ++ key.on }
  | command => command

/-- The names of indexes and columns that a command writes as identifiers. -/
def Command.identifiers : Command → List String
  | .primary key => key.index :: key.columns
  | .unique key => key.index :: key.columns
  | .index key => key.index :: key.columns
  | .foreign key => key.index :: (key.columns ++ key.references)
  | .dropUnique key => [key.index]
  | .dropIndex key => [key.index]
  | .dropForeign key => [key.index]
  | .dropColumn columns => columns
  | _ => []

namespace Blueprint

/-- A column whose flags name the indexes that the blueprint derives names for. -/
def nameKeys (b : Blueprint) (column : Column) : Column :=
  { column with
    primary := column.primary.map (.withName (b.indexName .primary [column.name]))
    unique := column.unique.map (.withName (b.indexName .unique [column.name]))
    index := column.index.map (.withName (b.indexName .index [column.name])) }

/-- The blueprint with a prefix in all tables that it names.  The indexes of its columns keep the
names that they have without it. -/
def prefixTables (tablePrefix : String) (b : Blueprint) : Blueprint :=
  { b with
    table := tablePrefix ++ b.table
    columns := b.columns.map b.nameKeys
    commands := b.commands.map (.prefixTables tablePrefix) }

end Blueprint

/-! ### Plain names -/

/-- A column whose name, position and index names have no dots. -/
structure Column.IsUndotted (column : Column) : Prop where
  name : '.' ∉ column.name.toList
  after : ∀ neighbour, column.after = some neighbour → '.' ∉ neighbour.toList
  flag : ∀ role name, column.flag role = some (.named name) → '.' ∉ name.toList

/-- A command whose identifiers have no dots, and whose tables have no aliases behind a prefix. -/
structure Command.IsPlain (tablePrefix : String) (command : Command) : Prop where
  identifier : ∀ name ∈ command.identifiers, '.' ∉ name.toList
  table : ∀ table ∈ command.tables, Naming.hasAlias (tablePrefix ++ table) = false

/-- A blueprint whose columns and indexes have no dots in their names, and whose tables have no
aliases behind a prefix. -/
structure Blueprint.IsPlain (tablePrefix : String) (b : Blueprint) : Prop where
  table : Naming.hasAlias (tablePrefix ++ b.table) = false
  column : ∀ column ∈ b.columns, column.IsUndotted
  command : ∀ command ∈ b.commands, command.IsPlain tablePrefix

/-! ### Keys of columns -/

namespace IndexFlag

/-- A name that is not empty leaves it open whether an index is asked for. -/
lemma isEnabled_withName {name : String} (h : name ≠ "") (flag : IndexFlag) :
    (flag.withName name).isEnabled = flag.isEnabled := by
  cases flag with
  | named own => rfl
  | enabled on =>
    cases on with
    | false => rfl
    | true => simp [withName, isEnabled, h]

/-- A flag that asks for an index names it: with its own name, or else with the one put there. -/
lemma name?_withName {flag : IndexFlag} (h : flag.isEnabled = true) (name default : String) :
    (flag.withName name).name?.getD default = flag.name?.getD name := by
  cases flag with
  | named own => rfl
  | enabled on =>
    cases h
    rfl

end IndexFlag

namespace Blueprint

variable {tablePrefix : String} {b : Blueprint} {column : Column} {role : KeyRole}

/-- The dots of a derived name are left out. -/
lemma indexName_not_dotted (b : Blueprint) (role : IndexRole) (columns : List String) :
    '.' ∉ (b.indexName role columns).toList := by
  rw [indexName, derivedName, String.toList_ofList, List.mem_filter]
  simp

lemma indexName_ne_empty (b : Blueprint) (role : IndexRole) (columns : List String) :
    b.indexName role columns ≠ "" := by
  intro hempty
  have hmem : '_' ∈ (b.indexName role columns).toList := by
    rw [indexName, derivedName, String.toList_ofList, List.mem_filter]
    simp
  rw [hempty] at hmem
  cases hmem

lemma flag_nameKeys (b : Blueprint) (column : Column) (role : KeyRole) :
    (b.nameKeys column).flag role =
      (column.flag role).map (.withName (b.indexName role.indexRole [column.name])) := by
  cases role <;> rfl

lemma asksFor_nameKeys (b : Blueprint) (column : Column) (role : KeyRole) :
    (b.nameKeys column).asksFor role = column.asksFor role := by
  rw [Column.asksFor, Column.asksFor, flag_nameKeys]
  cases column.flag role with
  | none => rfl
  | some flag => exact IndexFlag.isEnabled_withName (b.indexName_ne_empty _ _) flag

lemma keyRole?_nameKeys (b : Blueprint) (column : Column) :
    (b.nameKeys column).keyRole? = column.keyRole? := by
  have hasks : (b.nameKeys column).asksFor = column.asksFor := funext (b.asksFor_nameKeys column)
  rw [Column.keyRole?, hasks]
  rfl

/-- A prefix does not make a command the creation of a table. -/
lemma prefixTables_eq_create_iff {command : Command} :
    command.prefixTables tablePrefix = .create ↔ command = .create := by
  cases command <;> simp [Command.prefixTables]

lemma isCreating_prefixTables : (b.prefixTables tablePrefix).isCreating = b.isCreating := by
  rw [isCreating, isCreating, prefixTables, Bool.eq_iff_iff, List.contains_iff_mem,
    List.contains_iff_mem, List.mem_map]
  simp [prefixTables_eq_create_iff]

/-- The index that a column asks for is the same for the prefixed table. -/
lemma keyCommand_prefixTables (h : column.asksFor role = true) :
    (b.prefixTables tablePrefix).keyCommand (b.nameKeys column) role =
      b.keyCommand column role := by
  obtain ⟨flag, hflag, henabled⟩ := flag_of_asksFor h
  have hname := IndexFlag.name?_withName henabled (b.indexName role.indexRole [column.name])
    ((b.prefixTables tablePrefix).indexName role.indexRole [column.name])
  rw [keyCommand, keyCommand, isCreating_prefixTables, flag_nameKeys, hflag]
  exact congrArg (fun name => role.command ⟨name, [column.name], none, b.isCreating⟩) hname

lemma fluentIndex_prefixTables :
    (b.prefixTables tablePrefix).fluentIndex (b.nameKeys column) = b.fluentIndex column := by
  rw [fluentIndex_eq, fluentIndex_eq, keyRole?_nameKeys]
  cases hrole : column.keyRole? with
  | none => rfl
  | some role => exact congrArg some (keyCommand_prefixTables (List.find?_some hrole))

lemma fluentIndexes_prefixTables :
    (b.prefixTables tablePrefix).fluentIndexes = b.fluentIndexes := by
  have hindex : (b.prefixTables tablePrefix).fluentIndex ∘ b.nameKeys = b.fluentIndex :=
    funext fun column => fluentIndex_prefixTables
  rw [fluentIndexes, prefixTables, List.filterMap_map]
  exact congrArg (b.columns.filterMap ·) hindex

/-! ### Commands of the blueprint -/

lemma addedColumns_prefixTables :
    (b.prefixTables tablePrefix).addedColumns = b.addedColumns.map b.nameKeys :=
  List.filter_map

lemma changedColumns_prefixTables :
    (b.prefixTables tablePrefix).changedColumns = b.changedColumns.map b.nameKeys :=
  List.filter_map

lemma impliedCommands_prefixTables :
    (b.prefixTables tablePrefix).impliedCommands =
      b.impliedCommands.map (.prefixTables tablePrefix) := by
  rw [impliedCommands, impliedCommands, isCreating_prefixTables, addedColumns_prefixTables,
    changedColumns_prefixTables, List.isEmpty_map, List.isEmpty_map]
  cases b.isCreating <;> cases b.changedColumns.isEmpty <;> cases b.addedColumns.isEmpty <;> rfl

/-- The index that a column asks for names no table. -/
lemma prefixTables_keyCommand :
    (b.keyCommand column role).prefixTables tablePrefix = b.keyCommand column role := by
  cases role <;> rfl

/-- All commands of the prefixed blueprint are those of the blueprint, with prefixed tables. -/
theorem resolvedCommands_prefixTables :
    (b.prefixTables tablePrefix).resolvedCommands =
      b.resolvedCommands.map (.prefixTables tablePrefix) := by
  have hkeys : b.fluentIndexes.map (.prefixTables tablePrefix) = b.fluentIndexes := by
    conv_rhs => rw [← List.map_id b.fluentIndexes]
    refine List.map_congr_left fun command hcommand => ?_
    obtain ⟨column, -, role, -, rfl⟩ := mem_fluentIndexes.mp hcommand
    exact prefixTables_keyCommand
  rw [resolvedCommands, resolvedCommands, List.map_append, List.map_append, hkeys,
    impliedCommands_prefixTables, fluentIndexes_prefixTables]
  rfl

/-- The index of a column without dots in its names has none in its own. -/
lemma isPlain_keyCommand (h : column.IsUndotted) :
    (b.keyCommand column role).IsPlain tablePrefix := by
  have hidentifiers : (b.keyCommand column role).identifiers =
      [((column.flag role).bind IndexFlag.name?).getD (b.indexName role.indexRole [column.name]),
        column.name] := by
    cases role <;> rfl
  have htables : (b.keyCommand column role).tables = [] := by
    cases role <;> rfl
  refine ⟨?_, ?_⟩
  · rw [hidentifiers, List.forall_mem_cons, List.forall_mem_singleton]
    refine ⟨?_, h.name⟩
    cases hname : (column.flag role).bind IndexFlag.name? with
    | none => exact b.indexName_not_dotted _ _
    | some name =>
      rw [Option.bind_eq_some_iff] at hname
      obtain ⟨flag, hflag, hname⟩ := hname
      cases flag with
      | enabled on => cases hname
      | named own =>
        cases hname
        exact h.flag role name hflag
  · rw [htables]
    exact List.forall_mem_nil _

lemma mem_impliedCommands {command : Command} (h : command ∈ b.impliedCommands) :
    command = .change ∨ command = .add := by
  rw [impliedCommands] at h
  split at h
  · cases h
  · rw [List.mem_append] at h
    rcases h with hchange | hadd
    · split at hchange
      · cases hchange
      · exact .inl (List.mem_singleton.mp hchange)
    · split at hadd
      · cases hadd
      · exact .inr (List.mem_singleton.mp hadd)

/-- All commands of a plain blueprint are plain. -/
theorem IsPlain.resolvedCommands (h : b.IsPlain tablePrefix) :
    ∀ command ∈ b.resolvedCommands, command.IsPlain tablePrefix := by
  intro command hcommand
  rw [Blueprint.resolvedCommands, List.mem_append, List.mem_append] at hcommand
  rcases hcommand with (himplied | hrequested) | hkey
  · -- What the columns imply has no names of its own.
    rcases mem_impliedCommands himplied with rfl | rfl
    · exact ⟨List.forall_mem_nil _, List.forall_mem_nil _⟩
    · exact ⟨List.forall_mem_nil _, List.forall_mem_nil _⟩
  · exact h.command command hrequested
  · obtain ⟨column, hcolumn, role, -, rfl⟩ := mem_fluentIndexes.mp hkey
    exact isPlain_keyCommand (h.column column hcolumn)

end Blueprint

namespace MySql

variable {tablePrefix : String} {stringLength : Nat} {b : Blueprint} {settings : Settings}

/-! ### Columns -/

section Columns

variable {column : Column} {columns : List Column}

/-- A modifier of a column without dots in its names does not see the prefix. -/
lemma render_nameKeys (h : column.IsUndotted) (modifier : Modifier) :
    modifier.render (naming tablePrefix) column =
      modifier.render (naming "") (b.nameKeys column) := by
  cases modifier with
  | after =>
    have hafter : ∀ name ∈ Modifier.written? column.after,
        (naming tablePrefix).wrap name = (naming "").wrap name := by
      intro name hname
      have hcolumn : column.after = some name := (Option.filter_eq_some_iff.mp hname).1
      exact wrap_of_not_dotted (h.after name hcolumn)
    exact congrArg Except.ok (Option.map_congr fun name hname =>
      congrArg (" AFTER " ++ ·) (hafter name hname))
  | _ => rfl

lemma isPresent_nameKeys (column : Column) (modifier : Modifier) :
    modifier.isPresent (b.nameKeys column) = modifier.isPresent column := by
  cases modifier <;> rfl

lemma fragment_nameKeys (h : column.IsUndotted) (modifier : Modifier) :
    modifier.fragment (naming tablePrefix) column =
      modifier.fragment (naming "") (b.nameKeys column) := by
  rw [Modifier.fragment, Modifier.fragment, isPresent_nameKeys, render_nameKeys h]

lemma definition_nameKeys (h : column.IsUndotted) :
    (columnWriter tablePrefix stringLength).definition column =
      (columnWriter "" stringLength).definition (b.nameKeys column) := by
  have hstart : (naming tablePrefix).wrap column.name ++ " " ++ typeText stringLength column.type =
      (naming "").wrap column.name ++ " " ++ typeText stringLength column.type := by
    rw [wrap_of_not_dotted h.name]
  exact (Modifier.append_congr (fun modifier _ => fragment_nameKeys h modifier) _).trans
    (congrArg _ hstart)

/-- The definitions of columns do not see the prefix. -/
lemma definitions_nameKeys (h : ∀ column ∈ columns, column.IsUndotted) :
    (columnWriter tablePrefix stringLength).definitions columns =
      (columnWriter "" stringLength).definitions (columns.map b.nameKeys) := by
  induction columns with
  | nil => rfl
  | cons column columns ih =>
    rw [List.forall_mem_cons] at h
    rw [List.map_cons, ColumnWriter.definitions, ColumnWriter.definitions, ih h.2,
      definition_nameKeys h.1]

lemma changeArgument_nameKeys (h : column.IsUndotted) (modifier : Modifier) :
    changeArgument (naming tablePrefix) column modifier =
      changeArgument (naming "") (b.nameKeys column) modifier := by
  rw [changeArgument, changeArgument, isPresent_nameKeys, render_nameKeys h]

lemma changeColumn_nameKeys (h : column.IsUndotted) (table : String) :
    changeColumn (columnWriter tablePrefix stringLength) table column =
      changeColumn (columnWriter "" stringLength) table (b.nameKeys column) := by
  have harguments : changeArgument (naming tablePrefix) column =
      changeArgument (naming "") (b.nameKeys column) := funext (changeArgument_nameKeys h)
  unfold changeColumn columnWriter
  dsimp only
  rw [harguments]
  rfl

/-- The changes of columns do not see the prefix, apart from the table that they name. -/
lemma changeColumns_nameKeys (h : ∀ column ∈ columns, column.IsUndotted) (table : String) :
    changeColumns (columnWriter tablePrefix stringLength) table columns =
      changeColumns (columnWriter "" stringLength) table (columns.map b.nameKeys) := by
  induction columns with
  | nil => rfl
  | cons column columns ih =>
    rw [List.forall_mem_cons] at h
    rw [List.map_cons, changeColumns, changeColumns, ih h.2, changeColumn_nameKeys h.1]

end Columns

/-! ### Statements -/

variable {table : String}

lemma alterTable_prefixTables (h : Naming.hasAlias (tablePrefix ++ b.table) = false)
    (change : String) :
    alterTable (naming tablePrefix) b change =
      alterTable (naming "") (b.prefixTables tablePrefix) change := by
  rw [alterTable, alterTable, wrapTable_of_not_aliased h]
  rfl

lemma standaloneIndex_prefixTables (h : Naming.hasAlias (tablePrefix ++ table) = false)
    {index : IndexCommand} (hindex : ∀ name ∈ index.index :: index.columns, '.' ∉ name.toList)
    (kind : String) :
    standaloneIndex (naming tablePrefix) table index kind =
      standaloneIndex (naming "") (tablePrefix ++ table) index kind := by
  rw [List.forall_mem_cons] at hindex
  unfold standaloneIndex addIndex
  rw [wrapTable_of_not_aliased h, wrap_of_not_dotted hindex.1, columnList_of_not_dotted hindex.2]

lemma addForeignKey_prefixTables (h : Naming.hasAlias (tablePrefix ++ table) = false)
    {key : ForeignCommand} (hkey : (Command.foreign key).IsPlain tablePrefix) :
    (naming tablePrefix).addForeignKey table key =
      (naming "").addForeignKey (tablePrefix ++ table)
        { key with on := tablePrefix ++ key.on } := by
  have hnames := hkey.identifier
  have hon := hkey.table key.on List.mem_cons_self
  rw [Command.identifiers, List.forall_mem_cons, List.forall_mem_append] at hnames
  obtain ⟨hindex, hcolumns, hreferences⟩ := hnames
  unfold Naming.addForeignKey
  rw [wrapTable_of_not_aliased h, wrapTable_of_not_aliased hon, wrap_of_not_dotted hindex,
    columnList_of_not_dotted hcolumns, columnList_of_not_dotted hreferences]

/-- An index without dots in its names is written into the creation of its table alike. -/
lemma inlineIndex_of_isPlain {command : Command} (h : command.IsPlain tablePrefix) :
    inlineIndex (naming tablePrefix) command = inlineIndex (naming "") command := by
  have hnames := h.identifier
  cases command with
  | primary index =>
    rw [Command.identifiers, List.forall_mem_cons] at hnames
    rw [inlineIndex, inlineIndex, columnList_of_not_dotted hnames.2]
  | unique index =>
    rw [Command.identifiers, List.forall_mem_cons] at hnames
    rw [inlineIndex, inlineIndex, wrap_of_not_dotted hnames.1, columnList_of_not_dotted hnames.2]
  | index index =>
    rw [Command.identifiers, List.forall_mem_cons] at hnames
    rw [inlineIndex, inlineIndex, wrap_of_not_dotted hnames.1, columnList_of_not_dotted hnames.2]
  | _ => rfl

/-- The definitions of the added columns do not see the prefix. -/
lemma definitions_prefixTables (h : b.IsPlain tablePrefix) :
    (columnWriter tablePrefix stringLength).definitions b.addedColumns =
      (columnWriter "" stringLength).definitions (b.prefixTables tablePrefix).addedColumns := by
  rw [Blueprint.addedColumns_prefixTables]
  exact definitions_nameKeys fun column hcolumn => h.column column (List.mem_of_mem_filter hcolumn)

/-- The changed columns are changed in the prefixed table. -/
lemma changeColumns_prefixTables (h : b.IsPlain tablePrefix) :
    changeColumns (columnWriter tablePrefix stringLength)
        ((columnWriter tablePrefix stringLength).naming.tablePrefix ++ b.table) b.changedColumns =
      changeColumns (columnWriter "" stringLength)
        ((columnWriter "" stringLength).naming.tablePrefix ++ (b.prefixTables tablePrefix).table)
        (b.prefixTables tablePrefix).changedColumns := by
  have htable : (columnWriter "" stringLength).naming.tablePrefix ++
      (b.prefixTables tablePrefix).table = tablePrefix ++ b.table :=
    String.empty_append
  rw [Blueprint.changedColumns_prefixTables, htable]
  exact changeColumns_nameKeys
    (fun column hcolumn => h.column column (List.mem_of_mem_filter hcolumn)) _

lemma wrapTable_prefixTables (h : b.IsPlain tablePrefix) :
    (naming tablePrefix).wrapTable b.table =
      (naming "").wrapTable (b.prefixTables tablePrefix).table :=
  wrapTable_of_not_aliased h.table

lemma createTable_prefixTables (h : b.IsPlain tablePrefix) :
    createTable (columnWriter tablePrefix stringLength) b =
      createTable (columnWriter "" stringLength) (b.prefixTables tablePrefix) := by
  have hindexes : b.fluentIndexes.filterMap (inlineIndex (naming tablePrefix)) =
      (b.prefixTables tablePrefix).fluentIndexes.filterMap (inlineIndex (naming "")) := by
    rw [Blueprint.fluentIndexes_prefixTables]
    refine List.filterMap_congr fun command hcommand => ?_
    obtain ⟨column, hcolumn, role, -, rfl⟩ := Blueprint.mem_fluentIndexes.mp hcommand
    exact inlineIndex_of_isPlain (Blueprint.isPlain_keyCommand (h.column column hcolumn))
  rw [createTable, createTable, definitions_prefixTables h]
  dsimp only [columnWriter]
  rw [hindexes, wrapTable_prefixTables h]
  rfl

/-- A command is compiled for a prefix as the command with prefixed tables is without one. -/
theorem compile_prefixTables (h : b.IsPlain tablePrefix) {command : Command}
    (hcommand : command.IsPlain tablePrefix) :
    compile (columnWriter tablePrefix stringLength) b command settings =
      compile (columnWriter "" stringLength) (b.prefixTables tablePrefix)
        (command.prefixTables tablePrefix) settings := by
  have hnames := hcommand.identifier
  have halter := alterTable_prefixTables h.table
  have htable := wrapTable_prefixTables h
  unfold compile
  -- Each command is rewritten by what it writes: tables, identifiers, columns or an index.
  cases command with
  | create =>
    dsimp only [Command.prefixTables]
    rw [createTable_prefixTables h]
    rfl
  | add =>
    dsimp only [Command.prefixTables]
    rw [definitions_prefixTables h]
    split
    · rfl
    · rfl
    · rw [columnWriter, halter]
      rfl
  | change =>
    dsimp only [Command.prefixTables]
    rw [changeColumns_prefixTables h]
  | drop =>
    dsimp only [Command.prefixTables, columnWriter]
    rw [htable]
  | dropIfExists =>
    dsimp only [Command.prefixTables, columnWriter]
    rw [htable]
  | rename newName =>
    have hnew := wrapTable_of_not_aliased (hcommand.table newName List.mem_cons_self)
    dsimp only [Command.prefixTables, columnWriter]
    rw [htable, hnew]
  | primary index => exact congrArg Except.ok (standaloneIndex_prefixTables h.table hnames _)
  | unique index => exact congrArg Except.ok (standaloneIndex_prefixTables h.table hnames _)
  | index index => exact congrArg Except.ok (standaloneIndex_prefixTables h.table hnames _)
  | foreign key =>
    dsimp only [Command.prefixTables, columnWriter]
    rw [addForeignKey_prefixTables h.table hcommand]
    rfl
  | dropPrimary index =>
    dsimp only [Command.prefixTables, columnWriter]
    rw [halter]
  | dropUnique index =>
    have hindex : '.' ∉ index.index.toList := hnames index.index List.mem_cons_self
    dsimp only [Command.prefixTables, columnWriter]
    rw [halter, wrap_of_not_dotted hindex]
  | dropIndex index =>
    have hindex : '.' ∉ index.index.toList := hnames index.index List.mem_cons_self
    dsimp only [Command.prefixTables, columnWriter]
    rw [halter, wrap_of_not_dotted hindex]
  | dropForeign index =>
    have hindex : '.' ∉ index.index.toList := hnames index.index List.mem_cons_self
    dsimp only [Command.prefixTables, columnWriter]
    rw [halter, wrap_of_not_dotted hindex]
  | dropColumn columns =>
    dsimp only [Command.prefixTables, columnWriter]
    rw [Command.identifiers] at hnames
    rw [halter, wrapAll_of_not_dotted hnames]
  | renameColumn oldName newName =>
    dsimp only [Command.prefixTables, columnWriter, naming]
    rw [String.empty_append]
    rfl
  | comment text =>
    dsimp only [Command.prefixTables, columnWriter]
    rw [halter]

end MySql

namespace Blueprint

variable {tablePrefix : String} {stringLength : Nat} {b : Blueprint} {settings : Settings}

/-- Commands are compiled for a prefix as those with prefixed tables are without one, up to the same
error. -/
lemma compileCommands_prefixTables (h : b.IsPlain tablePrefix) {commands : List Command}
    (hcommands : ∀ command ∈ commands, command.IsPlain tablePrefix) :
    compileCommands (Grammar.mysql tablePrefix stringLength) settings b commands =
      compileCommands (Grammar.mysql "" stringLength) settings (b.prefixTables tablePrefix)
        (commands.map (.prefixTables tablePrefix)) := by
  induction commands with
  | nil => rfl
  | cons command commands ih =>
    rw [List.forall_mem_cons] at hcommands
    have hcommand : (Grammar.mysql tablePrefix stringLength).compileCommand b command settings =
        (Grammar.mysql "" stringLength).compileCommand (b.prefixTables tablePrefix)
          (command.prefixTables tablePrefix) settings :=
      MySql.compile_prefixTables h hcommands.1
    rw [List.map_cons, compileCommands, compileCommands, hcommand, ih hcommands.2]

/-- A plain blueprint is written for a prefix of tables as the blueprint with the prefix in its own
table, in the new names of tables and in the tables that foreign keys refer to is written without
one, where the indexes that its columns ask for keep the names derived from the bare table. -/
theorem toSql_prefixTables (h : b.IsPlain tablePrefix) :
    b.toSql (Grammar.mysql tablePrefix stringLength) settings =
      (b.prefixTables tablePrefix).toSql (Grammar.mysql "" stringLength) settings := by
  rw [toSql, toSql, resolvedCommands_prefixTables]
  exact compileCommands_prefixTables h h.resolvedCommands

/-- A blueprint with a prefix in its own table, in a new name and in a table that is referred to,
with a position, a derived name of an index and a change. -/
def linkedSample : Blueprint :=
  { ofTable "posts" with
    columns :=
      [{ Column.ofType "author_id" .bigInteger with
          after := some "id"
          index := some (.enabled true) },
        { Column.ofType "title" (.string none) with change := some true }]
    commands := [.foreign ⟨"posts_author_id_foreign", ["author_id"], ["id"], "users", none, none⟩,
      .rename "articles"] }

/-- It is plain behind a prefix, and both sides give its statements. -/
theorem toSql_prefixTables_linked :
    linkedSample.IsPlain "app_" ∧ ∃ statements,
      linkedSample.toSql (Grammar.mysql "app_" MySql.defaultStringLength) Settings.empty =
        .ok statements ∧
      (linkedSample.prefixTables "app_").toSql (Grammar.mysql "" MySql.defaultStringLength)
        Settings.empty = .ok statements := by
  have hplain : linkedSample.IsPlain "app_" := by
    refine ⟨by decide, ?_, ?_⟩
    · rw [linkedSample, List.forall_mem_cons, List.forall_mem_singleton]
      refine ⟨⟨by decide, ?_, ?_⟩, ⟨by decide, ?_, ?_⟩⟩
      · rintro neighbour ⟨⟩
        decide
      · intro role name hflag
        cases role <;> cases hflag
      · rintro neighbour ⟨⟩
      · intro role name hflag
        cases role <;> cases hflag
    · rw [linkedSample, List.forall_mem_cons, List.forall_mem_singleton]
      exact ⟨⟨by decide, by decide⟩, ⟨by decide, by decide⟩⟩
  obtain ⟨statements, h⟩ : ∃ statements,
      linkedSample.toSql (Grammar.mysql "app_" MySql.defaultStringLength) Settings.empty =
        .ok statements := ⟨_, rfl⟩
  exact ⟨hplain, statements, h, (toSql_prefixTables hplain).symm.trans h⟩

end Blueprint

end SchemaLedger
