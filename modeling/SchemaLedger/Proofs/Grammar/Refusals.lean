import SchemaLedger.Proofs.Grammar.ColumnChange
import SchemaLedger.Proofs.Schema.RequestedKeys

/-!
# Refused modifiers

Three modifiers refuse columns of the wrong type: numbers alone are signed or unsigned, and texts
alone have a character set and a collation (`Modifier.isRefused`).  Nothing else makes the
compilation of a blueprint fail.  A column that is added is checked for all three of them, and a
column that is changed for the last two; the columns are checked in the order in which they are
compiled (`Blueprint.checks`), and the error is that of the first check that is refused
(`toSql_fails_iff`).
-/

namespace SchemaLedger

/-! ## Errors of computations -/

/-- The error of a computation, if it fails. -/
def failure? {ε α : Type} : Except ε α → Option ε
  | .error e => some e
  | .ok _ => none

section Failure

variable {ε α β : Type}

@[simp] lemma failure?_error (e : ε) : failure? (.error e : Except ε α) = some e := rfl

@[simp] lemma failure?_ok (a : α) : failure? (.ok a : Except ε α) = none := rfl

lemma failure?_eq_some_iff {x : Except ε α} {e : ε} : failure? x = some e ↔ x = .error e := by
  cases x with
  | error e' => simp
  | ok a => simp

@[simp] lemma failure?_map (f : α → β) (x : Except ε α) : failure? (x.map f) = failure? x := by
  cases x <;> rfl

/-- A computation that goes on, with errors that do not depend on its first result, fails as its
first part does, or else as its second part does. -/
lemma failure?_bind {x : Except ε α} {next : α → Except ε β} {second : Option ε}
    (h : ∀ a, failure? (next a) = second) :
    failure? (x >>= next) = (failure? x).or second := by
  cases x with
  | error e => rfl
  | ok a => exact h a

/-- A search that finds something in one value alone finds what that value gives, if it is
there. -/
lemma findSome?_of_only [DecidableEq α] {f : α → Option β} {a : α} {xs : List α}
    (h : ∀ x ∈ xs, x ≠ a → f x = none) :
    xs.findSome? f = if a ∈ xs then f a else none := by
  induction xs with
  | nil => rfl
  | cons x xs ih =>
    have hrest := ih fun y hy => h y (List.mem_cons_of_mem x hy)
    rw [List.findSome?_cons, hrest]
    by_cases hx : x = a
    · subst hx
      rw [if_pos List.mem_cons_self]
      cases hfound : f x with
      | none => rw [ite_self]
      | some b => rfl
    · have hmem : a ∈ x :: xs ↔ a ∈ xs := by simp [Ne.symm hx]
      rw [h x List.mem_cons_self hx]
      simp only [hmem]

end Failure

namespace MySql

variable {naming : Naming} {tablePrefix table : String} {stringLength : Nat} {column : Column}
  {modifier : Modifier} {b : Blueprint} {settings : Settings}

/-! ## Modifiers -/

namespace Modifier

/-- Whether a column has the attribute of a modifier while its type cannot have it.  An empty
collation counts as none, but an empty character set does not. -/
def isRefused (column : Column) : Modifier → Bool
  | .unsigned => column.unsigned.isSome && !column.type.isNumeric
  | .charset => column.charset.isSome && !column.type.isTextual
  | .collation => Column.isWritten column.collation && !column.type.isTextual
  | _ => false

/-- The modifiers that may refuse a column that is added. -/
def refusingAddition : List Modifier := [.unsigned, .charset, .collation]

/-- The modifiers that may refuse a column that is changed. -/
def refusingChange : List Modifier := [.charset, .collation]

/-- The error of a check of a column by a modifier, if the column is refused. -/
def refusal? (column : Column) (modifier : Modifier) : Option SchemaError :=
  if modifier.isRefused column then some (unsupported column modifier) else none

lemma refusal?_eq_some_iff {e : SchemaError} : refusal? column modifier = some e ↔
    modifier.isRefused column = true ∧ e = unsupported column modifier := by
  unfold refusal?
  split
  · rename_i h
    simp [h, eq_comm]
  · rename_i h
    simp [h]

lemma isSome_refusal? : (refusal? column modifier).isSome = modifier.isRefused column := by
  unfold refusal?
  cases modifier.isRefused column <;> rfl

/-- A modifier of a column can be written unless it refuses the column. -/
lemma failure?_text? : failure? (modifier.text? naming column) = refusal? column modifier := by
  unfold text? refusal?
  cases modifier with
  | unsigned =>
    cases hunsigned : column.unsigned <;> cases htype : column.type.isNumeric <;>
      simp [isPresent, render, isRefused, hunsigned, htype]
  | charset =>
    cases hcharset : column.charset <;> cases htype : column.type.isTextual <;>
      simp [isPresent, render, isRefused, hcharset, htype]
  | collation =>
    cases hcollation : column.collation with
    | none => simp [isPresent, isRefused, Column.isWritten, hcollation]
    | some name =>
      cases hempty : name.isEmpty <;> cases htype : column.type.isTextual <;>
        simp [isPresent, render, written?, isRefused, Column.isWritten, Option.filter, hcollation,
          hempty, htype]
  | _ =>
    simp only [isRefused, Bool.false_eq_true, if_false]
    split <;> rfl

lemma failure?_fragment :
    failure? (modifier.fragment naming column) = refusal? column modifier := by
  rw [fragment_eq_text?, failure?_map, failure?_text?]

lemma failure?_changeArgument :
    failure? (changeArgument naming column modifier) = refusal? column modifier := by
  rw [changeArgument_eq_text?, failure?_map, failure?_text?]

/-- Modifiers that are written one after another fail at the first one that refuses the column. -/
lemma failure?_append (modifiers : List Modifier) (sql : String) :
    failure? (append naming column modifiers sql) = modifiers.findSome? (refusal? column) := by
  induction modifiers generalizing sql with
  | nil => rfl
  | cons modifier modifiers ih =>
    have hfragment : failure? (modifier.fragment naming column) = refusal? column modifier :=
      failure?_fragment
    rw [append, List.findSome?_cons, ← hfragment]
    cases modifier.fragment naming column with
    | error e => rfl
    | ok text => exact ih (sql ++ text)

end Modifier

/-! ## Columns -/

/-- A column that is added is checked for three of its modifiers. -/
lemma failure?_definition :
    failure? ((columnWriter tablePrefix stringLength).definition column) =
      Modifier.refusingAddition.findSome? (Modifier.refusal? column) := by
  have happend : failure? ((columnWriter tablePrefix stringLength).definition column) =
      Modifier.order.findSome? (Modifier.refusal? column) := Modifier.failure?_append _ _
  rw [happend]
  simp [Modifier.order, Modifier.refusingAddition, Modifier.refusal?, Modifier.isRefused,
    List.findSome?_cons]

/-- A column that is changed is checked for two of its modifiers. -/
lemma failure?_changeColumn :
    failure? (changeColumn (columnWriter tablePrefix stringLength) table column) =
      Modifier.refusingChange.findSome? (Modifier.refusal? column) := by
  have htype : failure? ((columnWriter tablePrefix stringLength).columnType column) = none := rfl
  have hargument (modifier : Modifier) :
      failure? (changeArgument (columnWriter tablePrefix stringLength).naming column modifier) =
        Modifier.refusal? column modifier := Modifier.failure?_changeArgument
  have hnullable : Modifier.refusal? column .nullable = none := rfl
  have hdefault : Modifier.refusal? column .defaultValue = none := rfl
  have hcomment : Modifier.refusal? column .comment = none := rfl
  unfold changeColumn
  refine (failure?_bind fun type => failure?_bind fun charset => failure?_bind fun collation =>
    failure?_bind fun nullability => failure?_bind fun defaultText => failure?_bind fun comment =>
      failure?_ok _).trans ?_
  rw [htype, hargument, hargument, hargument, hargument, hargument, hnullable, hdefault, hcomment]
  simp only [Modifier.refusingChange, List.findSome?_cons, List.findSome?_nil]
  cases Modifier.refusal? column .charset <;> cases Modifier.refusal? column .collation <;> rfl

/-- Columns that are added fail at the first one that is refused. -/
lemma failure?_definitions (columns : List Column) :
    failure? ((columnWriter tablePrefix stringLength).definitions columns) =
      columns.findSome? fun column =>
        Modifier.refusingAddition.findSome? (Modifier.refusal? column) := by
  induction columns with
  | nil => rfl
  | cons column columns ih =>
    rw [ColumnWriter.definitions, List.findSome?_cons, ← ih, ← failure?_definition]
    cases (columnWriter tablePrefix stringLength).definition column with
    | error e => rfl
    | ok sql => cases (columnWriter tablePrefix stringLength).definitions columns <;> rfl

/-- Columns that are changed fail at the first one that is refused. -/
lemma failure?_changeColumns (columns : List Column) :
    failure? (changeColumns (columnWriter tablePrefix stringLength) table columns) =
      columns.findSome? fun column =>
        Modifier.refusingChange.findSome? (Modifier.refusal? column) := by
  induction columns with
  | nil => rfl
  | cons column columns ih =>
    rw [changeColumns, List.findSome?_cons, ← ih, ← failure?_changeColumn]
    cases changeColumn (columnWriter tablePrefix stringLength) table column with
    | error e => rfl
    | ok block =>
      cases changeColumns (columnWriter tablePrefix stringLength) table columns <;> rfl

/-! ## Commands -/

/-- The error of adding the columns of a blueprint, if it fails. -/
def additionFailure? (b : Blueprint) : Option SchemaError :=
  b.addedColumns.findSome? fun column =>
    Modifier.refusingAddition.findSome? (Modifier.refusal? column)

/-- The error of changing the columns of a blueprint, if it fails. -/
def changeFailure? (b : Blueprint) : Option SchemaError :=
  b.changedColumns.findSome? fun column =>
    Modifier.refusingChange.findSome? (Modifier.refusal? column)

/-- The error of a command of a blueprint, if it fails. -/
def commandFailure? (b : Blueprint) : Command → Option SchemaError
  | .create => additionFailure? b
  | .add => additionFailure? b
  | .change => changeFailure? b
  | _ => none

/-- Commands that write columns fail as the columns do, and the others do not fail. -/
lemma failure?_compile (command : Command) :
    failure? ((Grammar.mysql tablePrefix stringLength).compileCommand b command settings) =
      commandFailure? b command := by
  have hadded : failure? ((columnWriter tablePrefix stringLength).definitions b.addedColumns) =
      additionFailure? b := failure?_definitions _
  have hchanged : failure? (changeColumns (columnWriter tablePrefix stringLength)
      ((columnWriter tablePrefix stringLength).naming.tablePrefix ++ b.table) b.changedColumns) =
        changeFailure? b := failure?_changeColumns _
  change failure? (compile (columnWriter tablePrefix stringLength) b command settings) = _
  cases command with
  | create =>
    rw [compile, commandFailure?, ← hadded, createTable]
    cases (columnWriter tablePrefix stringLength).definitions b.addedColumns <;> rfl
  | add =>
    rw [compile, commandFailure?, ← hadded]
    rcases (columnWriter tablePrefix stringLength).definitions b.addedColumns with
      e | _ | ⟨sql, more⟩ <;> rfl
  | change =>
    rw [compile, commandFailure?, ← hchanged]
    rcases changeColumns (columnWriter tablePrefix stringLength) _ b.changedColumns with
      e | _ | ⟨block, more⟩ <;> rfl
  | _ => rfl

/-- Commands that are compiled one after another fail at the first one that does. -/
lemma failure?_compileCommands (commands : List Command) :
    failure? (b.compileCommands (Grammar.mysql tablePrefix stringLength) settings commands) =
      commands.findSome? (commandFailure? b) := by
  induction commands with
  | nil => rfl
  | cons command commands ih =>
    have hcommand : failure? ((Grammar.mysql tablePrefix stringLength).compileCommand b command
        settings) = commandFailure? b command := failure?_compile command
    rw [Blueprint.compileCommands, List.findSome?_cons, ← ih, ← hcommand]
    cases (Grammar.mysql tablePrefix stringLength).compileCommand b command settings with
    | error e => rfl
    | ok text =>
      cases b.compileCommands (Grammar.mysql tablePrefix stringLength) settings commands <;> rfl

/-! ## Blueprints -/

/-- What a blueprint implies on an existing table fails as its changes do, or else as its additions
do. -/
lemma findSome?_impliedCommands (b : Blueprint) :
    b.impliedCommands.findSome? (commandFailure? b) =
      if b.isCreating then none else (changeFailure? b).or (additionFailure? b) := by
  unfold Blueprint.impliedCommands
  cases b.isCreating with
  | true => rfl
  | false =>
    have hchange : (if b.changedColumns.isEmpty then [] else [Command.change]).findSome?
        (commandFailure? b) = changeFailure? b := by
      unfold changeFailure?
      cases hcolumns : b.changedColumns with
      | nil => rfl
      | cons column columns => simp [commandFailure?, changeFailure?, hcolumns]
    have hadd : (if b.addedColumns.isEmpty then [] else [Command.add]).findSome?
        (commandFailure? b) = additionFailure? b := by
      unfold additionFailure?
      cases hcolumns : b.addedColumns with
      | nil => rfl
      | cons column columns => simp [commandFailure?, additionFailure?, hcolumns]
    rw [if_neg Bool.false_ne_true, if_neg Bool.false_ne_true, List.findSome?_append, hchange, hadd]

/-- The indexes that columns ask for do not fail. -/
lemma findSome?_fluentIndexes (b : Blueprint) :
    b.fluentIndexes.findSome? (commandFailure? b) = none := by
  rw [List.findSome?_eq_none_iff]
  intro command hcommand
  obtain ⟨column, -, role, -, rfl⟩ := Blueprint.mem_fluentIndexes.mp hcommand
  cases role <;> rfl

/-- Requested commands other than changes and additions fail only in the creation of a table. -/
lemma findSome?_commands (hadd : Command.add ∉ b.commands) (hchange : Command.change ∉ b.commands) :
    b.commands.findSome? (commandFailure? b) =
      if b.isCreating then additionFailure? b else none := by
  have honly : ∀ command ∈ b.commands, command ≠ .create → commandFailure? b command = none := by
    intro command hmem hne
    cases command with
    | create => exact absurd rfl hne
    | add => exact absurd hmem hadd
    | change => exact absurd hmem hchange
    | _ => rfl
  have hcreating : b.isCreating = true ↔ Command.create ∈ b.commands := List.contains_iff_mem
  rw [findSome?_of_only honly]
  simp only [hcreating]
  rfl

/-- The checks of columns by modifiers that the compilation of a blueprint makes, in their order:
the changed columns of an existing table are checked before the added ones. -/
def checks (b : Blueprint) : List (Column × Modifier) :=
  (if b.isCreating then [] else b.changedColumns.product Modifier.refusingChange) ++
    b.addedColumns.product Modifier.refusingAddition

/-- Checks of columns by the same modifiers go through the columns one by one. -/
lemma findSome?_product (columns : List Column) (modifiers : List Modifier) :
    ((columns.product modifiers).findSome? fun check => Modifier.refusal? check.1 check.2) =
      columns.findSome? fun column => modifiers.findSome? (Modifier.refusal? column) := by
  induction columns with
  | nil => rfl
  | cons column columns ih =>
    have hproduct : (column :: columns).product modifiers =
        modifiers.map (column, ·) ++ columns.product modifiers := rfl
    have hfirst : ((modifiers.map (column, ·)).findSome? fun check =>
        Modifier.refusal? check.1 check.2) = modifiers.findSome? (Modifier.refusal? column) := by
      rw [List.findSome?_map]
      rfl
    rw [hproduct, List.findSome?_append, hfirst, ih, List.findSome?_cons]
    cases modifiers.findSome? (Modifier.refusal? column) <;> rfl

/-- A blueprint without explicit changes and additions fails as its first refused check does. -/
lemma failure?_toSql (hadd : Command.add ∉ b.commands) (hchange : Command.change ∉ b.commands) :
    failure? (b.toSql (Grammar.mysql tablePrefix stringLength) settings) =
      (checks b).findSome? fun check => Modifier.refusal? check.1 check.2 := by
  rw [Blueprint.toSql, failure?_compileCommands, Blueprint.resolvedCommands,
    List.findSome?_append, List.findSome?_append, findSome?_impliedCommands,
    findSome?_commands hadd hchange, findSome?_fluentIndexes, checks, List.findSome?_append,
    findSome?_product, Option.or_none]
  cases b.isCreating with
  | true => rfl
  | false =>
    have hchanged : ((if false = true then [] else
        b.changedColumns.product Modifier.refusingChange).findSome? fun check =>
          Modifier.refusal? check.1 check.2) = changeFailure? b := findSome?_product _ _
    rw [hchanged]
    simp [additionFailure?]

/-- What a blueprint checks is every added column by three modifiers and, on an existing table,
every changed column by two. -/
lemma mem_checks {column : Column} {modifier : Modifier} : (column, modifier) ∈ checks b ↔
    column ∈ b.addedColumns ∧ modifier ∈ Modifier.refusingAddition ∨
      b.isCreating = false ∧ column ∈ b.changedColumns ∧ modifier ∈ Modifier.refusingChange := by
  unfold checks
  cases b.isCreating <;> simp [List.product, or_comm]

/-- For a blueprint without explicit changes and additions, compilation fails exactly if a column
that is added is refused by one of three modifiers, or the table exists and a column that is changed
is refused by one of two.  The error says that a modifier is unsupported, and it names the column
and the modifier of the first check that is refused. -/
theorem toSql_fails_iff (hadd : Command.add ∉ b.commands) (hchange : Command.change ∉ b.commands) :
    ((∃ e, b.toSql (Grammar.mysql tablePrefix stringLength) settings = .error e) ↔
      (∃ column ∈ b.addedColumns, ∃ modifier ∈ Modifier.refusingAddition,
        modifier.isRefused column = true) ∨
      b.isCreating = false ∧ ∃ column ∈ b.changedColumns, ∃ modifier ∈ Modifier.refusingChange,
        modifier.isRefused column = true) ∧
    ∀ e, b.toSql (Grammar.mysql tablePrefix stringLength) settings = .error e ↔
      ∃ passed column modifier left, checks b = passed ++ (column, modifier) :: left ∧
        (∀ check ∈ passed, check.2.isRefused check.1 = false) ∧
        modifier.isRefused column = true ∧
        e = .unsupportedModifier modifier.name column.name column.type.name := by
  constructor
  · have hfails : (∃ e, b.toSql (Grammar.mysql tablePrefix stringLength) settings = .error e) ↔
        ∃ column modifier, (column, modifier) ∈ checks b ∧ modifier.isRefused column = true := by
      simp only [← failure?_eq_some_iff, failure?_toSql hadd hchange, ← Option.isSome_iff_exists,
        List.findSome?_isSome_iff, Prod.exists, Modifier.isSome_refusal?]
    rw [hfails]
    constructor
    · rintro ⟨column, modifier, hcheck, hrefused⟩
      rcases mem_checks.mp hcheck with ⟨hcolumn, hmodifier⟩ | ⟨hcreating, hcolumn, hmodifier⟩
      · exact .inl ⟨column, hcolumn, modifier, hmodifier, hrefused⟩
      · exact .inr ⟨hcreating, column, hcolumn, modifier, hmodifier, hrefused⟩
    · rintro (⟨column, hcolumn, modifier, hmodifier, hrefused⟩ |
        ⟨hcreating, column, hcolumn, modifier, hmodifier, hrefused⟩)
      · exact ⟨column, modifier, mem_checks.mpr (.inl ⟨hcolumn, hmodifier⟩), hrefused⟩
      · exact ⟨column, modifier, mem_checks.mpr (.inr ⟨hcreating, hcolumn, hmodifier⟩), hrefused⟩
  · intro e
    rw [← failure?_eq_some_iff, failure?_toSql hadd hchange, List.findSome?_eq_some_iff]
    constructor
    · rintro ⟨passed, ⟨column, modifier⟩, left, hchecks, hrefusal, hpassed⟩
      obtain ⟨hrefused, rfl⟩ := Modifier.refusal?_eq_some_iff.mp hrefusal
      refine ⟨passed, column, modifier, left, hchecks, fun check hcheck => ?_, hrefused, rfl⟩
      rw [← Modifier.isSome_refusal?, hpassed check hcheck]
      rfl
    · rintro ⟨passed, column, modifier, left, hchecks, hpassed, hrefused, rfl⟩
      refine ⟨passed, (column, modifier), left, hchecks,
        Modifier.refusal?_eq_some_iff.mpr ⟨hrefused, rfl⟩, fun check hcheck => ?_⟩
      rw [← Option.isNone_iff_eq_none, ← Option.not_isSome, Modifier.isSome_refusal?,
        hpassed check hcheck]
      rfl

/-- A table to which a text with a sign is added, and of which an integer gets an empty character
set and a collation. -/
def misfitSample : Blueprint :=
  { Blueprint.ofTable "t" with
    columns :=
      [{ Column.ofType "a" .text with unsigned := some false },
        { Column.ofType "c" .integer with
          change := some true
          charset := some ""
          collation := some "utf8mb4_bin" }] }

/-- The changed column is checked first, and it is refused for its character set. -/
theorem toSql_fails_iff_misfit :
    (Command.add ∉ misfitSample.commands ∧ Command.change ∉ misfitSample.commands) ∧
    misfitSample.toSql (Grammar.mysql "p_" defaultStringLength) Settings.empty =
      .error (.unsupportedModifier "charset" "c" "integer") := by
  have hadd : Command.add ∉ misfitSample.commands := by decide
  have hchange : Command.change ∉ misfitSample.commands := by decide
  obtain ⟨-, herror⟩ := @toSql_fails_iff "p_" defaultStringLength misfitSample Settings.empty hadd
    hchange
  refine ⟨⟨hadd, hchange⟩, (herror _).mpr ⟨[], _, .charset, _, rfl, ?_, ?_, ?_⟩⟩
  · exact List.forall_mem_nil _
  · decide
  · decide

end MySql

end SchemaLedger
