import SchemaLedger.Grammar.MySql
import Mathlib.Data.List.Forall2
import Mathlib.Tactic.Common

/-!
# Compiled commands

What is known of a command of MySQL once it has compiled.  The creation of a table has a head, a
body and properties (`compile_create`), and additions and changes of columns are those of the
columns, or nothing if there are none (`compile_add`, `compile_change`).  Which commands compile to
a text is told from the blueprint and the command alone (`isSome_compile`).
-/

namespace SchemaLedger

/-- Whether a command of a blueprint compiles to a text: an index that is part of a creation does
not, nor does an addition or a change without columns. -/
def Blueprint.speaks (b : Blueprint) : Command → Bool
  | .add => !b.addedColumns.isEmpty
  | .change => !b.changedColumns.isEmpty
  | .primary index => !index.inline
  | .unique index => !index.inline
  | .index index => !index.inline
  | _ => true

namespace MySql

variable {tablePrefix : String} {stringLength : Nat} {b : Blueprint} {settings : Settings}

/-- Definitions that are written are those of the columns, one each and in their order. -/
lemma definitions_eq_ok {writer : ColumnWriter} {columns : List Column}
    {definitions : List String} (h : writer.definitions columns = .ok definitions) :
    List.Forall₂ (fun column sql => writer.definition column = .ok sql) columns definitions := by
  induction columns generalizing definitions with
  | nil =>
    cases h
    exact .nil
  | cons column columns ih =>
    rw [ColumnWriter.definitions] at h
    split at h
    · cases h
    · rename_i sql hsql
      split at h
      · cases h
      · rename_i rest hrest
        cases h
        exact .cons hsql (ih hrest)

/-- Changes that are written are those of the columns, one each and in their order. -/
lemma changeColumns_eq_ok {writer : ColumnWriter} {table : String} {columns : List Column}
    {blocks : List String} (h : changeColumns writer table columns = .ok blocks) :
    List.Forall₂ (fun column block => changeColumn writer table column = .ok block) columns
      blocks := by
  induction columns generalizing blocks with
  | nil =>
    cases h
    exact .nil
  | cons column columns ih =>
    rw [changeColumns] at h
    split at h
    · cases h
    · rename_i block hblock
      split at h
      · cases h
      · rename_i rest hrest
        cases h
        exact .cons hblock (ih hrest)

/-- What stands in front of the body of a created table. -/
def createHead (tablePrefix : String) (b : Blueprint) : String :=
  (if b.temporary then "CREATE TEMPORARY" else "CREATE") ++ " TABLE " ++
    (naming tablePrefix).wrapTable b.table ++ " "

/-- The compiled creation of a table: its head, its body and its properties. -/
lemma compile_create {result : Option String}
    (h : (Grammar.mysql tablePrefix stringLength).compileCommand b .create settings =
      .ok result) :
    ∃ definitions,
      List.Forall₂ (fun column sql =>
        (columnWriter tablePrefix stringLength).definition column = .ok sql)
          b.addedColumns definitions ∧
      result = some (createHead tablePrefix b ++ "(" ++ Text.join ", "
        (definitions ++ b.fluentIndexes.filterMap (inlineIndex (naming tablePrefix))) ++ ")" ++
          (encodingClause b settings ++ engineClause b settings ++ commentClause b)) := by
  have hcompile : compile (columnWriter tablePrefix stringLength) b .create settings =
      .ok result := h
  unfold compile createTable at hcompile
  dsimp only at hcompile
  split at hcompile
  · cases hcompile
  · rename_i sql hsql
    split at hsql
    · cases hsql
    · rename_i definitions hdefinitions
      cases hsql
      cases hcompile
      have hopening : " (" = " " ++ "(" := by decide
      refine ⟨definitions, definitions_eq_ok hdefinitions, congrArg some ?_⟩
      rw [createHead, hopening]
      simp only [String.append_assoc]
      rfl

/-- The compiled addition of columns: the altered table and the list behind it, if there are any
columns. -/
lemma compile_add {result : Option String}
    (h : (Grammar.mysql tablePrefix stringLength).compileCommand b .add settings = .ok result) :
    ∃ definitions,
      List.Forall₂ (fun column sql =>
        (columnWriter tablePrefix stringLength).definition column = .ok sql)
          b.addedColumns definitions ∧
      (b.addedColumns = [] ∧ result = none ∨
        b.addedColumns ≠ [] ∧ result = some (alterTable (naming tablePrefix) b
          (Text.join ", " (Naming.prependWord "ADD" definitions)))) := by
  have hcompile : compile (columnWriter tablePrefix stringLength) b .add settings =
      .ok result := h
  unfold compile at hcompile
  dsimp only at hcompile
  split at hcompile
  · cases hcompile
  · rename_i hdefinitions
    have hcolumns := definitions_eq_ok hdefinitions
    cases hcompile
    exact ⟨[], hcolumns, .inl ⟨List.forall₂_nil_right_iff.mp hcolumns, rfl⟩⟩
  · rename_i definitions hne hdefinitions
    have hcolumns := definitions_eq_ok hdefinitions
    cases hcompile
    refine ⟨definitions, hcolumns, .inr ⟨fun hnil => ?_, rfl⟩⟩
    rw [hnil, List.forall₂_nil_left_iff] at hcolumns
    exact hne hcolumns

/-- The compiled changes of a blueprint are those of its columns, if there are any. -/
lemma compile_change {result : Option String}
    (h : (Grammar.mysql tablePrefix stringLength).compileCommand b .change settings = .ok result) :
    ∃ blocks,
      List.Forall₂ (fun column block => changeColumn (columnWriter tablePrefix stringLength)
        (tablePrefix ++ b.table) column = .ok block) b.changedColumns blocks ∧
      (b.changedColumns = [] ∧ result = none ∨
        b.changedColumns ≠ [] ∧ result = some (Text.join ";\n\n" blocks)) := by
  have hcompile : compile (columnWriter tablePrefix stringLength) b .change settings =
      .ok result := h
  unfold compile at hcompile
  dsimp only at hcompile
  split at hcompile
  · cases hcompile
  · rename_i hblocks
    have hcolumns := changeColumns_eq_ok hblocks
    cases hcompile
    exact ⟨[], hcolumns, .inl ⟨List.forall₂_nil_right_iff.mp hcolumns, rfl⟩⟩
  · rename_i blocks hne hblocks
    have hcolumns := changeColumns_eq_ok hblocks
    cases hcompile
    refine ⟨blocks, hcolumns, .inr ⟨fun hnil => ?_, rfl⟩⟩
    rw [hnil, List.forall₂_nil_left_iff] at hcolumns
    exact hne hcolumns

/-- A command that compiles does so to a text exactly if it speaks. -/
theorem isSome_compile {command : Command} {result : Option String}
    (h : (Grammar.mysql tablePrefix stringLength).compileCommand b command settings =
      .ok result) : result.isSome = b.speaks command := by
  have hindex : ∀ (index : IndexCommand) (kind : String),
      (standaloneIndex (naming tablePrefix) b.table index kind).isSome = !index.inline := by
    intro index kind
    unfold standaloneIndex
    cases index.inline <;> rfl
  cases command with
  | create =>
    obtain ⟨definitions, -, rfl⟩ := compile_create h
    rfl
  | add =>
    obtain ⟨definitions, -, ⟨hnil, rfl⟩ | ⟨hne, rfl⟩⟩ := compile_add h
    · rw [Blueprint.speaks, hnil]
      rfl
    · rw [Blueprint.speaks, List.isEmpty_eq_false_iff.mpr hne]
      rfl
  | change =>
    obtain ⟨blocks, -, ⟨hnil, rfl⟩ | ⟨hne, rfl⟩⟩ := compile_change h
    · rw [Blueprint.speaks, hnil]
      rfl
    · rw [Blueprint.speaks, List.isEmpty_eq_false_iff.mpr hne]
      rfl
  | primary index =>
    cases h
    exact hindex index _
  | unique index =>
    cases h
    exact hindex index _
  | index index =>
    cases h
    exact hindex index _
  -- The other commands compile to a text in any case.
  | _ =>
    cases h
    rfl

end MySql

end SchemaLedger
