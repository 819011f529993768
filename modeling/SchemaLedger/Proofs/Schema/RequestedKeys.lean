import SchemaLedger.Schema.Blueprint
import Mathlib.Data.List.Forall2
import Mathlib.Tactic.Common

/-!
# Indexes that columns ask for

A column has a flag for each role of an index, and only the first role whose flag is enabled counts
(`Column.keyRole?`).  The indexes of a blueprint are those of its columns that ask for one, one each
and in the order of the columns (`fluentIndexes_of_asking`).
-/

namespace SchemaLedger

namespace Column

/-- The flag of a column for an index of a role. -/
def flag (column : Column) : KeyRole → Option IndexFlag
  | .primary => column.primary
  | .unique => column.unique
  | .index => column.index

/-- Whether a column asks for an index of a role. -/
def asksFor (column : Column) (role : KeyRole) : Bool :=
  (column.flag role).any IndexFlag.isEnabled

/-- The first role of which a column asks for an index: a primary key before a unique index before a
plain one. -/
def keyRole? (column : Column) : Option KeyRole :=
  [KeyRole.primary, .unique, .index].find? column.asksFor

/-- Whether a column asks for an index of any role. -/
def asksForKey (column : Column) : Bool :=
  column.asksFor .primary || column.asksFor .unique || column.asksFor .index

lemma isSome_keyRole? (column : Column) : column.keyRole?.isSome = column.asksForKey := by
  unfold keyRole? asksForKey
  cases hprimary : column.asksFor .primary <;> cases hunique : column.asksFor .unique <;>
    cases hindex : column.asksFor .index <;> simp [hprimary, hunique, hindex]

end Column

namespace Blueprint

/-- The command for the index of a role on one column: under the name of its flag, or else under the
derived one. -/
def keyCommand (b : Blueprint) (column : Column) (role : KeyRole) : Command :=
  role.command
    { index := ((column.flag role).bind IndexFlag.name?).getD
        (b.indexName role.indexRole [column.name])
      columns := [column.name]
      algorithm := none
      inline := b.isCreating }

variable {column : Column} {role : KeyRole}

/-- A role that is asked for has an enabled flag. -/
lemma flag_of_asksFor (h : column.asksFor role = true) :
    ∃ flag, column.flag role = some flag ∧ flag.isEnabled = true := by
  unfold Column.asksFor at h
  cases hflag : column.flag role with
  | none => simp [hflag] at h
  | some flag => exact ⟨flag, rfl, by simpa [hflag] using h⟩

/-- A flag of a role that is not asked for is not left. -/
lemma filter_flag_eq_none (h : column.asksFor role = false) :
    (column.flag role).filter IndexFlag.isEnabled = none := by
  unfold Column.asksFor at h
  cases hflag : column.flag role with
  | none => rfl
  | some flag =>
    have hdisabled : flag.isEnabled = false := by simpa [hflag] using h
    simp [Option.filter, hdisabled]

/-- The index that a column asks for has the first role that it asks for, and the flag of that
role. -/
lemma requestedKey_eq (column : Column) :
    requestedKey column = column.keyRole?.bind fun role => (column.flag role).map (role, ·) := by
  have hrequested : requestedKey column =
      (((column.flag .primary).filter IndexFlag.isEnabled).map (KeyRole.primary, ·)).or
        ((((column.flag .unique).filter IndexFlag.isEnabled).map (KeyRole.unique, ·)).or
          (((column.flag .index).filter IndexFlag.isEnabled).map (KeyRole.index, ·))) := rfl
  rw [hrequested, Column.keyRole?]
  -- One case for each role that may be the first one, and one for none.
  cases hprimary : column.asksFor .primary with
  | true =>
    obtain ⟨flag, hflag, henabled⟩ := flag_of_asksFor hprimary
    simp [hprimary, hflag, henabled]
  | false =>
    rw [filter_flag_eq_none hprimary]
    cases hunique : column.asksFor .unique with
    | true =>
      obtain ⟨flag, hflag, henabled⟩ := flag_of_asksFor hunique
      simp [hprimary, hunique, hflag, henabled]
    | false =>
      rw [filter_flag_eq_none hunique]
      cases hindex : column.asksFor .index with
      | true =>
        obtain ⟨flag, hflag, henabled⟩ := flag_of_asksFor hindex
        simp [hprimary, hunique, hindex, hflag, henabled]
      | false =>
        rw [filter_flag_eq_none hindex]
        simp [hprimary, hunique, hindex]

/-- A column gets the index of the first role that it asks for. -/
lemma fluentIndex_eq (b : Blueprint) (column : Column) :
    b.fluentIndex column = column.keyRole?.map (b.keyCommand column) := by
  rw [fluentIndex, requestedKey_eq]
  cases hrole : column.keyRole? with
  | none => rfl
  | some role =>
    have hasks : column.asksFor role = true := List.find?_some hrole
    obtain ⟨flag, hflag, -⟩ := flag_of_asksFor hasks
    simp [keyCommand, hflag]

/-- The indexes that columns ask for are of the first role that a column asks for. -/
lemma mem_fluentIndexes {b : Blueprint} {command : Command} :
    command ∈ b.fluentIndexes ↔ ∃ column ∈ b.columns, ∃ role, column.keyRole? = some role ∧
      b.keyCommand column role = command := by
  rw [fluentIndexes, List.mem_filterMap]
  simp only [fluentIndex_eq, Option.map_eq_some_iff]

/-- The columns that ask for an index have one each, in their order. -/
theorem fluentIndexes_of_asking (b : Blueprint) :
    List.Forall₂ (fun column command =>
        ∃ role, column.keyRole? = some role ∧ command = b.keyCommand column role)
      (b.columns.filter Column.asksForKey) b.fluentIndexes := by
  unfold fluentIndexes
  induction b.columns with
  | nil => exact .nil
  | cons column columns ih =>
    rw [List.filterMap_cons, fluentIndex_eq, List.filter_cons, ← Column.isSome_keyRole?]
    cases hrole : column.keyRole? with
    | none => exact ih
    | some role => exact .cons ⟨role, hrole, rfl⟩ ih

end Blueprint

end SchemaLedger
