import SchemaLedger.Proofs.Schema.RequestedKeys

/-!
# Derived names of indexes

An index without a name of its own gets a derived one.  Requests to add an index, requests to drop
it, and flags of columns derive the name from the same role and the same columns, so that they mean
the same index (`Blueprint.lastIndexName?_of_asksByColumns`, `Blueprint.indexName?_fluentIndex`).

A derived name drops hyphens and dots, and it does not tell where one column ends and the next one
begins.  This is all that it loses: on one table, two derived names are the same exactly if the
roles are the same and the joined columns are the same up to hyphens and dots
(`Blueprint.indexName_eq_iff`).  The end of a name tells the role.
-/

namespace SchemaLedger

namespace Text

/-- The characters of a text that are neither hyphens nor dots. -/
def withoutHyphensAndDots (s : String) : List Char :=
  s.toList.filter fun c => c != '-' && c != '.'

@[simp] lemma withoutHyphensAndDots_append (s t : String) :
    withoutHyphensAndDots (s ++ t) = withoutHyphensAndDots s ++ withoutHyphensAndDots t := by
  rw [withoutHyphensAndDots, String.toList_append, List.filter_append]
  rfl

/-- Neither hyphens nor dots are left. -/
lemma not_mem_withoutHyphensAndDots {c : Char} (h : c = '-' ∨ c = '.') (s : String) :
    c ∉ withoutHyphensAndDots s := by
  intro hmem
  have hkept := (List.mem_filter.mp hmem).2
  rcases h with rfl | rfl
  · exact absurd hkept (by decide)
  · exact absurd hkept (by decide)

end Text

/-- The name of the index or key that a command adds or drops. -/
def Command.indexName? : Command → Option String
  | .primary added | .unique added | .index added => some added.index
  | .foreign key => some key.index
  | .dropPrimary dropped | .dropUnique dropped | .dropIndex dropped | .dropForeign dropped =>
    some dropped.index
  | _ => none

/-- The command of a role of keys keeps the name of the index. -/
@[simp] lemma KeyRole.indexName?_command (role : KeyRole) (index : IndexCommand) :
    (role.command index).indexName? = some index.index := by
  cases role <;> rfl

namespace Blueprint

open Text

variable {b b' : Blueprint} {columns columns' : List String} {role role' : IndexRole}

/-! ## Requests -/

/-- The name of the index in the last command that is requested. -/
def lastIndexName? (b : Blueprint) : Option String :=
  b.commands.getLast?.bind Command.indexName?

@[simp] lemma lastIndexName?_addCommand (b : Blueprint) (command : Command) :
    (b.addCommand command).lastIndexName? = command.indexName? := by
  simp [lastIndexName?, addCommand]

/-- A blueprint requests another index over columns without a name for it: one to add, or one to
drop. -/
inductive AsksByColumns (b : Blueprint) (columns : List String) : IndexRole → Blueprint → Prop where
  | primary (algorithm : Option String) :
    AsksByColumns b columns .primary (b.primary ⟨columns, none, algorithm⟩)
  | unique (algorithm : Option String) :
    AsksByColumns b columns .unique (b.unique ⟨columns, none, algorithm⟩)
  | index (algorithm : Option String) :
    AsksByColumns b columns .index (b.index ⟨columns, none, algorithm⟩)
  | foreign (references : List String) (on : String) (onDelete onUpdate : Option ForeignAction) :
    AsksByColumns b columns .foreign
      (b.foreign ⟨columns, none, references, on, onDelete, onUpdate⟩)
  | dropUnique : AsksByColumns b columns .unique (b.dropUnique (.over columns))
  | dropIndex : AsksByColumns b columns .index (b.dropIndex (.over columns))
  | dropForeign : AsksByColumns b columns .foreign (b.dropForeign (.over columns))

/-- Only the table of a blueprint decides about the names it derives. -/
lemma indexName_of_table (b : Blueprint) (role : IndexRole) (columns : List String) :
    b.indexName role columns = (ofTable b.table).indexName role columns := rfl

/-- Every request without a name derives it from its role and its columns. -/
theorem lastIndexName?_of_asksByColumns (h : AsksByColumns b columns role b') :
    b'.lastIndexName? = some (b.indexName role columns) := by
  cases h <;> exact lastIndexName?_addCommand b _

/-- A flag without a name derives it from its role and the one column. -/
theorem indexName?_fluentIndex {column : Column} {role : KeyRole}
    (hrole : column.keyRole? = some role)
    (hname : (column.flag role).bind IndexFlag.name? = none) :
    (b.fluentIndex column).bind Command.indexName? =
      some (b.indexName role.indexRole [column.name]) := by
  rw [fluentIndex_eq, hrole, Option.map_some, Option.bind_some, keyCommand,
    KeyRole.indexName?_command, hname, Option.getD_none]

/-! ## Collisions -/

/-- A derived name is the table, the joined columns and the last word, with underscores between
them and without hyphens and dots. -/
lemma toList_derivedName (b : Blueprint) (lastWord : String) (columns : List String) :
    (b.derivedName lastWord columns).toList =
      withoutHyphensAndDots b.table ++ ('_' :: (withoutHyphensAndDots (join "_" columns) ++
        ('_' :: withoutHyphensAndDots lastWord))) := by
  have hunderscore : withoutHyphensAndDots "_" = ['_'] := by decide
  have hname : (b.derivedName lastWord columns).toList =
      withoutHyphensAndDots (b.table ++ "_" ++ join "_" columns ++ "_" ++ lastWord) :=
    String.toList_ofList
  simp only [hname, withoutHyphensAndDots_append, hunderscore, List.append_assoc,
    List.cons_append, List.nil_append]

/-- There are neither hyphens nor dots in a derived name. -/
lemma not_mem_indexName {c : Char} (h : c = '-' ∨ c = '.') (b : Blueprint) (role : IndexRole)
    (columns : List String) : c ∉ (b.indexName role columns).toList := by
  have hname : (b.indexName role columns).toList = withoutHyphensAndDots
      (b.table ++ "_" ++ join "_" columns ++ "_" ++ role.suffix) := String.toList_ofList
  rw [hname]
  exact not_mem_withoutHyphensAndDots h _

/-- The last letter of a derived name. -/
def lastLetter : IndexRole → Char
  | .primary => 'y'
  | .unique => 'e'
  | .index => 'x'
  | .foreign => 'n'

lemma lastLetter_injective (h : lastLetter role = lastLetter role') : role = role' := by
  cases role <;> cases role' <;> first | rfl | exact absurd h (by decide)

lemma getLast?_indexName (b : Blueprint) (role : IndexRole) (columns : List String) :
    (b.indexName role columns).toList.getLast? = some (lastLetter role) := by
  have hsuffix : (withoutHyphensAndDots role.suffix).getLast? = some (lastLetter role) := by
    cases role <;> decide
  rw [indexName, toList_derivedName]
  simp only [List.getLast?_append, List.getLast?_cons, hsuffix, Option.getD_some, Option.some_or]

/-- Two derived names are the same exactly if their roles are and their columns, joined, are the
same up to hyphens and dots. -/
theorem indexName_eq_iff (b : Blueprint) :
    b.indexName role columns = b.indexName role' columns' ↔
      role = role' ∧
        withoutHyphensAndDots (join "_" columns) = withoutHyphensAndDots (join "_" columns') := by
  constructor
  · intro h
    have hrole : role = role' := by
      have hlast := getLast?_indexName b role columns
      rw [h, getLast?_indexName] at hlast
      exact (lastLetter_injective (Option.some.inj hlast)).symm
    subst hrole
    have hchars := congrArg String.toList h
    rw [indexName, indexName, toList_derivedName, toList_derivedName] at hchars
    -- The table in front and the role behind are the same on both sides.
    have htail := (List.cons.inj (List.append_cancel_left hchars)).2
    exact ⟨rfl, List.append_cancel_right htail⟩
  · rintro ⟨rfl, hcolumns⟩
    apply String.toList_injective
    rw [indexName, indexName, toList_derivedName, toList_derivedName, hcolumns]

/-- On one table, requests to add an index of a role over columns, requests to drop it and flags of
its only column use the same name, unless they bring their own.  It has neither hyphens nor dots,
and it is the name of another role or of other columns only if the roles are the same and the
columns, joined, are the same up to hyphens and dots. -/
theorem derived_names_agree (table : String) :
    (∀ (b b' : Blueprint) (role : IndexRole) (columns : List String), b.table = table →
      AsksByColumns b columns role b' →
        b'.lastIndexName? = some ((ofTable table).indexName role columns)) ∧
    (∀ (b : Blueprint) (column : Column) (role : KeyRole), b.table = table →
      column.keyRole? = some role → (column.flag role).bind IndexFlag.name? = none →
        (b.fluentIndex column).bind Command.indexName? =
          some ((ofTable table).indexName role.indexRole [column.name])) ∧
    (∀ (role : IndexRole) (columns : List String),
      '-' ∉ ((ofTable table).indexName role columns).toList ∧
        '.' ∉ ((ofTable table).indexName role columns).toList) ∧
    ∀ (role role' : IndexRole) (columns columns' : List String),
      (ofTable table).indexName role columns = (ofTable table).indexName role' columns' ↔
        role = role' ∧
          withoutHyphensAndDots (join "_" columns) = withoutHyphensAndDots (join "_" columns') := by
  refine ⟨?_, ?_, fun role columns => ⟨?_, ?_⟩, fun role role' columns columns' => ?_⟩
  · rintro b b' role columns rfl h
    rw [← indexName_of_table]
    exact lastIndexName?_of_asksByColumns h
  · rintro b column role rfl hrole hname
    rw [← indexName_of_table]
    exact indexName?_fluentIndex hrole hname
  · exact not_mem_indexName (.inl rfl) _ role columns
  · exact not_mem_indexName (.inr rfl) _ role columns
  · exact indexName_eq_iff _

/-- The names of plain indexes that are added and dropped over two columns agree, and so do those of
a unique index that is added and one that a column asks for; an index over one column that is named
like the two joined gets their name as well. -/
theorem derived_names_agree_on_orders :
    ((ofTable "orders").index ⟨["user", "day"], none, none⟩).lastIndexName? =
        ((ofTable "orders").dropIndex (.over ["user", "day"])).lastIndexName? ∧
      ((ofTable "orders").unique ⟨["s.ku"], none, none⟩).lastIndexName? =
        ((ofTable "orders").fluentIndex
          { Column.ofType "s.ku" .json with unique := some (.enabled true) }).bind
            Command.indexName? ∧
      (ofTable "orders").indexName .index ["user", "day"] =
        (ofTable "orders").indexName .index ["user_d-ay"] := by
  obtain ⟨hrequests, hflags, -, hcollisions⟩ := derived_names_agree "orders"
  refine ⟨?_, ?_, ?_⟩
  · rw [hrequests _ _ _ _ rfl (.index none), hrequests _ _ _ _ rfl .dropIndex]
  · rw [hrequests _ _ _ _ rfl (.unique none)]
    exact (hflags (ofTable "orders")
      { Column.ofType "s.ku" .json with unique := some (.enabled true) } .unique rfl
      (by decide) rfl).symm
  · exact (hcollisions _ _ _ _).mpr ⟨rfl, by decide⟩

end Blueprint

end SchemaLedger
