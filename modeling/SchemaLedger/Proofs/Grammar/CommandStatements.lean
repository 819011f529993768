import SchemaLedger.Proofs.Grammar.Compilation
import SchemaLedger.Proofs.Grammar.FirstWord
import SchemaLedger.Proofs.Schema.RequestedKeys

/-!
# Statements of commands

A blueprint that compiles gives one statement for each of its commands, in their order, but none for
a command that does not speak.  A text that a command compiles to begins with a word, so ending it
properly never leaves nothing of it (`isStatementOf_of_compile`).  The commands are the implied
change and addition of a table that is not created, the requested commands, and the indexes that
columns of such a table ask for (`toSql_lists_commands`).
-/

namespace SchemaLedger

namespace Blueprint

variable {tablePrefix : String} {stringLength : Nat} {b : Blueprint} {settings : Settings}
  {command : Command}

/-- A statement is that of a command: what the command compiles to, ended by one semicolon. -/
def IsStatementOf (b : Blueprint) (grammar : Grammar) (settings : Settings) (command : Command)
    (sql : String) : Prop :=
  ∃ text, grammar.compileCommand b command settings = .ok (some text) ∧ statement? text = some sql

/-! ## Lists of commands -/

/-- What a command of MySQL compiles to gives a statement. -/
lemma isStatementOf_of_compile {text : String}
    (h : (Grammar.mysql tablePrefix stringLength).compileCommand b command settings =
      .ok (some text)) :
    ∃ sql, statement? text = some sql ∧
      b.IsStatementOf (Grammar.mysql tablePrefix stringLength) settings command sql := by
  obtain ⟨word, hmem, hword⟩ := MySql.firstWord_compile h
  obtain ⟨more, hmore⟩ := statement?_of_word (MySql.isWord_of_mem_firstWords word hmem) hword
  exact ⟨_, hmore, text, h, hmore⟩

/-- Commands compile one list after the other. -/
lemma compileCommands_append {grammar : Grammar} {xs ys : List Command}
    {statements : List String}
    (h : compileCommands grammar settings b (xs ++ ys) = .ok statements) :
    ∃ first second, statements = first ++ second ∧
      compileCommands grammar settings b xs = .ok first ∧
      compileCommands grammar settings b ys = .ok second := by
  induction xs generalizing statements with
  | nil => exact ⟨[], statements, rfl, rfl, h⟩
  | cons command xs ih =>
    rw [List.cons_append, compileCommands] at h
    split at h
    · cases h
    · rename_i text htext
      split at h
      · cases h
      · rename_i rest hrest
        cases h
        obtain ⟨first, second, rfl, hfirst, hsecond⟩ := ih hrest
        refine ⟨(text.bind statement?).toList ++ first, second, (List.append_assoc ..).symm, ?_,
          hsecond⟩
        rw [compileCommands, htext, hfirst]

/-- Commands give one statement each, in their order, apart from those that do not speak. -/
lemma statements_of_compileCommands {commands : List Command} {statements : List String}
    (h : compileCommands (Grammar.mysql tablePrefix stringLength) settings b commands =
      .ok statements) :
    List.Forall₂ (b.IsStatementOf (Grammar.mysql tablePrefix stringLength) settings)
      (commands.filter b.speaks) statements := by
  induction commands generalizing statements with
  | nil =>
    cases h
    exact .nil
  | cons command commands ih =>
    rw [compileCommands] at h
    split at h
    · cases h
    · rename_i text htext
      split at h
      · cases h
      · rename_i rest hrest
        cases h
        have hspeaks := MySql.isSome_compile htext
        cases text with
        | none =>
          rw [List.filter_cons, ← hspeaks]
          exact ih hrest
        | some text =>
          obtain ⟨sql, hsql, hstatement⟩ := isStatementOf_of_compile htext
          rw [List.filter_cons, ← hspeaks, Option.bind_some, hsql]
          exact .cons hstatement (ih hrest)

/-! ## Commands of a blueprint -/

/-- The change that a blueprint implies, if it does. -/
def impliedChange (b : Blueprint) : List Command :=
  if b.isCreating = false ∧ b.changedColumns ≠ [] then [.change] else []

/-- The addition that a blueprint implies, if it does. -/
def impliedAddition (b : Blueprint) : List Command :=
  if b.isCreating = false ∧ b.addedColumns ≠ [] then [.add] else []

lemma impliedCommands_eq (b : Blueprint) :
    b.impliedCommands = b.impliedChange ++ b.impliedAddition := by
  unfold impliedCommands impliedChange impliedAddition
  cases b.isCreating <;> cases b.changedColumns <;> cases b.addedColumns <;> simp

/-- What a blueprint implies speaks. -/
lemma filter_impliedChange : b.impliedChange.filter b.speaks = b.impliedChange := by
  unfold impliedChange
  split
  · rename_i h
    have hspeaks : b.speaks .change = true := by simpa [speaks] using h.2
    rw [List.filter_cons, if_pos hspeaks, List.filter_nil]
  · rfl

lemma filter_impliedAddition : b.impliedAddition.filter b.speaks = b.impliedAddition := by
  unfold impliedAddition
  split
  · rename_i h
    have hspeaks : b.speaks .add = true := by simpa [speaks] using h.2
    rw [List.filter_cons, if_pos hspeaks, List.filter_nil]
  · rfl

/-- The index that a column asks for speaks if the table is not created. -/
lemma speaks_keyCommand (column : Column) (role : KeyRole) :
    b.speaks (b.keyCommand column role) = !b.isCreating := by
  cases role <;> rfl

/-- The indexes that columns ask for speak exactly if the table is not created. -/
lemma filter_fluentIndexes :
    b.fluentIndexes.filter b.speaks = if b.isCreating = false then b.fluentIndexes else [] := by
  have hspeaks : ∀ command ∈ b.fluentIndexes, b.speaks command = !b.isCreating := by
    intro command hcommand
    obtain ⟨column, -, role, -, rfl⟩ := mem_fluentIndexes.mp hcommand
    exact speaks_keyCommand column role
  cases hcreating : b.isCreating with
  | false =>
    rw [if_pos rfl, List.filter_eq_self]
    intro command hcommand
    rw [hspeaks command hcommand, hcreating]
    rfl
  | true =>
    rw [if_neg (by decide), List.filter_eq_nil_iff]
    intro command hcommand
    rw [hspeaks command hcommand, hcreating]
    decide

/-- The statements of the indexes that columns ask for are one for each of these columns. -/
lemma statements_of_fluentIndexes {keys : List String}
    (h : List.Forall₂ (b.IsStatementOf (Grammar.mysql tablePrefix stringLength) settings)
      b.fluentIndexes keys) :
    List.Forall₂ (fun column sql => ∃ role, column.keyRole? = some role ∧
        b.IsStatementOf (Grammar.mysql tablePrefix stringLength) settings
          (b.keyCommand column role) sql)
      (b.columns.filter Column.asksForKey) keys := by
  have hcommands := b.fluentIndexes_of_asking
  generalize b.columns.filter Column.asksForKey = columns, b.fluentIndexes = commands
    at hcommands h ⊢
  induction hcommands generalizing keys with
  | nil =>
    cases h
    exact .nil
  | cons hcommand _ ih =>
    obtain ⟨role, hrole, rfl⟩ := hcommand
    cases h with
    | cons hstatement hrest => exact .cons ⟨role, hrole, hstatement⟩ (ih hrest)

/-- The statements of a blueprint that compiles are, in this order: one for a change, if the table
is not created and has changed columns; one for an addition, if it is not created and has added
ones; one for every requested command that speaks; and, if the table is not created, one for every
column that asks for an index, of the first role that it asks for. -/
theorem toSql_lists_commands {statements : List String}
    (h : b.toSql (Grammar.mysql tablePrefix stringLength) settings = .ok statements) :
    ∃ changes additions explicit keys, statements = changes ++ additions ++ explicit ++ keys ∧
      List.Forall₂ (b.IsStatementOf (Grammar.mysql tablePrefix stringLength) settings)
        (if b.isCreating = false ∧ b.changedColumns ≠ [] then [.change] else []) changes ∧
      List.Forall₂ (b.IsStatementOf (Grammar.mysql tablePrefix stringLength) settings)
        (if b.isCreating = false ∧ b.addedColumns ≠ [] then [.add] else []) additions ∧
      List.Forall₂ (b.IsStatementOf (Grammar.mysql tablePrefix stringLength) settings)
        (b.commands.filter b.speaks) explicit ∧
      List.Forall₂ (fun column sql => ∃ role, column.keyRole? = some role ∧
          b.IsStatementOf (Grammar.mysql tablePrefix stringLength) settings
            (b.keyCommand column role) sql)
        (if b.isCreating = false then b.columns.filter Column.asksForKey else []) keys := by
  rw [toSql, resolvedCommands, impliedCommands_eq] at h
  obtain ⟨rest, keys, rfl, hrest, hkeys⟩ := compileCommands_append h
  obtain ⟨implied, explicit, rfl, himplied, hexplicit⟩ := compileCommands_append hrest
  obtain ⟨changes, additions, rfl, hchanges, hadditions⟩ := compileCommands_append himplied
  have hchanges := statements_of_compileCommands hchanges
  have hadditions := statements_of_compileCommands hadditions
  have hexplicit := statements_of_compileCommands hexplicit
  have hkeys := statements_of_compileCommands hkeys
  rw [filter_impliedChange] at hchanges
  rw [filter_impliedAddition] at hadditions
  rw [filter_fluentIndexes] at hkeys
  refine ⟨changes, additions, explicit, keys, rfl, hchanges, hadditions, hexplicit, ?_⟩
  split
  · rename_i hcreating
    rw [if_pos hcreating] at hkeys
    exact statements_of_fluentIndexes hkeys
  · rename_i hcreating
    rw [if_neg hcreating] at hkeys
    cases hkeys
    exact .nil

/-- A blueprint with an implied change and an implied addition, with two requested commands that do
not speak and two that do, and with a column that asks for two indexes at once. -/
def busySample : Blueprint :=
  { ofTable "users" with
    columns :=
      [{ Column.ofType "email" (.string none) with
          unique := some (.enabled true)
          index := some (.named "email_index") },
        { Column.ofType "age" .smallInteger with change := some true }]
    commands := [.index ⟨"name_index", ["name"], none, true⟩, .rename "people",
      .primary ⟨"users_id_primary", ["id"], none, true⟩, .dropColumn ["fax"]] }

/-- It gives five statements, of which one is for its column that asks for indexes. -/
theorem toSql_lists_commands_busy : ∃ statements changes additions explicit keys,
    busySample.toSql (Grammar.mysql "app_" MySql.defaultStringLength) Settings.empty =
      .ok statements ∧ statements = changes ++ additions ++ explicit ++ keys ∧
    changes.length = 1 ∧ additions.length = 1 ∧ explicit.length = 2 ∧ keys.length = 1 := by
  obtain ⟨statements, h⟩ : ∃ statements,
      busySample.toSql (Grammar.mysql "app_" MySql.defaultStringLength) Settings.empty =
        .ok statements := ⟨_, rfl⟩
  obtain ⟨changes, additions, explicit, keys, heq, hchanges, hadditions, hexplicit, hkeys⟩ :=
    toSql_lists_commands h
  refine ⟨statements, changes, additions, explicit, keys, h, heq, ?_, ?_, ?_, ?_⟩
  · rw [← hchanges.length_eq]
    decide
  · rw [← hadditions.length_eq]
    decide
  · rw [← hexplicit.length_eq]
    decide
  · rw [← hkeys.length_eq]
    decide

end Blueprint

end SchemaLedger
