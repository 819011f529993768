import SchemaLedger.Grammar.MySql
import SchemaLedger.Proofs.Grammar.StatementEnds
import SchemaLedger.Proofs.Text.Beginning

/-!
# First words of statements

Every statement that MySQL compiles from a blueprint begins with one of a few words
(`MySql.firstWords`): the compiled text of each command does (`firstWord_compile`), and the white
space and the semicolons that `Blueprint.statement?` takes away are no part of a word
(`beginsWith_statement`).  None of the words begins an insertion, so blueprints do not write rows.
-/

namespace SchemaLedger

namespace Text

/-- A text is not empty, and no character of it is white space or a semicolon. -/
def isWord (text : String) : Bool :=
  !text.toList.isEmpty && text.toList.all fun c => !isBlank c && c != ';'

/-- A text that begins with a longer text begins with what that one begins with. -/
lemma beginsWith_trans {text start word : String} (h : beginsWith text start = true)
    (hword : beginsWith start word = true) : beginsWith text word = true := by
  obtain ⟨rest, htext⟩ := beginsWith_iff.mp h
  obtain ⟨more, hstart⟩ := beginsWith_iff.mp hword
  refine beginsWith_iff.mpr ⟨more ++ rest, ?_⟩
  rw [htext, hstart, List.append_assoc]

/-- A text keeps its first words when something follows it. -/
lemma beginsWith_append_right {text word : String} (h : beginsWith text word = true)
    (more : String) : beginsWith (text ++ more) word = true :=
  beginsWith_trans (beginsWith_append text more) h

/-- Joined texts begin with the first words of the first one. -/
lemma beginsWith_join {text word : String} (h : beginsWith text word = true)
    (separator : String) (more : List String) :
    beginsWith (join separator (text :: more)) word = true := by
  cases more with
  | nil => exact h
  | cons next rest =>
    rw [join]
    exact beginsWith_append_right (beginsWith_append_right h separator) _

end Text

/-- A word can be the body of a statement, and nothing is taken away behind it. -/
lemma Blueprint.isBody_of_isWord {word : String} (hword : Text.isWord word = true) :
    IsBody word.toList ∧ Text.EndsPlain word.toList := by
  rw [Text.isWord, Bool.and_eq_true, List.all_eq_true] at hword
  obtain ⟨hne, hall⟩ := hword
  have hplain : ∀ c ∈ word.toList, Text.isBlank c = false ∧ c ≠ ';' := fun c hc => by
    simpa using hall c hc
  refine ⟨⟨?_, fun c hc => ?_, fun c hc => ?_⟩, fun c hc => ?_⟩
  · simpa using hne
  · exact (hplain c (List.mem_of_mem_head? hc)).1
  · exact (hplain c (List.mem_of_mem_getLast? hc)).1
  · exact hplain c (List.mem_of_mem_getLast? hc)

/-- A compiled text that begins with a word gives a statement, which begins with that word. -/
lemma Blueprint.statement?_of_word {sql word : String} (hword : Text.isWord word = true)
    (h : Text.beginsWith sql word = true) :
    ∃ more, Blueprint.statement? sql = some (String.ofList (word.toList ++ more)) := by
  obtain ⟨rest, htext⟩ := Text.beginsWith_iff.mp h
  obtain ⟨hbody, hplain⟩ := isBody_of_isWord hword
  exact statement?_of_front htext hbody hplain

/-- A statement begins with the word that the compiled text begins with. -/
lemma Blueprint.beginsWith_statement {sql statement word : String}
    (hstatement : Blueprint.statement? sql = some statement) (hword : Text.isWord word = true)
    (h : Text.beginsWith sql word = true) : Text.beginsWith statement word = true := by
  obtain ⟨more, hmore⟩ := Blueprint.statement?_of_word hword h
  rw [hmore] at hstatement
  cases hstatement
  rw [Text.beginsWith_iff, String.toList_ofList]
  exact ⟨more, rfl⟩

namespace MySql

/-- The words with which the statements of blueprints begin. -/
def firstWords : List String := ["CREATE", "ALTER", "SET", "DROP", "RENAME"]

/-- A text begins with one of the first words. -/
def HasFirstWord (sql : String) : Prop := ∃ word ∈ firstWords, Text.beginsWith sql word = true

/-- The first words are words. -/
lemma isWord_of_mem_firstWords : ∀ word ∈ firstWords, Text.isWord word = true := by decide

/-- A text whose beginning has a first word has it too. -/
lemma HasFirstWord.of_beginsWith {sql start : String} (h : Text.beginsWith sql start = true)
    (hstart : HasFirstWord start) : HasFirstWord sql := by
  obtain ⟨word, hmem, hword⟩ := hstart
  exact ⟨word, hmem, Text.beginsWith_trans h hword⟩

/-- A text with a first word keeps it when something follows. -/
lemma HasFirstWord.append {sql : String} (h : HasFirstWord sql) (more : String) :
    HasFirstWord (sql ++ more) :=
  .of_beginsWith (Text.beginsWith_append sql more) h

/-- Joined texts have the first word of the first one. -/
lemma HasFirstWord.join {sql : String} (h : HasFirstWord sql) (separator : String)
    (more : List String) : HasFirstWord (Text.join separator (sql :: more)) := by
  obtain ⟨word, hmem, hword⟩ := h
  exact ⟨word, hmem, Text.beginsWith_join hword separator more⟩

/-- A text with a first word is no insertion. -/
lemma HasFirstWord.not_insert {sql : String} (h : HasFirstWord sql) (table : String) :
    Text.beginsWith sql ("INSERT INTO " ++ table) = false := by
  obtain ⟨word, hmem, hword⟩ := h
  have hdiffer : ∀ word ∈ firstWords,
      Text.differ word.toList "INSERT INTO ".toList = true := by decide
  exact Text.beginsWith_append_eq_false hword (hdiffer word hmem) table

/-! ## Commands -/

/-- The creation of a table begins with a first word. -/
lemma firstWord_createTable {writer : ColumnWriter} {b : Blueprint} {sql : String}
    (h : createTable writer b = .ok sql) : HasFirstWord sql := by
  unfold createTable at h
  split at h
  · cases h
  · cases h
    iterate 5 refine .append ?_ _
    split
    · exact ⟨"CREATE", by decide, by decide⟩
    · exact ⟨"CREATE", by decide, by decide⟩

/-- A statement that begins with a table to alter has a first word. -/
lemma firstWord_alterTable (naming : Naming) (b : Blueprint) (change : String) :
    HasFirstWord (alterTable naming b change) := by
  unfold alterTable
  iterate 3 refine .append ?_ _
  exact ⟨"ALTER", by decide, by decide⟩

/-- The change of a column begins with a first word. -/
lemma firstWord_alterColumnCall (table column : String) (arguments : List String) :
    HasFirstWord (alterColumnCall table column arguments) := by
  unfold alterColumnCall
  iterate 6 refine .append ?_ _
  exact ⟨"SET", by decide, by decide⟩

/-- A computation that goes on gives a result only if its first part does. -/
lemma ok_of_bind {ε α β : Type} {x : Except ε α} {next : α → Except ε β} {b : β}
    (h : (x >>= next) = .ok b) : ∃ a, x = .ok a ∧ next a = .ok b := by
  cases x with
  | error e => cases h
  | ok a => exact ⟨a, rfl, h⟩

/-- The change of a column of a table begins with a first word. -/
lemma firstWord_changeColumn {writer : ColumnWriter} {table : String} {column : Column}
    {block : String} (h : changeColumn writer table column = .ok block) : HasFirstWord block := by
  unfold changeColumn at h
  obtain ⟨type, -, h⟩ := ok_of_bind h
  obtain ⟨charset, -, h⟩ := ok_of_bind h
  obtain ⟨collation, -, h⟩ := ok_of_bind h
  obtain ⟨nullability, -, h⟩ := ok_of_bind h
  obtain ⟨defaultText, -, h⟩ := ok_of_bind h
  obtain ⟨comment, -, h⟩ := ok_of_bind h
  cases h
  exact firstWord_alterColumnCall table column.name _

/-- The changes of columns begin with a first word each. -/
lemma firstWord_changeColumns {writer : ColumnWriter} {table : String} {columns : List Column}
    {blocks : List String} (h : changeColumns writer table columns = .ok blocks) :
    ∀ block ∈ blocks, HasFirstWord block := by
  induction columns generalizing blocks with
  | nil =>
    cases h
    intro block hblock
    cases hblock
  | cons column columns ih =>
    rw [changeColumns] at h
    split at h
    · cases h
    · rename_i first hfirst
      split at h
      · cases h
      · rename_i rest hrest
        cases h
        intro block hblock
        rcases List.mem_cons.mp hblock with rfl | hblock
        · exact firstWord_changeColumn hfirst
        · exact ih hrest block hblock

/-- An index that is added has a first word. -/
lemma firstWord_addIndex (naming : Naming) (table : String) (index : IndexCommand)
    (kind : String) : HasFirstWord (addIndex naming table index kind) := by
  have hwords : HasFirstWord "ALTER TABLE" := ⟨"ALTER", by decide, by decide⟩
  exact hwords.join " " _

/-- An index that is added by a statement of its own has a first word. -/
lemma firstWord_standaloneIndex {naming : Naming} {table kind sql : String}
    {index : IndexCommand} (h : standaloneIndex naming table index kind = some sql) :
    HasFirstWord sql := by
  unfold standaloneIndex at h
  split at h
  · cases h
  · cases h
    exact firstWord_addIndex naming table index kind

/-- A foreign key that is added has a first word. -/
lemma firstWord_addForeignKey (naming : Naming) (table : String) (key : ForeignCommand) :
    HasFirstWord (naming.addForeignKey table key) := by
  unfold Naming.addForeignKey
  iterate 12 refine .append ?_ _
  exact ⟨"ALTER", by decide, by decide⟩

/-- The compiled text of a command has a first word. -/
theorem firstWord_compile {writer : ColumnWriter} {b : Blueprint} {command : Command}
    {settings : Settings} {sql : String}
    (h : compile writer b command settings = .ok (some sql)) : HasFirstWord sql := by
  unfold compile at h
  cases command with
  | create =>
    dsimp only at h
    split at h
    · cases h
    · rename_i text htext
      cases h
      exact (((firstWord_createTable htext).append _).append _).append _
  | add =>
    dsimp only at h
    split at h
    · cases h
    · cases h
    · cases h
      exact firstWord_alterTable _ _ _
  | change =>
    dsimp only at h
    split at h
    · cases h
    · cases h
    · rename_i blocks hne hblocks
      cases h
      cases blocks with
      | nil => exact absurd rfl hne
      | cons block rest =>
        exact (firstWord_changeColumns hblocks block List.mem_cons_self).join _ rest
  | drop =>
    cases h
    refine .append ?_ _
    exact ⟨"DROP", by decide, by decide⟩
  | dropIfExists =>
    cases h
    refine .append ?_ _
    exact ⟨"DROP", by decide, by decide⟩
  | rename newName =>
    cases h
    iterate 3 refine .append ?_ _
    exact ⟨"RENAME", by decide, by decide⟩
  | primary index => exact firstWord_standaloneIndex (Except.ok.inj h)
  | unique index => exact firstWord_standaloneIndex (Except.ok.inj h)
  | index index => exact firstWord_standaloneIndex (Except.ok.inj h)
  | foreign key =>
    cases h
    exact firstWord_addForeignKey _ _ _
  | dropPrimary _ =>
    cases h
    exact firstWord_alterTable _ _ _
  | dropUnique index =>
    cases h
    exact firstWord_alterTable _ _ _
  | dropIndex index =>
    cases h
    exact firstWord_alterTable _ _ _
  | dropForeign index =>
    cases h
    exact firstWord_alterTable _ _ _
  | dropColumn columns =>
    cases h
    exact firstWord_alterTable _ _ _
  | renameColumn oldName newName =>
    cases h
    exact firstWord_alterColumnCall _ _ _
  | comment text =>
    cases h
    exact firstWord_alterTable _ _ _

/-! ## Blueprints -/

/-- The statements of commands have first words. -/
lemma firstWord_compileCommands {tablePrefix : String} {stringLength : Nat} {settings : Settings}
    {b : Blueprint} {commands : List Command} {statements : List String}
    (h : b.compileCommands (Grammar.mysql tablePrefix stringLength) settings commands =
      .ok statements) : ∀ sql ∈ statements, HasFirstWord sql := by
  induction commands generalizing statements with
  | nil =>
    cases h
    intro sql hsql
    cases hsql
  | cons command commands ih =>
    rw [Blueprint.compileCommands] at h
    split at h
    · cases h
    · rename_i text htext
      split at h
      · cases h
      · rename_i rest hrest
        cases h
        intro sql hsql
        rcases List.mem_append.mp hsql with hsql | hsql
        · rw [Option.mem_toList, Option.bind_eq_some_iff] at hsql
          obtain ⟨compiled, rfl, hstatement⟩ := hsql
          obtain ⟨word, hmem, hword⟩ := firstWord_compile htext
          exact ⟨word, hmem, Blueprint.beginsWith_statement hstatement
            (isWord_of_mem_firstWords word hmem) hword⟩
        · exact ih hrest sql hsql

/-- Every statement of a blueprint begins with a first word. -/
theorem firstWord_toSql {tablePrefix : String} {stringLength : Nat} {settings : Settings}
    {b : Blueprint} {statements : List String}
    (h : b.toSql (Grammar.mysql tablePrefix stringLength) settings = .ok statements) :
    ∀ sql ∈ statements, HasFirstWord sql :=
  firstWord_compileCommands h

/-- The statements that prepare a database begin with first words. -/
theorem firstWord_initialSql (tablePrefix : String) (stringLength : Nat) :
    ∀ sql ∈ (Grammar.mysql tablePrefix stringLength).initialSql, HasFirstWord sql := by
  intro sql hsql
  have hmem : sql = dropAlterFunction ∨ sql = createAlterFunction := by
    simpa [Grammar.mysql] using hsql
  rcases hmem with rfl | rfl
  · exact ⟨"DROP", by decide, by decide⟩
  · have hline : HasFirstWord "CREATE FUNCTION `TRAMP_ALTER_COLUMN`(" :=
      ⟨"CREATE", by decide, by decide⟩
    exact (hline.join "\n" _).append "\n"

end MySql

end SchemaLedger
