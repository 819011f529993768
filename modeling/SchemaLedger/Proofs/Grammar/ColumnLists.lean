import SchemaLedger.Proofs.Grammar.Compilation
import SchemaLedger.Proofs.Grammar.ModifierTexts
import SchemaLedger.Proofs.Schema.RequestedKeys
import SchemaLedger.Proofs.Sql.Reading

/-!
# The shape of column lists

The columns of a table are written in a list with commas between them.  Names, values of
enumerations, defaults and comments are quoted by doubling, so that a reader which skips quoted
texts and parentheses meets no comma and no closing parenthesis inside the definition of a column
(`isListItem_definition`) or of an index (`isListItem_inlineIndex`).  It therefore finds the
definitions again in the body of a created table and behind the name of an altered one
(`columnLists_keep_shape`), as long as the columns carry no text that is written as it is.
-/

namespace SchemaLedger

open Sql

/-- Whether a column carries no text that is written as it is: no character set, no collation, no
expression from which it is computed and no expression as its default. -/
def Column.isQuoted (column : Column) : Bool :=
  column.charset.isNone && column.collation.isNone && column.virtualAs.isNone &&
    column.storedAs.isNone &&
      match column.defaultValue with
      | some (.fragment _) => false
      | _ => true

/-- What a column of quoted texts lacks. -/
lemma Column.lacks_of_isQuoted {column : Column} (h : column.isQuoted = true) :
    column.charset = none ∧ column.collation = none ∧ column.virtualAs = none ∧
      column.storedAs = none ∧ ∀ fragment, column.defaultValue ≠ some (.fragment fragment) := by
  simp only [isQuoted, Bool.and_eq_true, Option.isNone_iff_eq_none] at h
  obtain ⟨⟨⟨⟨hcharset, hcollation⟩, hvirtual⟩, hstored⟩, hdefault⟩ := h
  refine ⟨hcharset, hcollation, hvirtual, hstored, fun fragment hfragment => ?_⟩
  rw [hfragment] at hdefault
  cases hdefault

namespace MySql

/-- The characters that shape a list. -/
def listMarks : List Char := [',', '(', ')']

/-- The characters that end an item of a list. -/
def itemMarks : List Char := [',', ')']

variable {tablePrefix name text : String} {stops : List Char}

/-! ## Names -/

/-- A quoted segment of a name is left whole. -/
lemma passes_wrapValue (value : String) :
    Reading.doubling.Passes listMarks ((naming tablePrefix).wrapValue value) := by
  unfold Naming.wrapValue
  split
  · rename_i hstar
    rw [hstar]
    decide
  · have hquote : '\x60' ∈ Reading.doubling.quotes := by decide
    have hmarks : '\x60' ∉ listMarks := by decide
    exact .encode hquote hmarks (.inl rfl)

/-- The quoted segments of a name are left whole. -/
lemma passes_wrapSegments (start value : String) :
    Reading.doubling.Passes listMarks ((naming tablePrefix).wrapSegments start value) := by
  unfold Naming.wrapSegments
  split
  · exact .nil
  · exact passes_wrapValue _
  · refine .join (by decide) fun segment hsegment => ?_
    rcases List.mem_cons.mp hsegment with rfl | hsegment
    · exact passes_wrapValue _
    · obtain ⟨value, -, rfl⟩ := List.mem_map.mp hsegment
      exact passes_wrapValue value

/-- A quoted name is left whole, with its alias. -/
lemma passes_wrapIdentifier (start aliasStart value : String) :
    Reading.doubling.Passes listMarks
      ((naming tablePrefix).wrapIdentifier start aliasStart value) := by
  unfold Naming.wrapIdentifier
  split
  · exact passes_wrapSegments start value
  · have hword : Reading.doubling.Passes listMarks " AS " := by decide
    exact ((passes_wrapSegments _ _).append hword).append (passes_wrapValue _)

lemma passes_wrap (value : String) :
    Reading.doubling.Passes listMarks ((naming tablePrefix).wrap value) :=
  passes_wrapIdentifier _ _ _

lemma passes_wrapTable (table : String) :
    Reading.doubling.Passes listMarks ((naming tablePrefix).wrapTable table) :=
  passes_wrapIdentifier _ _ _

/-- The names of columns in a row do not close the parentheses around them. -/
lemma passes_columnList (columns : List String) :
    Reading.doubling.Passes [')'] ((naming tablePrefix).columnList columns) := by
  refine .join (by decide) fun name hname => ?_
  obtain ⟨column, -, rfl⟩ := List.mem_map.mp hname
  exact (passes_wrap column).mono (by decide)

lemma isFlush_wrapValue (value : String) :
    Text.isFlush ((naming tablePrefix).wrapValue value) = true := by
  unfold Naming.wrapValue
  split
  · rename_i hstar
    rw [hstar]
    decide
  · have hquote : Text.isBlank '\x60' = false := by decide
    simp [Text.isFlush, Quoted.encode, naming, hquote]

lemma isFlush_wrapSegments (start value : String) :
    Text.isFlush ((naming tablePrefix).wrapSegments start value) = true := by
  unfold Naming.wrapSegments
  split
  · rename_i hnil
    exact absurd (List.map_eq_nil_iff.mp hnil) (Text.splitOn_ne_nil _ _)
  · exact isFlush_wrapValue _
  · exact Text.isFlush_join (isFlush_wrapValue _) _ _

/-- A quoted name begins with its quote or with a star. -/
lemma isFlush_wrap (value : String) : Text.isFlush ((naming tablePrefix).wrap value) = true := by
  unfold Naming.wrap Naming.wrapIdentifier
  split
  · exact isFlush_wrapSegments _ value
  · exact Text.isFlush_append (Text.isFlush_append (isFlush_wrapSegments _ _) _) _

/-! ## Types -/

/-- Parentheses behind a word are left whole with it. -/
lemma passes_parentheses {opening : String} (hopening : opening = name ++ "(")
    (hname : Reading.doubling.Passes itemMarks name) (h : Reading.doubling.Passes [')'] text) :
    Reading.doubling.Passes itemMarks (opening ++ text ++ ")") := by
  have hinner : Reading.doubling.Passes itemMarks ("(" ++ text ++ ")") :=
    .parentheses rfl (by decide) (by decide) (by decide) h
  have hassoc : opening ++ text ++ ")" = name ++ ("(" ++ text ++ ")") := by
    rw [hopening]
    simp only [String.append_assoc]
  rw [hassoc]
  exact hname.append hinner

/-- A number is left whole. -/
lemma passes_toString (n : Nat) : Reading.doubling.Passes listMarks (toString n) := by
  refine Reading.pass?_plain 0 fun c hc => ?_
  have hdigits : (toString n).toList = Nat.toDigits 10 n := by simp
  rw [hdigits] at hc
  have hdigit := Nat.isDigit_of_mem_toDigits (by decide) (by decide) hc
  have hmarks : ∀ mark ∈ ['\x60', '\x27', ',', '(', ')'], mark.isDigit = false := by simp
  have hplain : c ∉ ['\x60', '\x27', ',', '(', ')'] := fun hmem => by
    rw [hmarks c hmem] at hdigit
    cases hdigit
  simp only [List.mem_cons, List.not_mem_nil, or_false, not_or] at hplain
  obtain ⟨hbacktick, hquote, hcomma, hleft, hright⟩ := hplain
  simp [Reading.doubling, listMarks, hbacktick, hquote, hcomma, hleft, hright]

/-- A type with a number is left whole. -/
lemma passes_sized (hname : Reading.doubling.Passes itemMarks name) (n : Nat) :
    Reading.doubling.Passes itemMarks (sized name n) :=
  passes_parentheses rfl hname ((passes_toString n).mono (by decide))

/-- A type with its digits is left whole: the comma between them stands in parentheses. -/
lemma passes_scaled (hname : Reading.doubling.Passes itemMarks name) (total places : Option Nat) :
    Reading.doubling.Passes itemMarks (scaled name total places) := by
  unfold scaled
  split
  · rename_i total places
    have hcomma : Reading.doubling.Passes [')'] ", " := by decide
    have hassoc : name ++ "(" ++ toString total ++ ", " ++ toString places ++ ")" =
        name ++ "(" ++ (toString total ++ ", " ++ toString places) ++ ")" := by
      simp only [String.append_assoc]
    rw [hassoc]
    exact passes_parentheses rfl hname
      ((((passes_toString total).mono (by decide)).append hcomma).append
        ((passes_toString places).mono (by decide)))
  · exact hname

/-- A string literal is left whole. -/
lemma passes_quoteString (s : String) : Reading.doubling.Passes listMarks (quoteString s) :=
  .encode (by decide) (by decide) (.inl rfl)

/-- A time stamp is left whole. -/
lemma passes_timestampType (precision : Nat) (useCurrent : Bool) :
    Reading.doubling.Passes itemMarks (timestampType precision useCurrent) := by
  refine .append (passes_sized (by decide) precision) ?_
  cases useCurrent <;> decide

/-- The type of a column is left whole. -/
lemma passes_typeText (stringLength : Nat) (type : ColumnType) :
    Reading.doubling.Passes itemMarks (typeText stringLength type) := by
  cases type with
  | char length => exact passes_sized (by decide) _
  | string length => exact passes_sized (by decide) _
  | float total places => exact passes_scaled (by decide) total places
  | double total places => exact passes_scaled (by decide) total places
  | decimal total places => exact passes_scaled (by decide) total places
  | enumeration allowed =>
    have hopening : "ENUM(" = "ENUM" ++ "(" := by decide
    have hword : Reading.doubling.Passes itemMarks "ENUM" := by decide
    refine passes_parentheses hopening hword (.join (by decide) fun literal hliteral => ?_)
    obtain ⟨value, -, rfl⟩ := List.mem_map.mp hliteral
    exact (passes_quoteString value).mono (by decide)
  | dateTime precision => exact passes_sized (by decide) precision
  | dateTimeTz precision => exact passes_sized (by decide) precision
  | timestamp precision useCurrent => exact passes_timestampType precision useCurrent
  | timestampTz precision useCurrent => exact passes_timestampType precision useCurrent
  -- The types without parameters are fixed words.
  | _ =>
    rw [typeText]
    decide

/-! ## Definitions -/

variable {column : Column} {modifier : Modifier}

/-- A default that is no expression is left whole. -/
lemma passes_default {value : DefaultValue} (h : ∀ fragment, value ≠ .fragment fragment) :
    Reading.doubling.Passes itemMarks value.toSql := by
  cases value with
  | fragment fragment => exact absurd rfl (h fragment)
  | null => decide
  | bool on => cases on <;> decide
  | int i => exact (passes_quoteString _).mono (by decide)
  | float f => exact (passes_quoteString _).mono (by decide)
  | text s => exact (passes_quoteString _).mono (by decide)

/-- What a modifier writes for a column of quoted texts is left whole. -/
lemma passes_render (hquoted : column.isQuoted = true)
    (h : modifier.render (naming tablePrefix) column = .ok (some text)) :
    Reading.doubling.Passes itemMarks text := by
  obtain ⟨hcharset, hcollation, hvirtual, hstored, hdefault⟩ := Column.lacks_of_isQuoted hquoted
  cases modifier with
  | virtualAs => simp [Modifier.render, Modifier.written?, hvirtual] at h
  | storedAs => simp [Modifier.render, Modifier.written?, hstored] at h
  | charset => simp [Modifier.render, hcharset] at h
  | collation => simp [Modifier.render, Modifier.written?, hcollation] at h
  | unsigned =>
    simp only [Modifier.render] at h
    split at h
    · cases h
    · split at h
      · split at h
        · cases h
          decide
        · cases h
      · cases h
  | nullable =>
    simp only [Modifier.render] at h
    split at h
    · cases h
    · split at h
      · cases h
        decide
      · cases h
        decide
  | defaultValue =>
    simp only [Modifier.render, Except.ok.injEq, Option.map_eq_some_iff] at h
    obtain ⟨value, hvalue, rfl⟩ := h
    have hword : Reading.doubling.Passes itemMarks " DEFAULT " := by decide
    exact hword.append (passes_default fun fragment heq => hdefault fragment (heq ▸ hvalue))
  | autoIncrement =>
    simp only [Modifier.render] at h
    split at h
    · cases h
      decide
    · cases h
  | comment =>
    simp only [Modifier.render, Except.ok.injEq, Option.map_eq_some_iff] at h
    obtain ⟨comment, -, rfl⟩ := h
    have hword : Reading.doubling.Passes itemMarks " COMMENT " := by decide
    exact hword.append ((passes_quoteString comment).mono (by decide))
  | after =>
    simp only [Modifier.render, Except.ok.injEq, Option.map_eq_some_iff] at h
    obtain ⟨name, -, rfl⟩ := h
    have hword : Reading.doubling.Passes itemMarks " AFTER " := by decide
    exact hword.append ((passes_wrap name).mono (by decide))
  | first =>
    simp only [Modifier.render] at h
    split at h
    · cases h
      decide
    · cases h

/-- The text of a modifier is left whole. -/
lemma passes_fragment (hquoted : column.isQuoted = true)
    (h : modifier.fragment (naming tablePrefix) column = .ok text) :
    Reading.doubling.Passes itemMarks text := by
  rcases Modifier.fragment_cases h with rfl | hwritten
  · exact .nil
  · exact passes_render hquoted hwritten

/-- A text is left whole as an item of a list in parentheses. -/
structure IsListItem (text : String) : Prop where
  passes : Reading.doubling.Passes itemMarks text
  flush : Text.isFlush text = true

namespace IsListItem

lemma append {more : String} (h : IsListItem text)
    (hmore : Reading.doubling.Passes itemMarks more) : IsListItem (text ++ more) :=
  ⟨h.passes.append hmore, Text.isFlush_append h.flush more⟩

lemma isItem (h : IsListItem text) : Reading.doubling.IsItem ',' text :=
  ⟨h.passes.mono (by decide), h.flush⟩

/-- Parentheses behind an item belong to it. -/
lemma parentheses {opening inner : String} (h : IsListItem text)
    (hopening : opening = text ++ "(") (hinner : Reading.doubling.Passes [')'] inner) :
    IsListItem (opening ++ inner ++ ")") := by
  refine ⟨passes_parentheses hopening h.passes hinner, ?_⟩
  rw [hopening]
  exact Text.isFlush_append (Text.isFlush_append (Text.isFlush_append h.flush _) _) _

end IsListItem

/-- Modifiers that are written behind a text are left whole with it. -/
lemma isListItem_append (hquoted : column.isQuoted = true) {modifiers : List Modifier}
    {sql : String} (hsql : IsListItem sql)
    (h : Modifier.append (naming tablePrefix) column modifiers sql = .ok text) :
    IsListItem text := by
  induction modifiers generalizing sql with
  | nil =>
    cases h
    exact hsql
  | cons modifier modifiers ih =>
    rw [Modifier.append] at h
    split at h
    · cases h
    · rename_i fragment hfragment
      exact ih (hsql.append (passes_fragment hquoted hfragment)) h

/-- The definition of a column of quoted texts is left whole. -/
lemma isListItem_definition {stringLength : Nat} (hquoted : column.isQuoted = true)
    (h : (columnWriter tablePrefix stringLength).definition column = .ok text) :
    IsListItem text := by
  have hname : IsListItem ((naming tablePrefix).wrap column.name) :=
    ⟨(passes_wrap _).mono (by decide), isFlush_wrap _⟩
  have hblank : Reading.doubling.Passes itemMarks " " := by decide
  exact isListItem_append hquoted ((hname.append hblank).append (passes_typeText _ _)) h

/-- An index inside the creation of its table is left whole. -/
lemma isListItem_inlineIndex {command : Command}
    (h : inlineIndex (naming tablePrefix) command = some text) : IsListItem text := by
  have hnamed : ∀ {keyword : String} (index : IndexCommand), IsListItem keyword →
      IsListItem (keyword ++ (naming tablePrefix).wrap index.index ++ " (" ++
        (naming tablePrefix).columnList index.columns ++ ")") := by
    intro keyword index hkeyword
    have hblank : Reading.doubling.Passes itemMarks " " := by decide
    have hwrap : Reading.doubling.Passes itemMarks ((naming tablePrefix).wrap index.index) :=
      (passes_wrap index.index).mono (by decide)
    have hname := (hkeyword.append hwrap).append hblank
    have hopening : keyword ++ (naming tablePrefix).wrap index.index ++ " (" =
        keyword ++ (naming tablePrefix).wrap index.index ++ " " ++ "(" := by
      have hwords : " (" = " " ++ "(" := by decide
      rw [hwords]
      simp only [String.append_assoc]
    exact hname.parentheses hopening (passes_columnList _)
  cases command with
  | primary index =>
    simp only [inlineIndex] at h
    split at h
    · cases h
      have hkeyword : IsListItem "PRIMARY KEY " := ⟨by decide, by decide⟩
      exact hkeyword.parentheses (by decide) (passes_columnList _)
    · cases h
  | unique index =>
    simp only [inlineIndex] at h
    split at h
    · cases h
      exact hnamed index ⟨by decide, by decide⟩
    · cases h
  | index index =>
    simp only [inlineIndex] at h
    split at h
    · cases h
      exact hnamed index ⟨by decide, by decide⟩
    · cases h
  | _ => cases h

/-! ## Lists -/

variable {stringLength : Nat} {b : Blueprint} {settings : Settings}

/-- The definitions of columns of quoted texts are left whole. -/
lemma isListItem_definitions {columns : List Column} {definitions : List String}
    (hquoted : ∀ column ∈ columns, column.isQuoted = true)
    (h : List.Forall₂ (fun column sql =>
      (columnWriter tablePrefix stringLength).definition column = .ok sql) columns definitions) :
    ∀ sql ∈ definitions, IsListItem sql := by
  induction h with
  | nil => exact List.forall_mem_nil _
  | cons hsql _ ih =>
    rw [List.forall_mem_cons] at hquoted ⊢
    exact ⟨isListItem_definition hquoted.1 hsql, ih hquoted.2⟩

/-- The indexes inside the creation of a table are those of the columns that ask for one, one each
and in their order. -/
lemma inlineIndexes_of_asking (hcreating : b.isCreating = true) :
    List.Forall₂ (fun column sql => ∃ role, column.keyRole? = some role ∧
        inlineIndex (naming tablePrefix) (b.keyCommand column role) = some sql)
      (b.columns.filter Column.asksForKey)
      (b.fluentIndexes.filterMap (inlineIndex (naming tablePrefix))) := by
  have hinline : ∀ (column : Column) (role : KeyRole), ∃ sql,
      inlineIndex (naming tablePrefix) (b.keyCommand column role) = some sql := by
    intro column role
    cases role <;> exact ⟨_, if_pos hcreating⟩
  have hcommands := b.fluentIndexes_of_asking
  generalize b.columns.filter Column.asksForKey = columns, b.fluentIndexes = commands
    at hcommands ⊢
  induction hcommands with
  | nil => exact .nil
  | cons hcommand _ ih =>
    obtain ⟨role, hrole, rfl⟩ := hcommand
    obtain ⟨sql, hsql⟩ := hinline _ role
    rw [List.filterMap_cons, hsql]
    exact .cons ⟨role, hrole, hsql⟩ ih

/-- The indexes inside the creation of a table are left whole. -/
lemma isListItem_inlineIndexes {commands : List Command} :
    ∀ sql ∈ commands.filterMap (inlineIndex (naming tablePrefix)), IsListItem sql := by
  intro sql hsql
  obtain ⟨command, -, hcommand⟩ := List.mem_filterMap.mp hsql
  exact isListItem_inlineIndex hcommand

/-- No parenthesis opens in front of the body of a created table. -/
lemma passes_createHead : Reading.doubling.Passes ['('] (createHead tablePrefix b) := by
  have hverb : Reading.doubling.Passes ['(']
      (if b.temporary then "CREATE TEMPORARY" else "CREATE") := by
    split <;> decide
  have hword : Reading.doubling.Passes ['('] " TABLE " := by decide
  have hblank : Reading.doubling.Passes ['('] " " := by decide
  exact ((hverb.append hword).append ((passes_wrapTable b.table).mono (by decide))).append hblank

/-- For columns without texts that are written as they are, and whatever their names, values,
defaults and comments are, a reader of quoted texts and parentheses finds in the body of a created
table the definition of every added column and then one index for every column that asks for one,
and behind the name of an altered table one addition for every added column. -/
theorem columnLists_keep_shape (hquoted : ∀ column ∈ b.addedColumns, column.isQuoted = true) :
    (b.isCreating = true → ∀ result,
      (Grammar.mysql tablePrefix stringLength).compileCommand b .create settings = .ok result →
        ∃ sql body rest definitions keys, result = some sql ∧
          Reading.doubling.body? sql = some (createHead tablePrefix b, body, rest) ∧
          Reading.doubling.items ',' body = definitions ++ keys ∧
          List.Forall₂ (fun column sql =>
            (columnWriter tablePrefix stringLength).definition column = .ok sql)
              b.addedColumns definitions ∧
          List.Forall₂ (fun column sql => ∃ role, column.keyRole? = some role ∧
            inlineIndex (naming tablePrefix) (b.keyCommand column role) = some sql)
              (b.columns.filter Column.asksForKey) keys) ∧
    ∀ result,
      (Grammar.mysql tablePrefix stringLength).compileCommand b .add settings = .ok result →
        (result = none ↔ b.addedColumns = []) ∧
        ∀ sql, result = some sql → ∃ list definitions,
          sql = "ALTER TABLE " ++ (naming tablePrefix).wrapTable b.table ++ " " ++ list ∧
          Reading.doubling.items ',' list = definitions.map ("ADD " ++ ·) ∧
          List.Forall₂ (fun column sql =>
            (columnWriter tablePrefix stringLength).definition column = .ok sql)
              b.addedColumns definitions := by
  refine ⟨fun hcreating result hresult => ?_, fun result hresult => ?_⟩
  · obtain ⟨definitions, hcolumns, rfl⟩ := compile_create hresult
    have hkeys : List.Forall₂ (fun column sql => ∃ role, column.keyRole? = some role ∧
        inlineIndex (naming tablePrefix) (b.keyCommand column role) = some sql)
          (b.columns.filter Column.asksForKey)
          (b.fluentIndexes.filterMap (inlineIndex (naming tablePrefix))) :=
      inlineIndexes_of_asking hcreating
    have hlist : ∀ sql ∈
        definitions ++ b.fluentIndexes.filterMap (inlineIndex (naming tablePrefix)),
          IsListItem sql :=
      List.forall_mem_append.mpr
        ⟨isListItem_definitions hquoted hcolumns, isListItem_inlineIndexes⟩
    have hbody : Reading.doubling.Passes [')'] (Text.join ", "
        (definitions ++ b.fluentIndexes.filterMap (inlineIndex (naming tablePrefix)))) :=
      .join (by decide) fun sql hsql => (hlist sql hsql).passes.mono (by decide)
    exact ⟨_, _, _, definitions, _, rfl, Reading.body?_of_passes passes_createHead hbody _,
      Reading.items_join (by decide) fun sql hsql => (hlist sql hsql).isItem, hcolumns, hkeys⟩
  · obtain ⟨definitions, hcolumns, ⟨hnil, rfl⟩ | ⟨hne, rfl⟩⟩ := compile_add hresult
    · exact ⟨⟨fun _ => hnil, fun _ => rfl⟩, fun sql hsql => (nomatch hsql)⟩
    · refine ⟨⟨fun hnone => (nomatch hnone), fun hnil => absurd hnil hne⟩, ?_⟩
      rintro sql ⟨⟩
      have hadd : Naming.prependWord "ADD" definitions = definitions.map ("ADD " ++ ·) := by
        have hword : "ADD" ++ " " = "ADD " := by decide
        rw [Naming.prependWord, hword]
      refine ⟨_, definitions, rfl, ?_, hcolumns⟩
      rw [hadd]
      refine Reading.items_join (by decide) fun item hitem => ?_
      obtain ⟨sql, hsql, rfl⟩ := List.mem_map.mp hitem
      have hword : IsListItem "ADD " := ⟨by decide, by decide⟩
      exact (hword.append (isListItem_definitions hquoted hcolumns sql hsql).passes).isItem

/-- A created table whose names, values, default and comment are full of quotes, commas and
parentheses. -/
def crowdedSample : Blueprint :=
  { Blueprint.ofTable "t\x60(" with
    columns :=
      [{ Column.ofType "a\x60, b" (.enumeration ["x'),(", ";"]) with
          comment := some "it's ("
          unique := some (.enabled true) },
        { Column.ofType "c" (.decimal (some 8) (some 2)) with
          defaultValue := some (.text "',')")
          after := some "a\x60, b" }]
    commands := [.create] }

/-- Its body has two definitions and one index, and its additions are two. -/
theorem columnLists_keep_shape_crowded :
    ((∀ column ∈ crowdedSample.addedColumns, column.isQuoted = true) ∧
      crowdedSample.isCreating = true) ∧
    (∃ sql body rest, (Grammar.mysql "p)" defaultStringLength).compileCommand crowdedSample .create
        Settings.empty = .ok (some sql) ∧
      Reading.doubling.body? sql = some (createHead "p)" crowdedSample, body, rest) ∧
      (Reading.doubling.items ',' body).length = 3) ∧
    ∃ list, (Grammar.mysql "p)" defaultStringLength).compileCommand crowdedSample .add
        Settings.empty = .ok (some
          ("ALTER TABLE " ++ (naming "p)").wrapTable crowdedSample.table ++ " " ++ list)) ∧
      (Reading.doubling.items ',' list).length = 2 := by
  have hquoted : ∀ column ∈ crowdedSample.addedColumns, column.isQuoted = true := by decide
  obtain ⟨hcreate, hadd⟩ := @columnLists_keep_shape "p)" defaultStringLength crowdedSample
    Settings.empty hquoted
  refine ⟨⟨hquoted, by decide⟩, ?_, ?_⟩
  · obtain ⟨sql, body, rest, definitions, keys, hsql, hbody, hitems, hdefinitions, hkeys⟩ :=
      hcreate (by decide) _ rfl
    refine ⟨sql, body, rest, congrArg Except.ok hsql, hbody, ?_⟩
    rw [hitems, List.length_append, ← hdefinitions.length_eq, ← hkeys.length_eq]
    decide
  · obtain ⟨-, hlist⟩ := hadd _ rfl
    obtain ⟨list, definitions, hsql, hitems, hdefinitions⟩ := hlist _ rfl
    refine ⟨list, congrArg (fun sql => Except.ok (some sql)) hsql, ?_⟩
    rw [hitems, List.length_map, ← hdefinitions.length_eq]
    decide

end MySql

end SchemaLedger
