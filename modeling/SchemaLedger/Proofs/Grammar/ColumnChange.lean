import SchemaLedger.Grammar.MySql
import SchemaLedger.Proofs.Grammar.FirstWord
import SchemaLedger.Proofs.Json.WrittenStrings

/-!
# Changes of columns

A column that is added is written with all its modifiers, and a column that is changed is written as
a call whose arguments are its new name, its type and the texts of five modifiers
(`Modifier.carried`).  The arguments can be read off the call (`alterColumnCall_inj`), so the
changes of two columns of one name and type are equal exactly if these five texts are
(`changeColumn_distinguishes`).  The other six modifiers are lost: a change to an unsigned column is
the change to a signed one (`changeColumn_unsigned`).
-/

namespace SchemaLedger.MySql

/-! ## Arguments of a change -/

/-- Arguments are told apart, whatever follows them: a text begins with a quote, and `NULL` does
not. -/
lemma nameArgument_append_inj {a b : Option String} {rest rest' : List Char}
    (h : (nameArgument a).toList ++ rest = (nameArgument b).toList ++ rest') :
    a = b ∧ rest = rest' := by
  cases a with
  | none =>
    cases b with
    | none => exact ⟨rfl, List.append_cancel_left h⟩
    | some b => simp [nameArgument] at h
  | some a =>
    cases b with
    | none => simp [nameArgument] at h
    | some b =>
      obtain ⟨rfl, hrest⟩ := Json.quote_append_inj h
      exact ⟨rfl, hrest⟩

/-- Rows of equally many arguments are told apart. -/
lemma join_nameArgument_inj {as bs : List (Option String)} (hlength : as.length = bs.length)
    (h : Text.join ", " (as.map nameArgument) = Text.join ", " (bs.map nameArgument)) :
    as = bs := by
  induction as generalizing bs with
  | nil => exact (List.length_eq_zero_iff.mp hlength.symm).symm
  | cons a as ih =>
    cases bs with
    | nil => cases hlength
    | cons b bs =>
      have hlength' : as.length = bs.length := Nat.succ.inj hlength
      cases as with
      | nil =>
        obtain rfl := List.length_eq_zero_iff.mp hlength'.symm
        have hargument : (nameArgument a).toList ++ [] = (nameArgument b).toList ++ [] :=
          congrArg (fun text => text.toList ++ []) h
        rw [(nameArgument_append_inj hargument).1]
      | cons a' as =>
        cases bs with
        | nil => cases hlength'
        | cons b' bs =>
          have hchars := congrArg String.toList h
          simp only [List.map_cons, Text.join, String.toList_append, List.append_assoc] at hchars
          obtain ⟨rfl, hrest⟩ := nameArgument_append_inj hchars
          have hjoin := String.toList_inj.mp (List.append_cancel_left hrest)
          rw [ih hlength' hjoin]

/-- The arguments of a change can be read off it. -/
lemma alterColumnCall_inj {table column : String} {as bs : List (Option String)}
    (hlength : as.length = bs.length)
    (h : alterColumnCall table column (as.map nameArgument) =
      alterColumnCall table column (bs.map nameArgument)) : as = bs := by
  unfold alterColumnCall at h
  exact join_nameArgument_inj hlength
    ((String.append_right_inj _).mp ((String.append_left_inj _).mp h))

/-! ## Texts of modifiers -/

namespace Modifier

variable {naming : Naming} {c c₁ c₂ : Column} {modifier : Modifier}

/-- The modifiers whose texts are arguments of a change. -/
def carried : List Modifier := [.charset, .collation, .nullable, .defaultValue, .comment]

/-- What a modifier writes for a column, if anything. -/
def text? (naming : Naming) (column : Column) (modifier : Modifier) :
    Except SchemaError (Option String) :=
  if modifier.isPresent column then modifier.render naming column else .ok none

/-- No modifier writes an empty text. -/
lemma text?_ne_empty : modifier.text? naming c ≠ .ok (some "") := by
  intro h
  unfold text? at h
  split at h
  · -- These four decide whether to write by tests of their own; the others map an attribute.
    cases modifier
    case unsigned | charset | collation | nullable =>
      simp only [render] at h
      repeat' split at h
      all_goals simp at h
    all_goals simp [render] at h
  · cases h

/-- What an addition writes for a modifier. -/
lemma fragment_eq_text? :
    modifier.fragment naming c = (modifier.text? naming c).map (·.getD "") := by
  unfold fragment text?
  split
  · cases modifier.render naming c <;> rfl
  · rfl

/-- What a change passes for a modifier. -/
lemma changeArgument_eq_text? :
    changeArgument naming c modifier = (modifier.text? naming c).map nameArgument := by
  unfold changeArgument text?
  split
  · rcases modifier.render naming c with e | _ | text <;> rfl
  · rfl

/-- A change passes the text of a modifier that can be written. -/
lemma text?_of_changeArgument {argument : String}
    (h : changeArgument naming c modifier = .ok argument) :
    ∃ text, modifier.text? naming c = .ok text ∧ nameArgument text = argument := by
  rw [changeArgument_eq_text?] at h
  cases htext : modifier.text? naming c with
  | error e =>
    rw [htext] at h
    cases h
  | ok text =>
    rw [htext] at h
    cases h
    exact ⟨text, rfl, rfl⟩

/-- A text that is there differs from one that is not, unless it is empty. -/
lemma map_getD_inj {a b : Except SchemaError (Option String)} (ha : a ≠ .ok (some ""))
    (hb : b ≠ .ok (some "")) : a.map (·.getD "") = b.map (·.getD "") ↔ a = b := by
  rcases a with e | _ | text <;> rcases b with e' | _ | text' <;>
    simp_all [Except.map, eq_comm]

/-- An addition tells two columns apart by the texts of their modifiers. -/
lemma fragment_eq_iff : modifier.fragment naming c₁ = modifier.fragment naming c₂ ↔
    modifier.text? naming c₁ = modifier.text? naming c₂ := by
  rw [fragment_eq_text?, fragment_eq_text?]
  exact map_getD_inj text?_ne_empty text?_ne_empty

/-- Columns of which no modifier of a list is told apart are continued alike. -/
lemma append_congr {naming₁ naming₂ : Naming} {modifiers : List Modifier}
    (h : ∀ modifier ∈ modifiers, modifier.fragment naming₁ c₁ = modifier.fragment naming₂ c₂)
    (sql : String) : append naming₁ c₁ modifiers sql = append naming₂ c₂ modifiers sql := by
  induction modifiers generalizing sql with
  | nil => rfl
  | cons modifier modifiers ih =>
    have hrest := ih fun modifier hmem => h modifier (List.mem_cons_of_mem _ hmem)
    rw [append, append, h modifier List.mem_cons_self]
    split
    · rfl
    · exact hrest _

end Modifier

/-! ## Additions and changes -/

variable {tablePrefix table : String} {stringLength : Nat} {c c₁ c₂ : Column}
  {block block₁ block₂ : String}

/-- Columns of one name and type are added alike if no modifier tells them apart. -/
lemma definition_congr (hname : c₁.name = c₂.name) (htype : c₁.type = c₂.type)
    (h : ∀ modifier ∈ Modifier.order, modifier.fragment (naming tablePrefix) c₁ =
      modifier.fragment (naming tablePrefix) c₂) :
    (columnWriter tablePrefix stringLength).definition c₁ =
      (columnWriter tablePrefix stringLength).definition c₂ := by
  have hstart : (columnWriter tablePrefix stringLength).naming.wrap c₁.name ++ " " ++
      typeText stringLength c₁.type =
        (columnWriter tablePrefix stringLength).naming.wrap c₂.name ++ " " ++
          typeText stringLength c₂.type := by
    rw [hname, htype]
  exact (Modifier.append_congr h _).trans (congrArg _ hstart)

/-- The arguments of a change: the new name, the type and the texts of five modifiers, with nothing
in the place of the extras. -/
def changeTexts (stringLength : Nat) (c : Column) (texts : Modifier → Option String) :
    List (Option String) :=
  [c.renameTo, some (typeText stringLength c.type), texts .charset, texts .collation,
    texts .nullable, none, texts .defaultValue, texts .comment]

/-- Columns of one type and new name have the same arguments if the carried texts are the same. -/
lemma changeTexts_eq_iff {texts₁ texts₂ : Modifier → Option String} (htype : c₁.type = c₂.type)
    (hrename : c₁.renameTo = c₂.renameTo) :
    changeTexts stringLength c₁ texts₁ = changeTexts stringLength c₂ texts₂ ↔
      ∀ modifier ∈ Modifier.carried, texts₁ modifier = texts₂ modifier := by
  simp [changeTexts, Modifier.carried, htype, hrename]

/-- A change that compiles passes what the carried modifiers write. -/
lemma changeColumn_eq_ok
    (h : changeColumn (columnWriter tablePrefix stringLength) table c = .ok block) :
    ∃ texts : Modifier → Option String,
      (∀ modifier ∈ Modifier.carried,
        modifier.text? (naming tablePrefix) c = .ok (texts modifier)) ∧
      block = alterColumnCall table c.name
        ((changeTexts stringLength c texts).map nameArgument) := by
  unfold changeColumn at h
  obtain ⟨type, htype, h⟩ := ok_of_bind h
  obtain ⟨charset, hcharset, h⟩ := ok_of_bind h
  obtain ⟨collation, hcollation, h⟩ := ok_of_bind h
  obtain ⟨nullability, hnullability, h⟩ := ok_of_bind h
  obtain ⟨defaultText, hdefault, h⟩ := ok_of_bind h
  obtain ⟨comment, hcomment, h⟩ := ok_of_bind h
  obtain ⟨charset, hcharset', rfl⟩ := Modifier.text?_of_changeArgument hcharset
  obtain ⟨collation, hcollation', rfl⟩ := Modifier.text?_of_changeArgument hcollation
  obtain ⟨nullability, hnullability', rfl⟩ := Modifier.text?_of_changeArgument hnullability
  obtain ⟨defaultText, hdefault', rfl⟩ := Modifier.text?_of_changeArgument hdefault
  obtain ⟨comment, hcomment', rfl⟩ := Modifier.text?_of_changeArgument hcomment
  cases htype
  cases h
  refine ⟨fun
    | .charset => charset
    | .collation => collation
    | .nullable => nullability
    | .defaultValue => defaultText
    | .comment => comment
    | _ => none, ?_, rfl⟩
  simp only [Modifier.carried, List.forall_mem_cons]
  exact ⟨hcharset', hcollation', hnullability', hdefault', hcomment', List.forall_mem_nil _⟩

/-- Two columns of one name, type and new name whose changes compile have equal changes exactly if
additions write the same for the five modifiers that a change carries.  If the other six modifiers
are written alike as well, so are the additions: columns that differ in nothing that is lost have
different changes as soon as they are added differently. -/
theorem changeColumn_distinguishes (hname : c₁.name = c₂.name) (htype : c₁.type = c₂.type)
    (hrename : c₁.renameTo = c₂.renameTo)
    (h₁ : changeColumn (columnWriter tablePrefix stringLength) table c₁ = .ok block₁)
    (h₂ : changeColumn (columnWriter tablePrefix stringLength) table c₂ = .ok block₂) :
    (block₁ = block₂ ↔ ∀ modifier ∈ Modifier.carried,
      modifier.fragment (naming tablePrefix) c₁ = modifier.fragment (naming tablePrefix) c₂) ∧
    ((∀ modifier ∈ Modifier.order, modifier ∉ Modifier.carried →
        modifier.fragment (naming tablePrefix) c₁ = modifier.fragment (naming tablePrefix) c₂) →
      (columnWriter tablePrefix stringLength).definition c₁ ≠
        (columnWriter tablePrefix stringLength).definition c₂ → block₁ ≠ block₂) := by
  obtain ⟨texts₁, hcarried₁, rfl⟩ := changeColumn_eq_ok h₁
  obtain ⟨texts₂, hcarried₂, rfl⟩ := changeColumn_eq_ok h₂
  have htexts : (∀ modifier ∈ Modifier.carried, texts₁ modifier = texts₂ modifier) ↔
      ∀ modifier ∈ Modifier.carried, modifier.fragment (naming tablePrefix) c₁ =
        modifier.fragment (naming tablePrefix) c₂ := by
    refine forall₂_congr fun modifier hmem => ?_
    rw [Modifier.fragment_eq_iff, hcarried₁ modifier hmem, hcarried₂ modifier hmem,
      Except.ok.injEq]
  have hblocks : alterColumnCall table c₁.name
        ((changeTexts stringLength c₁ texts₁).map nameArgument) =
      alterColumnCall table c₂.name ((changeTexts stringLength c₂ texts₂).map nameArgument) ↔
        ∀ modifier ∈ Modifier.carried, modifier.fragment (naming tablePrefix) c₁ =
          modifier.fragment (naming tablePrefix) c₂ := by
    rw [← htexts, ← changeTexts_eq_iff htype hrename, hname]
    exact ⟨alterColumnCall_inj rfl, fun h => by rw [h]⟩
  refine ⟨hblocks, fun hlost hdefinition heq => hdefinition ?_⟩
  refine definition_congr hname htype fun modifier hmem => ?_
  by_cases hcarried : modifier ∈ Modifier.carried
  · exact hblocks.mp heq modifier hcarried
  · exact hlost modifier hmem hcarried

/-- A change of a column to an integer. -/
def changedSample : Column := { Column.ofType "c" .integer with change := some true }

/-- Changes to different comments are different. -/
theorem changeColumn_distinguishes_comment : ∃ block₁ block₂,
    changeColumn (columnWriter "" defaultStringLength) "t"
      { changedSample with comment := some "a" } = .ok block₁ ∧
    changeColumn (columnWriter "" defaultStringLength) "t"
      { changedSample with comment := some "b" } = .ok block₂ ∧
    block₁ ≠ block₂ := by
  obtain ⟨block₁, h₁⟩ : ∃ block, changeColumn (columnWriter "" defaultStringLength) "t"
      { changedSample with comment := some "a" } = .ok block := ⟨_, rfl⟩
  obtain ⟨block₂, h₂⟩ : ∃ block, changeColumn (columnWriter "" defaultStringLength) "t"
      { changedSample with comment := some "b" } = .ok block := ⟨_, rfl⟩
  obtain ⟨-, hdiffer⟩ := changeColumn_distinguishes (by decide) (by decide) (by decide) h₁ h₂
  exact ⟨block₁, block₂, h₁, h₂, hdiffer (by decide) (by decide)⟩

/-- A change to an unsigned integer is the change to a signed one, though the additions of the two
columns differ. -/
theorem changeColumn_unsigned : ∃ block,
    changeColumn (columnWriter "" defaultStringLength) "t"
      { changedSample with unsigned := some true } = .ok block ∧
    changeColumn (columnWriter "" defaultStringLength) "t" changedSample = .ok block ∧
    (columnWriter "" defaultStringLength).definition
      { changedSample with unsigned := some true } = .ok "`c` INT UNSIGNED" ∧
    (columnWriter "" defaultStringLength).definition changedSample = .ok "`c` INT" := by
  refine ⟨_, rfl, ?_, by decide, by decide⟩
  rfl

end SchemaLedger.MySql
