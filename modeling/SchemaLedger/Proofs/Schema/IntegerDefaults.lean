import SchemaLedger.Proofs.Grammar.ColumnChange
import SchemaLedger.Proofs.Grammar.QuotedValues
import SchemaLedger.Proofs.Json.ReplacedMembers
import SchemaLedger.Proofs.Number.ShortestDigits
import SchemaLedger.Schema.Document

/-!
# Integer defaults

A number that is the default of a column in a document is decoded as an integer, if it is one that
fits a signed word of 64 bits, and as a double otherwise (`DefaultValue.ofNumber`).  Nothing else in
the column depends on it (`Column.decode_default`).  In a definition and in a change of the column
it stands as a quoted text: the decimal form of the integer, or that of the double.

So an integer reaches the statements unchanged if it fits a signed word.  Any other integer that the
reader accepts becomes a double first, and unless it ends in a zero, it loses its last digits
(`integerDefaults`).  Unsigned words are among these integers (`integerDefault_greatestWord`).
-/

namespace SchemaLedger

open Json

variable {number : Number} {source : Source} {before behind : List (Key × Json)}

/-! ## Decoding -/

/-- The default value that a number stands for: an integer that fits a signed word of 64 bits, and
otherwise a double. -/
def DefaultValue.ofNumber : Number → DefaultValue
  | .int i => if i < twoPow 63 then .int i else .float (.ofQuotient (i < 0) i.natAbs 1)
  | .float f => .float f

/-- A number is decoded to the default value that it stands for. -/
lemma DefaultValue.decode_number (number : Number) :
    DefaultValue.decode source (.number number) = .ok (.ofNumber number) := by
  cases number with
  | float f => rfl
  | int i =>
    by_cases hword : i < twoPow 63 <;>
      simp [decode, firstOf, check, Sql.Fragment.decode, record, nullOnly, boolean, integer, double,
        Except.map, ofNumber, hword]

/-- The attribute that holds the default. -/
def Column.defaultField : RecordField Column :=
  .optional "default" DefaultValue.decode fun value column => column.setDefault value

/-- The value of the attribute becomes the default, if it is one. -/
lemma Column.store_default (value : Json) (column : Column) :
    Column.defaultField.store source value column =
      (DefaultValue.decode source value).map column.setDefault := by
  simp only [Column.defaultField, RecordField.optional, RecordField.storeWith]
  cases DefaultValue.decode source value <;> rfl

/-- Every other attribute is stored whether the default is set before or after. -/
lemma Column.passes_setDefault (value : DefaultValue) :
    ∀ field ∈ Column.fields, field.name ≠ "default" →
      field.Passes (·.setDefault value) source := by
  unfold Column.fields
  simp only [List.forall_mem_cons, List.not_mem_nil, IsEmpty.forall_iff, implies_true, and_true]
  and_intros
  all_goals intro hname
  -- Only the field that has the name itself sets the default.
  all_goals first
    | exact absurd rfl hname
    | exact passes_of_set rfl fun _ _ => rfl

/-- A column with a number as its default is decoded to the column with the default `NULL`, but with
the default value that the number stands for. -/
theorem Column.decode_default (number : Number) :
    Column.decode source (.object (before ++ (.name "default", .number number) :: behind)) =
      (Column.decode source (.object (before ++ (.name "default", .null) :: behind))).map
        (·.setDefault (.ofNumber number)) := by
  have hfind : Column.fields.find? (·.accepts "default") = some Column.defaultField := rfl
  have hstore : ∀ column, Column.defaultField.store source (.number number) column =
      (Column.defaultField.store source .null column).map (·.setDefault (.ofNumber number)) := by
    intro column
    rw [Column.store_default, Column.store_default, DefaultValue.decode_number]
    rfl
  rw [Column.decode, Column.decode,
    recordOfMembers_replaced hfind hstore (Column.passes_setDefault _)]
  cases recordOfMembers Column.fields hold (Column.ofType "" .text) source
      (before ++ (.name "default", .null) :: behind) with
  | error e => rfl
  | ok decoded =>
    simp only [Except.map]
    cases ColumnType.decode decoded.2 <;> rfl

/-! ## Clauses -/

/-- The text that a number leaves between the quotes of a default. -/
def DefaultValue.decimal : Number → String
  | .int i => if i < twoPow 63 then toString i else (Binary64.ofQuotient (i < 0) i.natAbs 1).toText
  | .float f => f.toText

/-- A number is written as a text in quotes. -/
lemma DefaultValue.toSql_ofNumber (number : Number) :
    (ofNumber number).toSql = Sql.quoteString (decimal number) := by
  cases number with
  | float f => rfl
  | int i =>
    rw [ofNumber, decimal]
    split <;> rfl

/-- An integer stands between single quotes as it is. -/
lemma quoteString_toString (n : Int) :
    Sql.quoteString (toString n) = "\x27" ++ toString n ++ "\x27" := by
  have hdouble : ∀ cs : List Char, '\x27' ∉ cs → Sql.Quoted.double '\x27' cs = cs := by
    intro cs hcs
    induction cs with
    | nil => rfl
    | cons c cs ih =>
      rw [List.mem_cons, not_or] at hcs
      rw [Sql.Quoted.double, if_neg (Ne.symm hcs.1), ih hcs.2]
  have hquote : '\x27' ∉ (toString n).toList := by
    rw [Numeral.toList_toString, List.mem_append, not_or]
    refine ⟨by split <;> decide, fun hmem => ?_⟩
    exact absurd (isDigit_of_mem_toDigits hmem) (by decide)
  refine String.toList_injective ?_
  rw [Sql.toList_quoteString, Sql.Quoted.encode, hdouble _ hquote]
  simp

section Clauses

variable {tablePrefix sql table block text : String} {stringLength : Nat} {column : Column}
  {value : DefaultValue}

open MySql

/-- What the modifier of the default writes. -/
lemma text?_default (hvalue : column.defaultValue = some value) :
    Modifier.text? (naming tablePrefix) column .defaultValue =
      .ok (some (" DEFAULT " ++ value.toSql)) := by
  simp [Modifier.text?, Modifier.isPresent, Modifier.render, hvalue]

/-- A change of a column passes the clause of the default in its place. -/
lemma changeColumn_default (hvalue : column.defaultValue = some value)
    (h : changeColumn (columnWriter tablePrefix stringLength) table column = .ok block) :
    ∃ texts, texts .defaultValue = some (" DEFAULT " ++ value.toSql) ∧
      block = alterColumnCall table column.name
        ((changeTexts stringLength column texts).map nameArgument) := by
  obtain ⟨texts, htexts, hblock⟩ := changeColumn_eq_ok h
  refine ⟨texts, ?_, hblock⟩
  have hdefault := htexts .defaultValue (by decide)
  rw [text?_default hvalue, Except.ok.injEq] at hdefault
  exact hdefault.symm

end Clauses

/-! ## Integers -/

/-- A signed word of 64 bits is written as itself. -/
lemma decimal_of_word {n : Int} (hread : (Document.ofText (toString n)).root = .number number)
    (hlow : -(twoPow 63 : Int) ≤ n) (hhigh : n < twoPow 63) :
    DefaultValue.decimal number = toString n := by
  have hwords : twoPow 64 = 2 * twoPow 63 := rfl
  have hvalue := Numeral.value_ofInt hlow (by omega)
  rw [root_ofText_integer.mp hread, Option.some.injEq] at hvalue
  rw [hvalue, DefaultValue.decimal, if_pos hhigh]

/-- Any other integer is written as the double that it becomes. -/
lemma exists_decimal_of_not_word {n : Int}
    (hread : (Document.ofText (toString n)).root = .number number)
    (h : ¬ (-(twoPow 63 : Int) ≤ n ∧ n < twoPow 63)) :
    ∃ f, DefaultValue.ofNumber number = .float f ∧ DefaultValue.decimal number = f.toText := by
  have hvalue := root_ofText_integer.mp hread
  by_cases hword : -(twoPow 63 : Int) ≤ n ∧ n < twoPow 64
  · rw [Numeral.value_ofInt hword.1 hword.2, Option.some.injEq] at hvalue
    have hhigh : ¬ n < twoPow 63 := fun hhigh => h ⟨hword.1, hhigh⟩
    rw [← hvalue, DefaultValue.ofNumber, DefaultValue.decimal, if_neg hhigh, if_neg hhigh]
    exact ⟨_, rfl, rfl⟩
  · obtain ⟨f, rfl⟩ := Numeral.exists_float_of_value hword hvalue
    exact ⟨f, rfl, rfl⟩

/-- An integer that the reader accepts is the default of a column as follows.

Wherever its canonical decimal form stands in a document, it is read as the same number.  A column
with this number as its default is decoded to what it is decoded to with the default `NULL`, but
with the default value that the number stands for.  In the definition of the column and in a change
of it, the clause of the default holds one quoted text.

This text is the decimal form of the integer, if the integer fits a signed word of 64 bits.  For any
other integer it is the text of a double, and that is not the decimal form of the integer, unless
the integer ends in a zero. -/
theorem integerDefaults {n : Int} (hread : (Document.ofText (toString n)).root = .number number) :
    (∀ fuel rest, Numeral.EndsBefore rest →
      readValue (fuel + 1) ((toString n).toList ++ rest) = (.number number, some rest)) ∧
    (∀ source before behind,
      Column.decode source (.object (before ++ (.name "default", .number number) :: behind)) =
        (Column.decode source (.object (before ++ (.name "default", .null) :: behind))).map
          (·.setDefault (.ofNumber number))) ∧
    (∀ tablePrefix stringLength (column : Column),
      column.defaultValue = some (.ofNumber number) →
      MySql.Modifier.fragment (MySql.naming tablePrefix) column .defaultValue =
        .ok (" DEFAULT " ++ Sql.quoteString (DefaultValue.decimal number)) ∧
      MySql.changeArgument (MySql.naming tablePrefix) column .defaultValue =
        .ok (Json.quote (" DEFAULT " ++ Sql.quoteString (DefaultValue.decimal number))) ∧
      (∀ sql, (MySql.columnWriter tablePrefix stringLength).definition column = .ok sql →
        MySql.HoldsLiteral tablePrefix stringLength column sql .defaultValue " DEFAULT "
          (DefaultValue.decimal number)) ∧
      ∀ table block,
        MySql.changeColumn (MySql.columnWriter tablePrefix stringLength) table column = .ok block →
        ∃ texts, texts .defaultValue =
            some (" DEFAULT " ++ Sql.quoteString (DefaultValue.decimal number)) ∧
          block = MySql.alterColumnCall table column.name
            ((MySql.changeTexts stringLength column texts).map MySql.nameArgument)) ∧
    (-(twoPow 63 : Int) ≤ n → n < twoPow 63 →
      Sql.quoteString (DefaultValue.decimal number) = "\x27" ++ toString n ++ "\x27") ∧
    (¬ (-(twoPow 63 : Int) ≤ n ∧ n < twoPow 63) → n.natAbs % 10 ≠ 0 →
      ∃ f, DefaultValue.ofNumber number = .float f ∧ DefaultValue.decimal number = f.toText ∧
        f.toText ≠ toString n) := by
  have hvalue := root_ofText_integer.mp hread
  refine ⟨fun fuel rest hrest => readValue_integer hvalue fuel hrest,
    fun source before behind => Column.decode_default number,
    fun tablePrefix stringLength column hdefault => ?_, fun hlow hhigh => ?_, fun hout hlast => ?_⟩
  · have htext := @text?_default tablePrefix _ _ hdefault
    rw [DefaultValue.toSql_ofNumber] at htext
    have hfragment : MySql.Modifier.fragment (MySql.naming tablePrefix) column .defaultValue =
        .ok (" DEFAULT " ++ Sql.quoteString (DefaultValue.decimal number)) := by
      rw [MySql.Modifier.fragment_eq_text?, htext]
      rfl
    refine ⟨hfragment, ?_, fun sql hsql => MySql.holdsLiteral_of_fragment hsql hfragment,
      fun table block hblock => ?_⟩
    · rw [MySql.Modifier.changeArgument_eq_text?, htext]
      rfl
    · rw [← DefaultValue.toSql_ofNumber]
      exact changeColumn_default hdefault hblock
  · rw [decimal_of_word hread hlow hhigh, quoteString_toString]
  · obtain ⟨f, hfloat, hdecimal⟩ := exists_decimal_of_not_word hread hout
    refine ⟨f, hfloat, hdecimal, f.toText_ne_toString ?_ hlast⟩
    have hsize : tenPow 18 ≤ twoPow 63 := by decide
    omega

/-- A column of big integers with a value as its default. -/
def bigColumn (value : Json) : Json :=
  .object ([(.name "name", .string "c"), (.name "type", .string "bigInteger"),
    (.name "unsigned", .bool true)] ++ (.name "default", value) :: [])

/-- The least signed word of 64 bits reaches the definition of a column and a change of it. -/
theorem integerDefaults_leastWord :
    (Document.ofText (toString (-9223372036854775808 : Int))).root =
      .number (.int (-9223372036854775808)) ∧
    ∃ column, Column.decode .text (bigColumn (.number (.int (-9223372036854775808)))) = .ok column ∧
      MySql.Modifier.fragment (MySql.naming "") column .defaultValue =
        .ok " DEFAULT \x27-9223372036854775808\x27" ∧
      MySql.changeArgument (MySql.naming "") column .defaultValue =
        .ok "\" DEFAULT \x27-9223372036854775808\x27\"" := by
  have hread : (Document.ofText (toString (-9223372036854775808 : Int))).root =
      .number (.int (-9223372036854775808)) :=
    root_ofText_integer.mpr (Numeral.value_ofInt (by decide) (by decide))
  obtain ⟨-, hdecode, hclause, hword, -⟩ := integerDefaults hread
  have hcolumn : Column.decode .text (bigColumn .null) =
      .ok ((Column.ofType "c" .bigInteger).setUnsigned.setDefault .null) := by
    rfl
  have hnumber : Column.decode .text (bigColumn (.number (.int (-9223372036854775808)))) =
      (Column.decode .text (bigColumn .null)).map _ := hdecode .text _ []
  obtain ⟨hadd, hchange, -⟩ := hclause "" MySql.defaultStringLength
    ((Column.ofType "c" .bigInteger).setUnsigned.setDefault _) rfl
  rw [hword (by decide) (by decide)] at hadd hchange
  rw [hcolumn] at hnumber
  exact ⟨hread, _, hnumber, hadd, hchange⟩

/-- The greatest unsigned word of 64 bits is read as itself, but in the definition of a column that
can hold it, and in a change of the column, it stands with other digits. -/
theorem integerDefault_greatestWord :
    (Document.ofText (toString (18446744073709551615 : Int))).root =
      .number (.int 18446744073709551615) ∧
    ∃ column, Column.decode .text (bigColumn (.number (.int 18446744073709551615))) = .ok column ∧
      MySql.Modifier.fragment (MySql.naming "") column .defaultValue =
        .ok " DEFAULT \x2718446744073709552000\x27" ∧
      MySql.changeArgument (MySql.naming "") column .defaultValue =
        .ok "\" DEFAULT \x2718446744073709552000\x27\"" ∧
      "\x2718446744073709552000\x27" ≠
        Sql.quoteString (toString (18446744073709551615 : Int)) := by
  refine ⟨root_ofText_integer.mpr (Numeral.value_ofInt (by decide) (by decide)), _, rfl, ?_, ?_, ?_⟩
  · decide +kernel
  · decide +kernel
  · decide +kernel

end SchemaLedger
