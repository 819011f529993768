import SchemaLedger.Proofs.Grammar.ModifierTexts
import SchemaLedger.Proofs.Sql.QuotedRows

/-!
# Values between quotes

Values of enumerations, defaults and comments stand in definitions between single quotes, with the
quotes inside them doubled.  A reader of such literals, to which a backslash is a character like any
other, gets every one of them back (`quotedValues_read_back`): the row of an enumeration ends in
commas and a parenthesis, and every modifier begins with a blank, so that no quote follows the
literal of a default or a comment.
-/

namespace SchemaLedger.MySql

open Sql

variable {tablePrefix sql : String} {stringLength : Nat} {column : Column} {modifier : Modifier}

/-! ## Literals -/

/-- A string literal is read back, with whatever follows it, unless a quote follows. -/
lemma read_quoteString (s : String) {rest : List Char} (hrest : rest.head? ≠ some '\x27') :
    Quoted.read '\x27' ((quoteString s).toList ++ rest) = some (s.toList, rest) := by
  rw [toList_quoteString]
  exact Quoted.read_encode s.toList hrest

/-- The reader of literals undoes the writing of literals. -/
lemma undoes_quoteString : (Quoted.reader '\x27').Undoes quoteString '\x27' := by
  intro s rest hrest
  rw [toList_quoteString]
  exact Quoted.reader_encode s hrest

/-- The values of an enumeration, read from its type. -/
def enumerationValues? (type : String) : Option (List String) :=
  match type.toList.dropPrefix? "ENUM(".toList with
  | none => none
  | some row =>
    if row = [')'] then some []
    else
      match (Quoted.reader '\x27').readRow ", ".toList row with
      | some (values, [')']) => some values
      | _ => none

/-- The values of an enumeration are read back from its type. -/
lemma enumerationValues?_typeText (allowed : List String) :
    enumerationValues? (typeText stringLength (.enumeration allowed)) = some allowed := by
  have hrow : (typeText stringLength (.enumeration allowed)).toList.dropPrefix? "ENUM(".toList =
      some ((Text.join ", " (allowed.map quoteString)).toList ++ [')']) := by
    refine List.dropPrefix?_eq_some_iff.mpr ⟨"ENUM(".toList, ?_, beq_self_eq_true _⟩
    simp [typeText]
  unfold enumerationValues?
  rw [hrow]
  dsimp only
  cases allowed with
  | nil => rfl
  | cons value more =>
    have hread : (Quoted.reader '\x27').readRow ", ".toList
        ((Text.join ", " ((value :: more).map quoteString)).toList ++ [')']) =
          some (value :: more, [')']) :=
      ItemReader.readRow_join undoes_quoteString (List.cons_ne_nil _ _) (by simp) (by simp)
        (by decide)
    have hsome : (Text.join ", " ((value :: more).map quoteString)).toList ≠ [] := by
      cases more <;> simp [Text.join, Quoted.encode]
    have hne : ¬(Text.join ", " ((value :: more).map quoteString)).toList ++ [')'] = [')'] :=
      fun heq => hsome (List.append_left_eq_self.mp heq)
    rw [if_neg hne, hread]
    rfl

/-! ## Definitions -/

/-- The literal of a text is read back where a modifier writes it into the definition of a column:
behind the name, the type, what the modifiers in front of it write, and some words.  The reader
stops behind the literal, wherever the definition goes on from there. -/
def HoldsLiteral (tablePrefix : String) (stringLength : Nat) (column : Column) (sql : String)
    (modifier : Modifier) (words s : String) : Prop :=
  ∃ front behind,
    Modifier.append (naming tablePrefix) column (Modifier.order.takeWhile (· != modifier))
      ((naming tablePrefix).wrap column.name ++ " " ++ typeText stringLength column.type) =
        .ok front ∧
    sql = front ++ (words ++ quoteString s) ++ behind ∧
    Quoted.read '\x27' (quoteString s ++ behind).toList = some (s.toList, behind.toList)

/-- A modifier that writes words and a literal has its literal read back. -/
lemma holdsLiteral_of_fragment {words s : String}
    (h : (columnWriter tablePrefix stringLength).definition column = .ok sql)
    (hfragment : modifier.fragment (naming tablePrefix) column = .ok (words ++ quoteString s)) :
    HoldsLiteral tablePrefix stringLength column sql modifier words s := by
  have horder : Modifier.order = Modifier.order.takeWhile (· != modifier) ++
      modifier :: (Modifier.order.dropWhile (· != modifier)).tail := by
    cases modifier <;> rfl
  have happend : Modifier.append (naming tablePrefix) column
      (Modifier.order.takeWhile (· != modifier) ++
        modifier :: (Modifier.order.dropWhile (· != modifier)).tail)
      ((naming tablePrefix).wrap column.name ++ " " ++ typeText stringLength column.type) =
        .ok sql := by
    rw [← horder]
    exact h
  obtain ⟨front, text, behind, hfront, htext, hsql, hbehind⟩ := Modifier.append_parts happend
  rw [hfragment] at htext
  cases htext
  refine ⟨front, behind, hfront, hsql, ?_⟩
  have hrest : behind.toList.head? ≠ some '\x27' := by
    intro hquote
    have hblank := hbehind _ hquote
    cases hblank
  rw [String.toList_append]
  exact read_quoteString s hrest

/-- A string literal is read back with whatever follows it, unless a quote follows.  So are the
values of an enumeration from its type, all of them and in their order, and a text that is the
default or the comment of a column from the definition of the column. -/
theorem quotedValues_read_back :
    (∀ (s : String) (rest : List Char), rest.head? ≠ some '\x27' →
      Quoted.read '\x27' ((quoteString s).toList ++ rest) = some (s.toList, rest)) ∧
    (∀ (stringLength : Nat) (allowed : List String),
      enumerationValues? (typeText stringLength (.enumeration allowed)) = some allowed) ∧
    ∀ (tablePrefix : String) (stringLength : Nat) (column : Column) (sql : String),
      (columnWriter tablePrefix stringLength).definition column = .ok sql →
        (∀ s, column.defaultValue = some (.text s) →
          HoldsLiteral tablePrefix stringLength column sql .defaultValue " DEFAULT " s) ∧
        ∀ s, column.comment = some s →
          HoldsLiteral tablePrefix stringLength column sql .comment " COMMENT " s := by
  refine ⟨fun s rest hrest => read_quoteString s hrest,
    fun stringLength allowed => enumerationValues?_typeText allowed,
    fun tablePrefix stringLength column sql hsql => ⟨fun s hdefault => ?_, fun s hcomment => ?_⟩⟩
  · refine holdsLiteral_of_fragment hsql ?_
    simp [Modifier.fragment, Modifier.isPresent, Modifier.render, hdefault, DefaultValue.toSql]
  · refine holdsLiteral_of_fragment hsql ?_
    simp [Modifier.fragment, Modifier.isPresent, Modifier.render, hcomment]

/-- A column with quotes at the ends of its default and its comment, and other modifiers around
them. -/
def quotingSample : Column :=
  { Column.ofType "c" (.enumeration ["", "',')", "it''s"]) with
    charset := some "utf8mb4"
    nullable := some false
    defaultValue := some (.text "',')")
    comment := some "'\\'"
    first := some true }

/-- Its values, its default and its comment are read back, and so is a quote before a comma. -/
theorem quotedValues_read_back_crowded :
    Quoted.read '\x27' ((quoteString "'").toList ++ [',', '\x27']) =
      some (['\x27'], [',', '\x27']) ∧
    ∃ sql, (columnWriter "p_" defaultStringLength).definition quotingSample = .ok sql ∧
      HoldsLiteral "p_" defaultStringLength quotingSample sql .defaultValue " DEFAULT " "',')" ∧
      HoldsLiteral "p_" defaultStringLength quotingSample sql .comment " COMMENT " "'\\'" := by
  obtain ⟨hliteral, -, hdefinition⟩ := quotedValues_read_back
  obtain ⟨sql, hsql⟩ : ∃ sql,
      (columnWriter "p_" defaultStringLength).definition quotingSample = .ok sql := ⟨_, rfl⟩
  obtain ⟨hdefault, hcomment⟩ := hdefinition _ _ _ _ hsql
  exact ⟨hliteral "'" _ (by decide), sql, hsql, hdefault _ rfl, hcomment _ rfl⟩

end SchemaLedger.MySql
