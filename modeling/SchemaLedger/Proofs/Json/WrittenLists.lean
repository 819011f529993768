import SchemaLedger.Proofs.Json.WrittenStrings
import SchemaLedger.Text.Search

/-!
# Lists and objects read back

A text that is read as a value in front of anything (`IsReadAs`) is read as that value inside a
larger text.  Written strings are such texts, and so are lists of written strings with commas
between them.  As the only member of an object such a text makes a document whose member has that
value (`ofText_onlyMember`).
-/

namespace SchemaLedger.Json

open SchemaLedger.Text (join join_singleton)

variable {cs rest : List Char} {v : Json} {fuel : Nat}

/-- A text is read as a value, whatever follows it. -/
def IsReadAs (cs : List Char) (v : Json) : Prop :=
  ∀ fuel rest, 3 * cs.length ≤ fuel → readValue fuel (cs ++ rest) = (v, some rest)

/-- The written form of a list of strings. -/
def quoteList (texts : List String) : String :=
  "[" ++ join "," (texts.map quote) ++ "]"

/-- The document with one member, whose value is a written text. -/
def onlyMember (key value : String) : String :=
  "\x7b" ++ quote key ++ ":" ++ value ++ "\x7d"

lemma skipSpace_quote (s : String) (rest : List Char) :
    skipSpace ((quote s).toList ++ rest) = (quote s).toList ++ rest := by
  rw [toList_quote]
  rfl

/-- A written string is read back. -/
lemma isReadAs_quote (s : String) : IsReadAs (quote s).toList (.string s) := by
  intro fuel rest hfuel
  have hlength : 0 < (quote s).toList.length := by simp
  obtain ⟨fuel, rfl⟩ := Nat.exists_eq_add_of_le' (show 1 ≤ fuel by omega)
  rw [readValue, skipSpace_quote, toList_quote, List.cons_append, List.append_assoc,
    List.singleton_append]
  simp only [readString_escape, List.reverse_nil, List.nil_append, String.ofList_toList, ofKey]

/-- Written strings with commas between them begin with a quote. -/
lemma exists_join_quotes (first : String) (others : List String) (rest : List Char) :
    ∃ more, (join "," ((first :: others).map quote)).toList ++ rest = '"' :: more := by
  cases others <;> simp [join]

/-- Written strings with commas between them are read back in front of a closing bracket. -/
lemma readItem_quotes (first : String) (others : List String)
    (hfuel : 3 * (join "," ((first :: others).map quote)).toList.length + 1 ≤ fuel) :
    readItem fuel ((join "," ((first :: others).map quote)).toList ++ ']' :: rest) =
      ((first :: others).map .string, some rest) := by
  induction others generalizing first fuel with
  | nil =>
    have hquote : 2 ≤ (quote first).toList.length := by simp
    rw [List.map_singleton, join_singleton] at hfuel ⊢
    obtain ⟨fuel, rfl⟩ := Nat.exists_eq_add_of_le' (show 2 ≤ fuel by omega)
    rw [readItem, isReadAs_quote first _ _ (by omega)]
    rfl
  | cons next others ih =>
    have htext : (join "," ((first :: next :: others).map quote)).toList =
        (quote first).toList ++ ',' :: (join "," ((next :: others).map quote)).toList := by
      simp [join]
    rw [htext, List.length_append, List.length_cons] at hfuel
    obtain ⟨fuel, rfl⟩ := Nat.exists_eq_add_of_le' (show 2 ≤ fuel by omega)
    obtain ⟨more, hmore⟩ := exists_join_quotes next others (']' :: rest)
    rw [htext, List.append_assoc, List.cons_append, readItem,
      isReadAs_quote first _ _ (by omega)]
    have hnext : readItem fuel
        ((join "," ((next :: others).map quote)).toList ++ ']' :: rest) = _ := ih next (by omega)
    rw [hmore] at hnext ⊢
    simp [readMoreItems, skipSpace, isSpace, hnext]

/-- A written list of strings is read back. -/
lemma isReadAs_quoteList (texts : List String) :
    IsReadAs (quoteList texts).toList (.array (texts.map .string)) := by
  intro fuel rest hfuel
  have htext : (quoteList texts).toList =
      '[' :: ((join "," (texts.map quote)).toList ++ [']']) := by
    simp [quoteList]
  rw [htext, List.length_cons, List.length_append] at hfuel
  obtain ⟨fuel, rfl⟩ := Nat.exists_eq_add_of_le' (show 3 ≤ fuel by omega)
  have hopen : ∀ cs, skipSpace ('[' :: cs) = '[' :: cs := fun cs => rfl
  rw [htext, List.cons_append, List.append_assoc, readValue, hopen]
  cases texts with
  | nil => rfl
  | cons first others =>
    have hitems : readItem (fuel + 1)
        ((join "," ((first :: others).map quote)).toList ++ ']' :: rest) = _ :=
      readItem_quotes first others (by omega)
    obtain ⟨more, hmore⟩ := exists_join_quotes first others (']' :: rest)
    rw [hmore] at hitems
    rw [List.singleton_append, hmore]
    simp [readFirstItem, skipSpace, isSpace, hitems]

/-- The last member of an object is read back from behind the opening quote of its key. -/
lemma readMember_last (h : IsReadAs cs v) (key : String) (hfuel : 3 * cs.length < fuel) :
    readMember (fuel + 1) (escape key.toList ++ '"' :: ':' :: (cs ++ '}' :: rest)) =
      ([(.name key, v)], some rest) := by
  obtain ⟨fuel, rfl⟩ := Nat.exists_eq_add_of_le' (show 1 ≤ fuel by omega)
  have hcolon : ∀ cs, skipSpace (':' :: cs) = ':' :: cs := fun cs => rfl
  have hbrace : readMoreMembers (fuel + 1) ('}' :: rest) = ([], some rest) := rfl
  simp only [readMember, readString_escape, hcolon, h _ _ (Nat.le_of_lt hfuel), hbrace,
    List.reverse_nil, List.nil_append, String.ofList_toList]

/-- An object with one member is read back. -/
lemma readValue_onlyMember {value : String} (h : IsReadAs value.toList v) (key : String)
    (hfuel : 3 * value.toList.length < fuel) :
    readValue (fuel + 3) (onlyMember key value).toList =
      (object [(.name key, v)], some []) := by
  have htext : (onlyMember key value).toList =
      '{' :: '"' :: (escape key.toList ++ '"' :: ':' :: (value.toList ++ ['}'])) := by
    simp [onlyMember]
  have hopen : ∀ cs, skipSpace ('{' :: cs) = '{' :: cs := fun cs => rfl
  have hquote : ∀ cs, skipSpace ('"' :: cs) = '"' :: cs := fun cs => rfl
  simp only [htext, readValue, hopen, readFirstMember, hquote, readMember_last h key hfuel]

/-- A document with one member is read with the value of the member, and nothing follows it. -/
lemma ofText_onlyMember {value : String} (h : IsReadAs value.toList v) (key : String) :
    Document.ofText (onlyMember key value) =
      ⟨(object [(.name key, v)]).limitDepth maxLevels, false⟩ := by
  have hlength : 3 * value.toList.length < 3 * (onlyMember key value).toList.length := by
    simp [onlyMember]
    omega
  rw [Document.ofText, Document.ofChars, readValue_onlyMember h key hlength]
  rfl

/-- A list of strings has no levels below it. -/
lemma limitItems_strings (levels : Nat) (texts : List String) :
    limitItems levels (texts.map .string) = texts.map .string := by
  induction texts with
  | nil => rfl
  | cons text texts ih =>
    have htext : limitDepth levels (.string text) = .string text := by
      cases levels <;> rfl
    rw [List.map_cons, limitItems, htext, ih]

/-- The document whose only member is a list of strings. -/
lemma ofText_quoteList (key : String) (texts : List String) :
    Document.ofText (onlyMember key (quoteList texts)) =
      ⟨.object [(.name key, .array (texts.map .string))], false⟩ := by
  rw [ofText_onlyMember (isReadAs_quoteList texts)]
  simp only [maxLevels, limitDepth, limitMembers, limitItems_strings]

/-- The document whose only member is a string. -/
lemma ofText_quote (key s : String) :
    Document.ofText (onlyMember key (quote s)) = ⟨.object [(.name key, .string s)], false⟩ :=
  ofText_onlyMember (isReadAs_quote s) key

end SchemaLedger.Json
