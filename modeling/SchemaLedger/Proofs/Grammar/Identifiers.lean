import SchemaLedger.Grammar.MySql
import SchemaLedger.Proofs.Text.Pieces
import Mathlib.Data.List.DropRight
import Mathlib.Tactic.Common

/-!
# Identifiers without dots and aliases

The prefix of tables goes in front of a segment only if an identifier has several of them, and in
front of an alias only if there is one.  So a name without dots is written alike whatever the prefix
is (`wrap_of_not_dotted`), and a prefixed table without an alias is written as the table of the
longer name (`wrapTable_of_not_aliased`).  There is an alias exactly if the word `as` between blanks
occurs in an identifier, in any case (`splitAlias_eq_none_iff`).
-/

namespace SchemaLedger

namespace Text

/-- What is left of a text without the white space at its ends is a part of it. -/
lemma isInfix_trim (s : String) : (trim s).toList <:+: s.toList := by
  rw [trim, toList_trimEnd, toList_trimStart]
  have hfront : dropEndWhile isBlank (s.toList.dropWhile isBlank) <+: s.toList.dropWhile isBlank :=
    List.rdropWhile_prefix isBlank _
  exact hfront.isInfix.trans (List.dropWhile_suffix isBlank).isInfix

lemma mem_of_mem_trim {c : Char} {s : String} (h : c ∈ (trim s).toList) : c ∈ s.toList :=
  (isInfix_trim s).subset h

lemma toNat_lowerAscii (c : Char) :
    (lowerAscii c).toNat = if 65 ≤ c.toNat ∧ c.toNat ≤ 90 then c.toNat + 32 else c.toNat := by
  have hrange : ('A' ≤ c ∧ c ≤ 'Z') ↔ (65 ≤ c.toNat ∧ c.toNat ≤ 90) := Iff.rfl
  unfold lowerAscii
  by_cases h : 65 ≤ c.toNat ∧ c.toNat ≤ 90
  · have hvalid : (c.toNat + 32).isValidChar := .inl (by omega)
    rw [if_pos (hrange.mpr h), if_pos h, Char.ofNat, dif_pos hvalid]
    rfl
  · rw [if_neg (mt hrange.mp h), if_neg h]

/-- The lower-case form is a given letter for that letter and its capital. -/
lemma lowerAscii_eq_iff {low capital : Char} (hlow : 97 ≤ low.toNat ∧ low.toNat ≤ 122)
    (hcapital : capital.toNat + 32 = low.toNat) (c : Char) :
    lowerAscii c = low ↔ c = low ∨ c = capital := by
  rw [← Char.toNat_inj, ← Char.toNat_inj, ← Char.toNat_inj, toNat_lowerAscii]
  split <;> omega

lemma lowerAscii_eq_blank_iff (c : Char) : lowerAscii c = ' ' ↔ c = ' ' := by
  have hblank : ' '.toNat = 32 := rfl
  rw [← Char.toNat_inj, ← Char.toNat_inj, toNat_lowerAscii, hblank]
  split <;> omega

end Text

namespace Naming

variable {cs target rest : List Char}

/-! ## Aliases -/

/-- Whether the word `as` between blanks occurs in an identifier, in any case. -/
def hasAlias (identifier : String) : Bool :=
  Text.contains (Text.toLowerAscii identifier) " as "

/-- A list begins with the word of an alias exactly if it does so in lower case. -/
lemma isSome_dropAliasWord (cs : List Char) :
    (dropAliasWord cs).isSome = " as ".toList.isPrefixOf (cs.map Text.lowerAscii) := by
  have hword : " as ".toList = [' ', 'a', 's', ' '] := rfl
  have ha (c : Char) : 'a' = Text.lowerAscii c ↔ c = 'a' ∨ c = 'A' :=
    eq_comm.trans (Text.lowerAscii_eq_iff (by decide) (by decide) c)
  have hs (c : Char) : 's' = Text.lowerAscii c ↔ c = 's' ∨ c = 'S' :=
    eq_comm.trans (Text.lowerAscii_eq_iff (by decide) (by decide) c)
  have hblank (c : Char) : ' ' = Text.lowerAscii c ↔ c = ' ' :=
    eq_comm.trans (Text.lowerAscii_eq_blank_iff c)
  rw [hword, Bool.eq_iff_iff, List.isPrefixOf_iff_prefix]
  unfold dropAliasWord
  split
  · rename_i a s rest
    simp [List.cons_prefix_cons, ha, hs, hblank]
  · rename_i hshape
    constructor
    · intro h
      cases h
    -- A list that begins with the word has four characters at least.
    · rcases cs with _ | ⟨c, _ | ⟨a, _ | ⟨s, _ | ⟨d, rest⟩⟩⟩⟩
      · simp
      · simp
      · simp
      · simp
      · simp [List.cons_prefix_cons, ha, hs, hblank]
        rintro rfl - - rfl
        exact hshape a s rest rfl

/-- An identifier is split exactly if it has an alias. -/
theorem splitAlias_eq_none_iff (identifier : String) :
    splitAlias identifier.toList = none ↔ hasAlias identifier = false := by
  have hlower : (Text.toLowerAscii identifier).toList = identifier.toList.map Text.lowerAscii :=
    String.toList_ofList
  rw [hasAlias, Text.contains, hlower]
  induction identifier.toList with
  | nil => decide
  | cons c cs ih =>
    have hoccurs : Text.occursIn " as ".toList ((c :: cs).map Text.lowerAscii) =
        ((dropAliasWord (c :: cs)).isSome ||
          Text.occursIn " as ".toList (cs.map Text.lowerAscii)) := by
      rw [isSome_dropAliasWord]
      rfl
    rw [splitAlias, hoccurs]
    cases dropAliasWord (c :: cs) with
    | some rest => simp
    | none => simpa using ih

/-- The word `as` between blanks, in any case. -/
def IsAliasWord (word : List Char) : Prop := word.map Text.lowerAscii = " as ".toList

instance (word : List Char) : Decidable (IsAliasWord word) :=
  inferInstanceAs (Decidable (_ = _))

lemma IsAliasWord.length_eq {word : List Char} (h : IsAliasWord word) : word.length = 4 := by
  have hlength := congrArg List.length h
  rwa [List.length_map] at hlength

lemma isAliasWord_of_dropAliasWord (h : dropAliasWord cs = some rest) :
    ∃ word, cs = word ++ rest ∧ IsAliasWord word := by
  unfold dropAliasWord at h
  split at h
  · rename_i a s more
    split at h
    · rename_i hletters
      cases h
      obtain ⟨ha, hs⟩ := hletters
      refine ⟨[' ', a, s, ' '], rfl, ?_⟩
      rcases ha with rfl | rfl <;> rcases hs with rfl | rfl <;> decide
    · cases h
  · cases h

/-- An identifier is split by a word `as`. -/
lemma parts_of_splitAlias (h : splitAlias cs = some (target, rest)) :
    ∃ word, cs = target ++ word ++ rest ∧ IsAliasWord word := by
  induction cs generalizing target with
  | nil => cases h
  | cons c cs ih =>
    rw [splitAlias] at h
    split at h
    · rename_i more hword
      cases h
      exact isAliasWord_of_dropAliasWord hword
    · obtain ⟨⟨inner, more⟩, hinner, heq⟩ := Option.map_eq_some_iff.mp h
      cases heq
      obtain ⟨word, rfl, hword⟩ := ih hinner
      exact ⟨word, rfl, hword⟩

/-- What stands in front of an alias is part of the identifier. -/
lemma mem_of_splitAlias (h : splitAlias cs = some (target, rest)) : ∀ c ∈ target, c ∈ cs := by
  obtain ⟨word, rfl, -⟩ := parts_of_splitAlias h
  intro c hc
  rw [List.append_assoc]
  exact List.mem_append_left _ hc

/-! ## Prefixes -/

variable {n n' : Naming}

/-- The prefix itself is not written into segments. -/
lemma wrapSegments_congr (h : n.quote = n'.quote) (start value : String) :
    n.wrapSegments start value = n'.wrapSegments start value := by
  have hvalue : n.wrapValue = n'.wrapValue := by
    funext value
    rw [wrapValue, wrapValue, h]
  rw [wrapSegments, wrapSegments, hvalue]

/-- Nor is it written into identifiers, but for what goes in front. -/
lemma wrapIdentifier_congr (h : n.quote = n'.quote) (start aliasStart value : String) :
    n.wrapIdentifier start aliasStart value = n'.wrapIdentifier start aliasStart value := by
  have hvalue (value : String) : n.wrapValue value = n'.wrapValue value := by
    rw [wrapValue, wrapValue, h]
  simp only [wrapIdentifier, wrapSegments_congr h, hvalue]

/-- A segment alone takes nothing in front. -/
lemma wrapSegments_of_not_dotted {value : String} (h : '.' ∉ value.toList) (start : String) :
    n.wrapSegments start value = n.wrapValue value := by
  rw [wrapSegments, Text.split_of_not_mem h]

/-- An identifier without dots is written alike whatever goes in front of its segments. -/
lemma wrapIdentifier_of_not_dotted {value : String} (h : '.' ∉ value.toList)
    (start start' aliasStart : String) :
    n.wrapIdentifier start aliasStart value = n.wrapIdentifier start' aliasStart value := by
  unfold wrapIdentifier
  split
  · rw [wrapSegments_of_not_dotted h, wrapSegments_of_not_dotted h]
  · rename_i target rest halias
    have htarget : '.' ∉ (Text.trim (String.ofList target)).toList := by
      intro hmem
      have hdot := Text.mem_of_mem_trim hmem
      rw [String.toList_ofList] at hdot
      exact h (mem_of_splitAlias halias _ hdot)
    rw [wrapSegments_of_not_dotted htarget, wrapSegments_of_not_dotted htarget]

end Naming

namespace MySql

variable {tablePrefix : String}

lemma wrapIdentifier_naming (start aliasStart value : String) :
    (naming tablePrefix).wrapIdentifier start aliasStart value =
      (naming "").wrapIdentifier start aliasStart value := by
  have hquote : (naming tablePrefix).quote = (naming "").quote := rfl
  exact Naming.wrapIdentifier_congr hquote start aliasStart value

/-- The name of a column or an index without dots is written without the prefix. -/
theorem wrap_of_not_dotted {name : String} (h : '.' ∉ name.toList) :
    (naming tablePrefix).wrap name = (naming "").wrap name := by
  rw [Naming.wrap, wrapIdentifier_naming]
  exact Naming.wrapIdentifier_of_not_dotted h tablePrefix "" ""

lemma wrapAll_of_not_dotted {names : List String} (h : ∀ name ∈ names, '.' ∉ name.toList) :
    (naming tablePrefix).wrapAll names = (naming "").wrapAll names :=
  List.map_congr_left fun name hname => wrap_of_not_dotted (h name hname)

lemma columnList_of_not_dotted {columns : List String} (h : ∀ name ∈ columns, '.' ∉ name.toList) :
    (naming tablePrefix).columnList columns = (naming "").columnList columns := by
  rw [Naming.columnList, Naming.columnList, wrapAll_of_not_dotted h]

/-- A prefixed table without an alias is written as the table of the longer name. -/
theorem wrapTable_of_not_aliased {table : String}
    (h : Naming.hasAlias (tablePrefix ++ table) = false) :
    (naming tablePrefix).wrapTable table = (naming "").wrapTable (tablePrefix ++ table) := by
  have hplain : ∀ aliasStart : String,
      (naming "").wrapIdentifier "" aliasStart (tablePrefix ++ table) =
        (naming "").wrapSegments "" (tablePrefix ++ table) := by
    intro aliasStart
    rw [Naming.wrapIdentifier, (Naming.splitAlias_eq_none_iff _).mpr h]
  have hempty : (naming "").wrapTable (tablePrefix ++ table) =
      (naming "").wrapIdentifier "" "" (tablePrefix ++ table) := by
    rw [Naming.wrapTable]
    simp [naming]
  rw [hempty, hplain, Naming.wrapTable, wrapIdentifier_naming]
  exact hplain tablePrefix

end MySql

end SchemaLedger
