import SchemaLedger.Sql.Quoted
import SchemaLedger.Text.Search
import Mathlib.Data.List.Basic
import Mathlib.Tactic.Common

/-!
# Rows of quoted texts

`Quoted.read` undoes `Quoted.encode`: from whatever follows a quoted text it takes exactly that
text, unless another quote follows (`Quoted.read_encode`).  Quoted texts therefore stand in a row
with separators between them and can be read one after another.  `ItemReader.readRow` reads such a
row from left to right, for any reader of single items that leaves less than it was given, and finds
the items that were joined (`ItemReader.readRow_join`).
-/

namespace SchemaLedger.Sql

namespace Quoted

variable {quote c : Char} {cs inside rest : List Char}

/-! ## Reading back -/

/-- The closing quote is read if no other quote follows it. -/
lemma readRest_quote (hrest : rest.head? ≠ some quote) :
    readRest quote (quote :: rest) = some ([], rest) := by
  cases rest with
  | nil => simp [readRest]
  | cons d rest =>
    have hne : d ≠ quote := by simpa using hrest
    simp [readRest, hne]

/-- A quote that is written twice is read as a quote. -/
lemma readRest_doubled (rest : List Char) :
    readRest quote (quote :: quote :: rest) =
      (readRest quote rest).map fun (inside, rest) => (quote :: inside, rest) := by
  simp [readRest]

/-- A character other than the quote is read as it is. -/
lemma readRest_plain (hquote : c ≠ quote) (rest : List Char) :
    readRest quote (c :: rest) =
      (readRest quote rest).map fun (inside, rest) => (c :: inside, rest) := by
  cases rest with
  | nil => simp [readRest, hquote]
  | cons d rest => simp [readRest, hquote]

/-- From behind its opening quote, a quoted text is read up to its closing quote. -/
lemma readRest_double (cs : List Char) (hrest : rest.head? ≠ some quote) :
    readRest quote (double quote cs ++ quote :: rest) = some (cs, rest) := by
  induction cs with
  | nil => exact readRest_quote hrest
  | cons c cs ih =>
    by_cases hc : c = quote
    · subst hc
      rw [double, if_pos rfl, List.cons_append, List.cons_append, readRest_doubled, ih]
      rfl
    · rw [double, if_neg hc, List.cons_append, readRest_plain hc, ih]
      rfl

/-- A quoted text is read back, with whatever follows it, unless another quote follows. -/
theorem read_encode (cs : List Char) (hrest : rest.head? ≠ some quote) :
    read quote (encode quote cs ++ rest) = some (cs, rest) := by
  have hopen : encode quote cs ++ rest = quote :: (double quote cs ++ quote :: rest) := by
    simp [encode]
  rw [hopen, read, if_pos rfl]
  exact readRest_double cs hrest

/-- Behind its opening quote, reading a quoted text leaves less than it was given. -/
lemma length_readRest (h : readRest quote cs = some (inside, rest)) :
    rest.length < cs.length := by
  fun_induction readRest quote cs generalizing inside with
  | case1 => cases h
  | case2 =>
    cases h
    exact Nat.zero_lt_one
  | case3 => cases h
  | case4 cs ih =>
    obtain ⟨⟨tail, rest'⟩, htail, heq⟩ := Option.map_eq_some_iff.mp h
    cases heq
    have hless := ih htail
    simp only [List.length_cons]
    omega
  | case5 =>
    cases h
    exact Nat.lt_succ_self _
  | case6 c d cs hc ih =>
    obtain ⟨⟨tail, rest'⟩, htail, heq⟩ := Option.map_eq_some_iff.mp h
    cases heq
    have hless := ih htail
    simp only [List.length_cons] at hless ⊢
    omega

/-- Reading a quoted text leaves less than it was given. -/
lemma length_read (h : read quote cs = some (inside, rest)) : rest.length < cs.length := by
  cases cs with
  | nil => cases h
  | cons c cs =>
    rw [read] at h
    split at h
    · have hless := length_readRest h
      simp only [List.length_cons]
      omega
    · cases h

end Quoted

/-! ## Rows -/

/-- A reader of one item at the front of a text, which leaves less than it was given. -/
structure ItemReader (α : Type) where
  read : List Char → Option (α × List Char)
  shorter : ∀ {cs item rest}, read cs = some (item, rest) → rest.length < cs.length

namespace ItemReader

variable {α : Type}

/-- Reads items with a separator between neighbours, and gives them with what follows the last
one. -/
def readRow (r : ItemReader α) (separator : List Char) (cs : List Char) :
    Option (List α × List Char) :=
  match _ : r.read cs with
  | none => none
  | some (item, rest) =>
    match _ : rest.dropPrefix? separator with
    | some more => (readRow r separator more).map fun (items, rest) => (item :: items, rest)
    | none => some ([item], rest)
termination_by cs.length
decreasing_by
  have hmore : rest.dropPrefix? separator = some more := by assumption
  have hread : r.read cs = some (item, rest) := by assumption
  obtain ⟨start, hrest, -⟩ := List.dropPrefix?_eq_some_iff.mp hmore
  have hless := r.shorter hread
  rw [hrest, List.length_append] at hless
  omega

variable {r : ItemReader α} {separator cs rest more : List Char} {item : α}

/-- An item in front of a separator is the first item of a row. -/
lemma readRow_cons (h : r.read cs = some (item, separator ++ more)) :
    r.readRow separator cs =
      (r.readRow separator more).map fun (items, rest) => (item :: items, rest) := by
  have hmore : (separator ++ more).dropPrefix? separator = some more :=
    List.dropPrefix?_eq_some_iff.mpr ⟨separator, rfl, beq_self_eq_true _⟩
  rw [readRow]
  split
  · rename_i hnone
    rw [h] at hnone
    cases hnone
  · rename_i item' rest' hsome
    rw [h] at hsome
    cases hsome
    split
    · rename_i more' hmore'
      rw [hmore] at hmore'
      cases hmore'
      rfl
    · rename_i hnone
      rw [hmore] at hnone
      cases hnone

/-- An item in front of something else is the last item of a row. -/
lemma readRow_last (h : r.read cs = some (item, rest))
    (hrest : rest.dropPrefix? separator = none) :
    r.readRow separator cs = some ([item], rest) := by
  rw [readRow]
  split
  · rename_i hnone
    rw [h] at hnone
    cases hnone
  · rename_i item' rest' hsome
    rw [h] at hsome
    cases hsome
    split
    · rename_i more' hmore'
      rw [hrest] at hmore'
      cases hmore'
    · rfl

/-- A reader undoes the writing of items in front of anything that does not begin with a certain
character. -/
def Undoes (r : ItemReader α) (write : α → String) (stop : Char) : Prop :=
  ∀ item rest, rest.head? ≠ some stop → r.read ((write item).toList ++ rest) = some (item, rest)

/-- A row of written items is read back, with what follows it. -/
theorem readRow_join {write : α → String} {stop : Char} {separator : String} {items : List α}
    (hundoes : r.Undoes write stop) (hne : items ≠ [])
    (hseparator : ∀ more, (separator.toList ++ more).head? ≠ some stop)
    (hstop : rest.head? ≠ some stop) (hrest : rest.dropPrefix? separator.toList = none) :
    r.readRow separator.toList ((Text.join separator (items.map write)).toList ++ rest) =
      some (items, rest) := by
  induction items with
  | nil => exact absurd rfl hne
  | cons item items ih =>
    cases items with
    | nil => exact readRow_last (hundoes item rest hstop) hrest
    | cons next items =>
      have htail := ih (List.cons_ne_nil _ _)
      have hitem := hundoes item (separator.toList ++
        ((Text.join separator ((next :: items).map write)).toList ++ rest)) (hseparator _)
      have hjoin : (Text.join separator ((item :: next :: items).map write)).toList ++ rest =
          (write item).toList ++ (separator.toList ++
            ((Text.join separator ((next :: items).map write)).toList ++ rest)) := by
        simp [Text.join]
      rw [hjoin, readRow_cons hitem, htail]
      rfl

end ItemReader

/-- The reader of quoted texts. -/
def Quoted.reader (quote : Char) : ItemReader String where
  read := fun cs => (Quoted.read quote cs).map fun (inside, rest) => (String.ofList inside, rest)
  shorter := by
    intro cs item rest h
    obtain ⟨⟨inside, rest'⟩, hread, heq⟩ := Option.map_eq_some_iff.mp h
    cases heq
    exact Quoted.length_read hread

/-- The reader of quoted texts undoes their quoting. -/
lemma Quoted.reader_encode {quote : Char} {rest : List Char} (s : String)
    (hrest : rest.head? ≠ some quote) :
    (reader quote).read (encode quote s.toList ++ rest) = some (s, rest) := by
  have hreader : (reader quote).read (encode quote s.toList ++ rest) =
      (read quote (encode quote s.toList ++ rest)).map fun (inside, rest) =>
        (String.ofList inside, rest) := rfl
  have hvalue : String.ofList s.toList = s := String.ofList_toList
  rw [hreader, read_encode s.toList hrest]
  simp only [Option.map_some, hvalue]

end SchemaLedger.Sql
