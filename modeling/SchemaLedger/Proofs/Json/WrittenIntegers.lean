import SchemaLedger.Json.Reader
import Mathlib.Data.List.Basic

/-!
# Integers read back

The canonical decimal form of an integer is read as a numeral whose digits are those of the integer,
in front of any rest that does not go on with the numeral (`readValue_integer`).  The value of that
numeral is the integer itself if it fits a signed or an unsigned word of 64 bits
(`Numeral.value_ofInt`).  Otherwise it is a double, if there is a value at all
(`Numeral.exists_float_of_value`).
-/

namespace SchemaLedger.Json

variable {n : Nat} {i : Int} {cs rest : List Char} {c : Char} {number : Number}

/-! ## Digits -/

lemma isDigit_of_mem_toDigits (h : c ∈ Nat.toDigits 10 n) : isDigit c = true := by
  have hdigit := Nat.isDigit_of_mem_toDigits (by decide) (by decide) h
  simpa [Char.isDigit, isDigit, Char.le_def] using hdigit

lemma exists_toDigits (n : Nat) :
    ∃ c cs, Nat.toDigits 10 n = c :: cs ∧ isDigit c = true := by
  cases hcs : Nat.toDigits 10 n with
  | nil => exact absurd hcs Nat.toDigits_ne_nil
  | cons c cs => exact ⟨c, cs, rfl, isDigit_of_mem_toDigits (hcs ▸ List.mem_cons_self)⟩

/-- Only the digits of zero begin with a zero. -/
lemma head_toDigits (hn : n ≠ 0) : (Nat.toDigits 10 n).head? ≠ some '0' := by
  induction n using Nat.strongRecOn with
  | ind n ih =>
    rw [Nat.toDigits_eq_if (by decide)]
    split
    · rename_i hlt
      have hdigits : ∀ n < 10, n ≠ 0 → [n.digitChar].head? ≠ some '0' := by decide
      exact hdigits n hlt hn
    · rename_i hge
      rw [List.head?_append_of_ne_nil _ Nat.toDigits_ne_nil]
      exact ih (n / 10) (by omega) (by omega)

lemma ofDigitChars_cons (c : Char) (cs : List Char) (n : Nat) :
    Nat.ofDigitChars 10 (c :: cs) n = Nat.ofDigitChars 10 cs (n * 10 + digitValue c) :=
  congrArg (Nat.ofDigitChars 10 cs) (congrArg (· + digitValue c) (Nat.mul_comm 10 n))

lemma le_ofDigitChars (cs : List Char) (n : Nat) : n ≤ Nat.ofDigitChars 10 cs n := by
  induction cs generalizing n with
  | nil => exact Nat.le_refl n
  | cons c cs ih =>
    have hrest := ih (n * 10 + digitValue c)
    rw [ofDigitChars_cons]
    omega

namespace Numeral

/-- Digits whose value fits a word are collected into it. -/
lemma collect_of_le (h : Nat.ofDigitChars 10 cs n ≤ maxWord) :
    collect n cs = (Nat.ofDigitChars 10 cs n, []) := by
  induction cs generalizing n with
  | nil => rfl
  | cons c cs ih =>
    rw [ofDigitChars_cons] at h ⊢
    have hnext := Nat.le_trans (le_ofDigitChars cs (n * 10 + digitValue c)) h
    rw [collect, if_neg (Nat.not_lt.mpr hnext), ih h]

/-- Digits whose value does not fit a word are left over. -/
lemma collect_of_lt (hn : n ≤ maxWord) (h : maxWord < Nat.ofDigitChars 10 cs n) :
    (collect n cs).2 ≠ [] := by
  induction cs generalizing n with
  | nil => exact absurd h (Nat.not_lt.mpr hn)
  | cons c cs ih =>
    rw [ofDigitChars_cons] at h
    rw [collect]
    split
    · exact List.cons_ne_nil _ _
    · rename_i hnext
      exact ih (Nat.not_lt.mp hnext) h

/-! ## Numerals of integers -/

/-- The numeral of the canonical decimal form of an integer. -/
def ofInt (i : Int) : Numeral := ⟨decide (i < 0), Nat.toDigits 10 i.natAbs, none, none⟩

/-- A rest does not go on with a numeral. -/
def EndsBefore (rest : List Char) : Prop :=
  ∀ c ∈ rest.head?, isDigit c = false ∧ c ≠ '.' ∧ c ≠ 'e' ∧ c ≠ 'E'

lemma takeDigits_append (hcs : ∀ c ∈ cs, isDigit c = true) (hne : cs ≠ [])
    (hrest : EndsBefore rest) : takeDigits (cs ++ rest) = .ok (cs, rest) := by
  have hstop : rest.takeWhile isDigit = [] ∧ rest.dropWhile isDigit = rest := by
    cases rest with
    | nil => exact ⟨rfl, rfl⟩
    | cons c rest =>
      obtain ⟨hc, -⟩ := hrest c rfl
      simp [hc]
  rw [takeDigits, List.takeWhile_append_of_pos hcs, List.dropWhile_append_of_pos hcs, hstop.1,
    hstop.2, List.append_nil]
  simp [hne]

/-- The digits of a natural number are taken as the part before the point. -/
lemma takeWhole_toDigits (n : Nat) (hrest : EndsBefore rest) :
    takeWhole (Nat.toDigits 10 n ++ rest) = .ok (Nat.toDigits 10 n, rest) := by
  by_cases hn : n = 0
  · subst hn
    cases rest with
    | nil => rfl
    | cons c rest =>
      obtain ⟨hc, -⟩ := hrest c rfl
      have hzero : Nat.toDigits 10 0 = ['0'] := rfl
      simp [hzero, takeWhole, hc]
  · have hdigits := @takeDigits_append (Nat.toDigits 10 n) rest
      (fun _ => isDigit_of_mem_toDigits) Nat.toDigits_ne_nil hrest
    have hhead := head_toDigits hn
    cases hcs : Nat.toDigits 10 n with
    | nil => exact absurd hcs Nat.toDigits_ne_nil
    | cons c cs =>
      rw [hcs] at hdigits hhead
      rw [List.cons_append, takeWhole]
      · exact hdigits
      · rintro rest' h
        cases h
        exact hhead rfl

/-- There is neither a fraction nor an exponent behind the digits. -/
lemma takeFraction_takeExponent (hrest : EndsBefore rest) :
    takeFraction rest = .ok (none, rest) ∧ takeExponent rest = .ok (none, rest) := by
  cases rest with
  | nil => exact ⟨rfl, rfl⟩
  | cons c rest =>
    obtain ⟨-, hpoint, he, hE⟩ := hrest c rfl
    refine ⟨?_, by simp [takeExponent, he, hE]⟩
    rw [takeFraction]
    rintro rest' h
    cases h
    exact hpoint rfl

/-- The canonical decimal form of an integer. -/
lemma toList_toString (i : Int) :
    (toString i).toList = (if i < 0 then ['-'] else []) ++ Nat.toDigits 10 i.natAbs := by
  cases i with
  | ofNat n =>
    have htext : toString (Int.ofNat n) = toString n := rfl
    have hnonneg : ¬ Int.ofNat n < 0 := Int.not_lt.mpr (Int.natCast_nonneg n)
    rw [htext, if_neg hnonneg, Nat.toString_eq_ofList_toDigits, String.toList_ofList]
    rfl
  | negSucc n =>
    have htext : toString (Int.negSucc n) = "-" ++ toString (n + 1) := rfl
    rw [htext, if_pos (Int.negSucc_lt_zero n), Nat.toString_eq_ofList_toDigits,
      String.toList_append, Int.natAbs_negSucc]
    exact congrArg ('-' :: ·) String.toList_ofList

/-- The canonical decimal form of an integer is taken as its numeral. -/
lemma take_toString (i : Int) (hrest : EndsBefore rest) :
    take ((toString i).toList ++ rest) = .ok (ofInt i, rest) := by
  obtain ⟨hfraction, hexponent⟩ := takeFraction_takeExponent hrest
  have hwhole := takeWhole_toDigits i.natAbs hrest
  rw [toList_toString, ofInt]
  by_cases hi : i < 0
  · rw [if_pos hi, List.append_assoc, List.singleton_append]
    simp only [take, hwhole, hfraction, hexponent, hi, decide_true]
  · have hsign : ∀ rest', Nat.toDigits 10 i.natAbs ++ rest ≠ '-' :: rest' := by
      intro rest' h
      obtain ⟨c, cs, hcs, hc⟩ := exists_toDigits i.natAbs
      rw [hcs] at h
      cases h
      exact absurd hc (by decide)
    rw [if_neg hi, List.nil_append, take]
    · simp only [hwhole, hfraction, hexponent, hi, decide_false]
    · exact hsign

/-! ## Values -/

lemma collect_toDigits (h : n ≤ maxWord) : collect 0 (Nat.toDigits 10 n) = (n, []) := by
  have hvalue : Nat.ofDigitChars 10 (Nat.toDigits 10 n) 0 = n := Nat.ofDigitChars_ten_toDigits
  rw [← hvalue] at h
  rw [collect_of_le h, hvalue]

/-- The value of the numeral of an integer whose digits fit a word: the integer, unless it lies
below the signed words of 64 bits. -/
lemma value_ofInt_of_le (h : i.natAbs ≤ maxWord) :
    (ofInt i).value = some (if -(twoPow 63 : Int) ≤ i then .int i
      else .float (Binary64.ofNat i.natAbs).neg) := by
  rw [value, ofInt]
  simp only [collect_toDigits h]
  by_cases hi : i < 0
  · rw [decide_eq_true hi, Bool.not_true, if_neg Bool.false_ne_true]
    by_cases hlow : -(twoPow 63 : Int) ≤ i
    · have hfits : ¬ (i.natAbs = 0 ∨ twoPow 63 < i.natAbs) := by omega
      have hvalue : -(i.natAbs : Int) = i := by omega
      rw [if_pos hlow, if_neg hfits, hvalue]
    · have hbelow : i.natAbs = 0 ∨ twoPow 63 < i.natAbs := by omega
      rw [if_neg hlow, if_pos hbelow]
  · have hlow : -(twoPow 63 : Int) ≤ i := by omega
    have hvalue : (i.natAbs : Int) = i := by omega
    simp [hi, hlow, hvalue]

/-- The value of the numeral of an integer whose digits do not fit a word is a double. -/
lemma exists_float_of_lt (h : maxWord < i.natAbs) (hvalue : (ofInt i).value = some number) :
    ∃ f, number = .float f := by
  have hdigits : maxWord < Nat.ofDigitChars 10 (Nat.toDigits 10 i.natAbs) 0 := by
    rwa [Nat.ofDigitChars_ten_toDigits]
  have hdropped := collect_of_lt (Nat.zero_le _) hdigits
  rw [value, ofInt] at hvalue
  generalize collect 0 (Nat.toDigits 10 i.natAbs) = collected at hvalue hdropped
  obtain ⟨significand, dropped⟩ := collected
  cases dropped with
  | nil => exact absurd rfl hdropped
  | cons c dropped =>
    simp only [Option.map_eq_some_iff] at hvalue
    obtain ⟨f, -, rfl⟩ := hvalue
    exact ⟨f, rfl⟩

/-- An integer that fits a signed or an unsigned word of 64 bits is the value of its numeral. -/
theorem value_ofInt (hlow : -(twoPow 63 : Int) ≤ i) (hhigh : i < twoPow 64) :
    (ofInt i).value = some (.int i) := by
  have hwords : twoPow 64 = 2 * twoPow 63 := rfl
  have hword : i.natAbs ≤ maxWord := by
    rw [maxWord]
    omega
  rw [value_ofInt_of_le hword, if_pos hlow]

/-- The value of the numeral of any other integer is a double, if there is one. -/
theorem exists_float_of_value (h : ¬ (-(twoPow 63 : Int) ≤ i ∧ i < twoPow 64))
    (hvalue : (ofInt i).value = some number) : ∃ f, number = .float f := by
  by_cases hword : i.natAbs ≤ maxWord
  · have hpositive : 0 < twoPow 64 := by decide
    have hlow : ¬ -(twoPow 63 : Int) ≤ i := by
      rw [maxWord] at hword
      omega
    rw [value_ofInt_of_le hword, if_neg hlow] at hvalue
    cases hvalue
    exact ⟨_, rfl⟩
  · exact exists_float_of_lt (Nat.not_le.mp hword) hvalue

end Numeral

/-! ## Reading -/

/-- A decimal form begins with its sign or with a digit. -/
lemma exists_toString (i : Int) (rest : List Char) :
    ∃ c cs, (toString i).toList ++ rest = c :: cs ∧ (c = '-' ∨ isDigit c = true) := by
  rw [Numeral.toList_toString]
  by_cases hi : i < 0
  · rw [if_pos hi]
    exact ⟨'-', _, rfl, .inl rfl⟩
  · obtain ⟨c, cs, hcs, hc⟩ := exists_toDigits i.natAbs
    rw [if_neg hi, List.nil_append, hcs]
    exact ⟨c, _, rfl, .inr hc⟩

/-- A text that begins with a sign or a digit is read as a numeral. -/
lemma readValue_numeral (fuel : Nat) (hc : c = '-' ∨ isDigit c = true) :
    readValue (fuel + 1) (c :: cs) = turnAway (readNumeral (c :: cs)) := by
  -- The characters for which a value is not read as a numeral.
  have hother : ∀ d ∈ [' ', '\n', '\t', '\r', 'n', 't', 'f', '"', '[', '{'], c ≠ d := by
    have hnone : ([' ', '\n', '\t', '\r', 'n', 't', 'f', '"', '[', '{'].all fun d =>
        d != '-' && !isDigit d) = true := by decide
    rintro d hd rfl
    have hd := List.all_eq_true.mp hnone c hd
    rcases hc with rfl | hc
    · cases hd
    · rw [hc, Bool.not_true, Bool.and_false] at hd
      cases hd
  simp only [List.forall_mem_cons] at hother
  obtain ⟨hblank, hfeed, htab, hreturn, hn, ht, hf, hquote, hbracket, hbrace, -⟩ := hother
  have hskip : skipSpace (c :: cs) = c :: cs := by
    simp [skipSpace, isSpace, hblank, hfeed, htab, hreturn]
  simp [readValue, hskip, hc]

/-- The canonical decimal form of an integer is read as its numeral. -/
lemma readValue_toString (i : Int) (fuel : Nat) (hrest : Numeral.EndsBefore rest) :
    readValue (fuel + 1) ((toString i).toList ++ rest) =
      match (Numeral.ofInt i).value with
      | some number => (.number number, some rest)
      | none =>
        (.flawed (Flaw.turnAway { reading := .numberOutOfRange, skipping := none }),
          some rest) := by
  obtain ⟨c, cs, hcs, hc⟩ := exists_toString i rest
  have htake := Numeral.take_toString i hrest
  rw [hcs] at htake ⊢
  rw [readValue_numeral fuel hc, readNumeral, htake]
  dsimp only
  cases (Numeral.ofInt i).value <;> rfl

/-- The canonical decimal form of an integer is read as the value of its numeral. -/
theorem readValue_integer (hvalue : (Numeral.ofInt i).value = some number) (fuel : Nat)
    (hrest : Numeral.EndsBefore rest) :
    readValue (fuel + 1) ((toString i).toList ++ rest) = (.number number, some rest) := by
  rw [readValue_toString i fuel hrest, hvalue]

/-- As a document, the canonical decimal form of an integer is a number exactly if the numeral has
that value. -/
theorem root_ofText_integer :
    (Document.ofText (toString i)).root = .number number ↔
      (Numeral.ofInt i).value = some number := by
  have hread := @readValue_toString [] i (3 * (toString i).toList.length + 2)
    fun c hc => nomatch hc
  rw [List.append_nil] at hread
  rw [Document.ofText, Document.ofChars, hread]
  cases (Numeral.ofInt i).value with
  | none => simp [limitDepth]
  | some other => simp [limitDepth]

end SchemaLedger.Json
