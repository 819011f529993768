import SchemaLedger.Number.Decimal
import SchemaLedger.Proofs.Json.WrittenIntegers
import Mathlib.Data.List.DropRight

/-!
# Shortest digits

The decimal of a double is searched with one digit, then with two, and so on.  A decimal that is
found with a number of digits has at most that many (`Decimal.Interval.length_candidate`), so a
double is written with at most eighteen digits, and zeros behind them (`Decimal.length_shortest`).
An integer with more digits, of which the last one is not a zero, is therefore not the text of any
double (`Binary64.toText_ne_toString`).
-/

namespace SchemaLedger

namespace Decimal

variable {n num den count : Nat} {k : Int} {tie : Tie}

/-! ## Digits of powers of ten -/

lemma tenPow_add (j k : Nat) : tenPow (j + k) = tenPow j * tenPow k := Nat.pow_add 10 j k

lemma tenPow_pos (k : Nat) : 0 < tenPow k := Nat.pow_pos (by decide)

lemma toDigits_tenPow (count : Nat) :
    Nat.toDigits 10 (tenPow count) = '1' :: List.replicate count '0' := by
  induction count with
  | zero => rfl
  | succ count ih =>
    have hdigits := Nat.toDigits_append_toDigits (b := 10) (d := 0) (by decide)
      (tenPow_pos count) (by decide)
    have hzero : Nat.toDigits 10 0 = ['0'] := rfl
    rw [tenPow_succ, Nat.mul_comm, ← Nat.add_zero (10 * tenPow count), ← hdigits, ih, hzero,
      List.cons_append, ← List.replicate_succ']

lemma length_dropZeros_le (digits : List Char) : (dropZeros digits).length ≤ digits.length :=
  (List.rdropWhile_prefix _ digits).length_le

/-- The digits of a number up to a power of ten, without the zeros at their end. -/
lemma length_dropZeros_digitsOf (hcount : 0 < count) (hn : n ≤ tenPow count) :
    (dropZeros (digitsOf n)).length ≤ count := by
  rcases Nat.lt_or_eq_of_le hn with hn | rfl
  · exact Nat.le_trans (length_dropZeros_le _)
      ((Nat.length_toDigits_le_iff (by decide) hcount).mpr hn)
  · have hzeros : ∀ c ∈ List.replicate count '0', (c == '0') = true := fun c hc =>
      beq_iff_eq.mpr (List.eq_of_mem_replicate hc)
    have hone : dropZeros ('1' :: List.replicate count '0') = ['1'] := by
      rw [dropZeros, List.reverse_cons, List.reverse_replicate,
        List.dropWhile_append_of_pos hzeros]
      rfl
    rw [digitsOf, toDigits_tenPow, hone]
    exact hcount

/-! ## The search -/

/-- A number has as many digits as the power of ten that it reaches. -/
lemma tenPow_length_le (hn : 0 < n) : tenPow ((digitsOf n).length - 1) ≤ n := by
  by_contra hlt
  have hpos : 0 < (digitsOf n).length := Nat.length_toDigits_pos
  by_cases hone : (digitsOf n).length - 1 = 0
  · rw [hone, tenPow_zero] at hlt
    exact hlt hn
  · have hlength := (Nat.length_toDigits_le_iff (by decide) (Nat.pos_of_ne_zero hone)).mpr
      (Nat.not_le.mp hlt)
    change (digitsOf n).length ≤ _ at hlength
    omega

/-- The value of an interval lies below a power of ten. -/
def Interval.Below (i : Interval) (k : Int) : Prop :=
  i.value * tenPow (-k).toNat < i.den * tenPow k.toNat

variable {i : Interval} {d : Decimal}

/-- A quotient lies below the power of ten of its magnitude. -/
lemma below_magnitude (hvalue : 0 < i.value) (hden : 0 < i.den) :
    i.Below (magnitude i.value i.den) := by
  have hlength : ∀ n, n < tenPow (digitsOf n).length := fun n =>
    (Nat.length_toDigits_le_iff (by decide) Nat.length_toDigits_pos).mp (Nat.le_refl _)
  unfold Interval.Below magnitude
  split
  · have hq := (Nat.div_lt_iff_lt_mul hden).mp (hlength (i.value / i.den))
    generalize (digitsOf (i.value / i.den)).length = length at hq
    have hup : (length : Int).toNat = length := Int.toNat_natCast length
    have hdown : (-(length : Int)).toNat = 0 := by omega
    rw [hup, hdown, tenPow_zero, Nat.mul_one, Nat.mul_comm]
    exact hq
  · rename_i hlt
    have hpower := tenPow_length_le (Nat.div_pos (Nat.le_of_not_le hlt) hvalue)
    generalize (digitsOf (i.den / i.value)).length - 1 = j at hpower
    have hbelow : i.value * tenPow j ≤ i.den := by
      rw [Nat.mul_comm]
      exact (Nat.le_div_iff_mul_le hvalue).mp hpower
    dsimp only
    split
    · rename_i hreach
      cases j with
      | zero =>
        rw [tenPow_zero, Nat.mul_one] at hreach
        exact absurd hreach hlt
      | succ j =>
        have hup : (1 - ((j + 1 : Nat) : Int)).toNat = 0 := by omega
        have hdown : (-(1 - ((j + 1 : Nat) : Int))).toNat = j := by omega
        have hmore : i.value * tenPow j < i.value * tenPow (j + 1) := by
          rw [tenPow_succ]
          have hpos := Nat.mul_pos hvalue (tenPow_pos j)
          rw [← Nat.mul_assoc]
          omega
        rw [hup, hdown, tenPow_zero, Nat.mul_one]
        exact Nat.lt_of_lt_of_le hmore hbelow
    · rename_i hshort
      have hup : (-(j : Int)).toNat = 0 := by omega
      have hdown : (-(-(j : Int))).toNat = j := by omega
      rw [hup, hdown, tenPow_zero, Nat.mul_one]
      exact Nat.not_le.mp hshort

/-- The first digits of the value of an interval are as many as are asked for. -/
lemma floor_lt (hk : i.Below k) (hden : 0 < i.den) (count : Nat) :
    i.value * tenPow (-(k - count)).toNat / (i.den * tenPow (k - count).toNat) < tenPow count := by
  have hpower : k.toNat + (-(k - count)).toNat =
      (k - count).toNat + count + (-k).toNat := by omega
  have hscaled : i.value * tenPow (-(k - count)).toNat * tenPow (-k).toNat <
      tenPow count * (i.den * tenPow (k - count).toNat) * tenPow (-k).toNat := by
    calc i.value * tenPow (-(k - count)).toNat * tenPow (-k).toNat
      _ = i.value * tenPow (-k).toNat * tenPow (-(k - count)).toNat := Nat.mul_right_comm _ _ _
      _ < i.den * tenPow k.toNat * tenPow (-(k - count)).toNat :=
        Nat.mul_lt_mul_of_pos_right hk (tenPow_pos _)
      _ = i.den * tenPow ((k - count).toNat + count + (-k).toNat) := by
        rw [Nat.mul_assoc, ← tenPow_add, hpower]
      _ = tenPow count * (i.den * tenPow (k - count).toNat) * tenPow (-k).toNat := by
        rw [tenPow_add, tenPow_add]
        ac_rfl
  exact (Nat.div_lt_iff_lt_mul (Nat.mul_pos hden (tenPow_pos _))).mpr
    (Nat.lt_of_mul_lt_mul_right hscaled)

/-- A decimal that is found with a number of digits has at most that many. -/
lemma Interval.length_candidate (hk : i.Below k) (hden : 0 < i.den) (hcount : 0 < count)
    (h : i.candidate tie k count = some d) : d.digits.length ≤ count := by
  have hfloor := floor_lt hk hden count
  simp only [candidate, Option.map_eq_some_iff] at h
  obtain ⟨n, hn, rfl⟩ := h
  refine length_dropZeros_digitsOf hcount ?_
  generalize i.value * tenPow (-(k - count)).toNat / (i.den * tenPow (k - count).toNat) = floor
    at hfloor hn
  have hpick : tie.pick floor ≤ floor + 1 := by
    cases tie with
    | toGreater => exact Nat.le_refl _
    | toEven =>
      rw [Tie.pick]
      split <;> omega
  have hle : n ≤ floor + 1 := by
    split_ifs at hn <;> cases hn <;> omega
  omega

lemma Interval.length_search (hk : i.Below k) (hden : 0 < i.den) (hcount : 0 < count)
    (tries : Nat) : (i.search tie k tries count).digits.length ≤ count + tries := by
  induction tries generalizing count with
  | zero =>
    rw [search]
    cases hfound : i.candidate tie k count with
    | none => exact hcount
    | some d => exact i.length_candidate hk hden hcount hfound
  | succ tries ih =>
    rw [search]
    cases hfound : i.candidate tie k count with
    | none =>
      have hmore : (i.search tie k tries (count + 1)).digits.length ≤ count + 1 + tries :=
        ih (Nat.succ_pos count)
      dsimp only
      omega
    | some d =>
      have hlength := i.length_candidate hk hden hcount hfound
      dsimp only
      omega

/-- A double is written with at most eighteen digits, and zeros. -/
theorem length_shortest {m : Nat} (hm : m ≠ 0) (e : Int) :
    (shortest tie m e).digits.length ≤ 18 := by
  have hpos : ∀ k, 0 < twoPow k := fun k => Nat.pow_pos (by decide)
  have hvalue : 0 < (interval m e).value :=
    Nat.mul_pos (Nat.mul_pos (by decide) (Nat.pos_of_ne_zero hm)) (hpos _)
  have hden : 0 < (interval m e).den := hpos _
  exact Interval.length_search (below_magnitude hvalue hden) hden (by decide) 17

/-- A decimal that is written without a point and without a zero at its end is written with its
digits alone. -/
lemma length_plain (hpoint : '.' ∉ plain d) (hlast : (plain d).getLast? ≠ some '0') :
    (plain d).length ≤ d.digits.length := by
  unfold plain at *
  dsimp only at *
  split_ifs at * with hsmall hlarge
  · exact absurd (List.mem_cons_of_mem _ List.mem_cons_self) hpoint
  · cases hzeros : (d.point - (d.digits.length : Int)).toNat with
    | zero => rw [List.replicate_zero, List.append_nil]
    | succ zeros =>
      rw [hzeros, List.replicate_succ', ← List.append_assoc, List.getLast?_concat] at hlast
      exact absurd rfl hlast
  · exact absurd (List.mem_append_right _ List.mem_cons_self) hpoint

end Decimal

/-! ## Integers that are the text of no double -/

/-- The last digit of a number that ten does not divide is not a zero. -/
lemma last_toDigits {n : Nat} (hn : n % 10 ≠ 0) : (Nat.toDigits 10 n).getLast? ≠ some '0' := by
  have hdigits : ∀ d < 10, d ≠ 0 → Nat.digitChar d ≠ '0' := by decide
  rw [Nat.toDigits_eq_if (by decide)]
  split
  · rename_i hlt
    rw [Nat.mod_eq_of_lt hlt] at hn
    simpa using hdigits n hlt hn
  · simpa using hdigits (n % 10) (Nat.mod_lt n (by decide)) hn

/-- An integer with more than eighteen digits that does not end in a zero is not the text of a
double. -/
theorem Binary64.toText_ne_toString (f : Binary64) {i : Int} (hsize : tenPow 18 ≤ i.natAbs)
    (hlast : i.natAbs % 10 ≠ 0) : f.toText ≠ toString i := by
  intro htext
  have hchars := (congrArg String.toList htext).trans (Json.Numeral.toList_toString i)
  have hlong : 18 < (Nat.toDigits 10 i.natAbs).length := by
    by_contra hshort
    have hlt := (Nat.length_toDigits_le_iff (b := 10) (k := 18) (by decide) (by decide)).mp
      (Nat.not_lt.mp hshort)
    exact absurd hlt (Nat.not_lt.mpr hsize)
  have hpoint : '.' ∉ Nat.toDigits 10 i.natAbs := fun hmem =>
    absurd (Json.isDigit_of_mem_toDigits hmem) (by decide)
  have hzero := last_toDigits hlast
  obtain ⟨c, cs, hdigits, hc⟩ := Json.exists_toDigits i.natAbs
  rw [hdigits] at hchars hlong hpoint hzero
  have hlengths := congrArg List.length hchars
  rw [List.length_append] at hlengths
  cases f with
  | nan =>
    have htext : nan.toText.toList.length = 3 := rfl
    omega
  | infinite negative =>
    have htext : (infinite negative).toText.toList.length ≤ 4 := by cases negative <;> decide
    omega
  | finite negative m e =>
    rw [toText, String.toList_ofList] at hchars
    -- Behind the sign of the double stand the digits of the integer, maybe with its sign.
    have hrest : ∀ digits, (if negative then '-' :: digits else digits) =
        (if i < 0 then ['-'] else []) ++ c :: cs → digits = c :: cs ∨ digits = '-' :: c :: cs := by
      intro digits heq
      split_ifs at heq
      · exact .inl (List.cons.inj heq).2
      · have hsign := (List.cons.inj heq).1
        rw [← hsign] at hc
        cases hc
      · exact .inr heq
      · exact .inl heq
    have hplain := hrest _ hchars
    by_cases hm : m = 0
    · rw [if_pos hm] at hplain
      rcases hplain with hplain | hplain
      · have hone := congrArg List.length hplain
        rw [List.length_singleton] at hone
        omega
      · cases hplain
    · rw [if_neg hm] at hplain
      have hshort := @Decimal.length_shortest .toGreater m hm e
      have hlength := @Decimal.length_plain (Decimal.shortest .toGreater m e)
      rcases hplain with hplain | hplain <;> rw [hplain] at hlength
      · have hdigits := hlength hpoint hzero
        omega
      · have hsigned : '.' ∉ '-' :: c :: cs := by
          rw [List.mem_cons, not_or]
          exact ⟨by decide, hpoint⟩
        rw [List.getLast?_cons_cons, List.length_cons] at hlength
        have hdigits := hlength hsigned hzero
        omega

end SchemaLedger
