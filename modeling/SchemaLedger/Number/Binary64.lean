import SchemaLedger.Number.Power

/-!
# Double precision numbers

A double is a sign, a mantissa below `2 ^ 53` and an exponent from `-1074` to `971`, or an infinity,
or not a number. Every operation computes the exact quotient of two natural numbers and rounds it
once, to the nearest double and in a tie to the even mantissa.
-/

namespace SchemaLedger

/-- A binary floating-point number of double precision; `finite s m e` is `± m * 2 ^ e`. -/
inductive Binary64 where
  | finite (negative : Bool) (mantissa : Nat) (exponent : Int)
  | infinite (negative : Bool)
  | nan
  deriving DecidableEq, Repr

namespace Binary64

/-- The least exponent of a double. -/
def minExponent : Int := -1074

/-- The greatest exponent of a double. -/
def maxExponent : Int := 971

/-- Zero, with a sign. -/
def zero (negative : Bool) : Binary64 := .finite negative 0 minExponent

instance : Inhabited Binary64 := ⟨zero false⟩

/-- The factor `2 ^ e` of a numerator, for `e` that is not negative. -/
def scaleUp (e : Int) : Nat := twoPow e.toNat

/-- The factor of a denominator that stands for `2 ^ e` with a negative `e`. -/
def scaleDown (e : Int) : Nat := twoPow (-e).toNat

/-- The greatest `k` with `2 ^ k ≤ num / den`, for positive arguments. -/
def floorLog (num den : Nat) : Int :=
  let k : Int := (num.log2 : Int) - (den.log2 : Int)
  if den * scaleUp k ≤ num * scaleDown k then k else k - 1

/-- The nearest integer to `num / den`, in a tie the even one. -/
def roundEven (num den : Nat) : Nat :=
  let q := num / den
  let r := num % den
  if 2 * r < den then q
  else if den < 2 * r then q + 1
  else if q % 2 = 0 then q else q + 1

/-- A mantissa of at most `2 ^ 53` with its exponent, brought to the range of doubles. -/
def normal (negative : Bool) (mantissa : Nat) (exponent : Int) : Binary64 :=
  let m := if mantissa = twoPow 53 then twoPow 52 else mantissa
  let e := if mantissa = twoPow 53 then exponent + 1 else exponent
  if maxExponent < e then .infinite negative else .finite negative m e

/-- The double nearest to `± num / den`; a zero denominator counts as an infinite quotient. -/
def ofQuotient (negative : Bool) (num den : Nat) : Binary64 :=
  if den = 0 then .infinite negative
  else if num = 0 then zero negative
  else
    let e := max minExponent (floorLog num den - 52)
    normal negative (roundEven (num * scaleDown e) (den * scaleUp e)) e

/-- The double nearest to a natural number. -/
def ofNat (n : Nat) : Binary64 := ofQuotient false n 1

/-- The double with the other sign. -/
def neg : Binary64 → Binary64
  | .finite s m e => .finite (!s) m e
  | .infinite s => .infinite (!s)
  | .nan => .nan

/-- Whether a double is one of the zeros. -/
def isZero : Binary64 → Bool
  | .finite _ m _ => m == 0
  | _ => false

/-- Whether a double is one of the infinities. -/
def isInfinite : Binary64 → Bool
  | .infinite _ => true
  | _ => false

/-- The product of two finite doubles, rounded once. -/
def mul : Binary64 → Binary64 → Binary64
  | .finite s m e, .finite t n f =>
    ofQuotient (s != t) (m * n * scaleUp (e + f)) (scaleDown (e + f))
  | .infinite s, .finite t _ _ => .infinite (s != t)
  | .finite s _ _, .infinite t => .infinite (s != t)
  | .infinite s, .infinite t => .infinite (s != t)
  | _, _ => .nan

/-- The quotient of two finite doubles, rounded once. -/
def div : Binary64 → Binary64 → Binary64
  | .finite s m e, .finite t n f =>
    ofQuotient (s != t) (m * scaleUp (e - f)) (n * scaleDown (e - f))
  | .infinite s, .finite t _ _ => .infinite (s != t)
  | .finite s _ _, .infinite t => zero (s != t)
  | _, _ => .nan

/-- The double nearest to a power of ten. -/
def powerOfTen (k : Nat) : Binary64 := ofNat (tenPow k)

end Binary64

end SchemaLedger
