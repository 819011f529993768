import SchemaLedger.Json.Reader
import SchemaLedger.Json.Writer
import Mathlib.Tactic.Common

/-!
# Strings read back

The reader of documents undoes the writer of strings: from behind the opening quote it reads the
characters that were written and stops behind the closing quote (`readString_escape`).  A written
string therefore shows where it ends, whatever follows it, and two texts that begin with written
strings are equal only if the strings and what follows them are (`quote_append_inj`).
-/

namespace SchemaLedger.Json

/-- The word of a control character is read back. -/
lemma hexWord_hexDigit : ∀ n < 0x20,
    hexWord? '0' '0' (hexDigit (n / 16)) (hexDigit n) = some n := by
  decide

/-- The escape of a control character is read back. -/
lemma readString_control {c : Char} (hc : c.toNat < 0x20) (acc rest : List Char) :
    readString (.ok acc) none
      ('\\' :: 'u' :: '0' :: '0' :: hexDigit (c.toNat / 16) :: hexDigit c.toNat :: rest) =
      readString (.ok (c :: acc)) none rest := by
  have hhigh : isHigh c.toNat = false := by
    simp only [isHigh, Bool.and_eq_false_iff, decide_eq_false_iff_not]
    omega
  have hlow : isLow c.toNat = false := by
    simp only [isLow, Bool.and_eq_false_iff, decide_eq_false_iff_not]
    omega
  rw [readString, hexWord_hexDigit _ hc]
  simp only [Text.pushWord, hhigh, hlow, Text.push, Char.ofNat_toNat]
  rfl

/-- A character without an escape is read as it is. -/
lemma readString_plain {c : Char} (hquote : c ≠ '"') (hbackslash : c ≠ '\\')
    (hcontrol : ¬c.toNat < 0x20) (acc rest : List Char) :
    readString (.ok acc) none (c :: rest) = readString (.ok (c :: acc)) none rest := by
  have hread : readString (.ok acc) none (c :: rest) =
      if c.toNat < 0x20 then (Text.stop (.ok acc) .controlCharacter, none)
      else readString (.ok (c :: acc)) none rest := by
    rw [readString] <;> simp [hquote, hbackslash, Text.settle, Text.push]
  rw [hread, if_neg hcontrol]

/-- A character is read back from its written form. -/
lemma readString_escapeChar (c : Char) (acc rest : List Char) :
    readString (.ok acc) none (escapeChar c ++ rest) =
      readString (.ok (c :: acc)) none rest := by
  unfold escapeChar
  split_ifs with hquote hbackslash hb hf hn hr ht hcontrol
  · subst hquote; rfl
  · subst hbackslash; rfl
  · subst hb; rfl
  · subst hf; rfl
  · subst hn; rfl
  · subst hr; rfl
  · subst ht; rfl
  · exact readString_control hcontrol acc rest
  · exact readString_plain hquote hbackslash hcontrol acc rest

/-- From behind its opening quote, a written string is read back, and the reading stops behind its
closing quote. -/
theorem readString_escape (cs acc rest : List Char) :
    readString (.ok acc) none (escape cs ++ '"' :: rest) =
      (.name (String.ofList (acc.reverse ++ cs)), some rest) := by
  induction cs generalizing acc with
  | nil => rw [List.append_nil]; rfl
  | cons c cs ih =>
    rw [escape_cons, List.append_assoc, readString_escapeChar, ih]
    simp

/-- Written strings are told apart, whatever follows them. -/
theorem quote_append_inj {a b : String} {rest rest' : List Char}
    (h : (quote a).toList ++ rest = (quote b).toList ++ rest') : a = b ∧ rest = rest' := by
  have hbody : escape a.toList ++ '"' :: rest = escape b.toList ++ '"' :: rest' := by
    simpa using h
  have hread := congrArg (readString (.ok []) none) hbody
  rw [readString_escape, readString_escape] at hread
  simpa using hread

end SchemaLedger.Json
