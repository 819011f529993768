import SchemaLedger.Json.Writer
import SchemaLedger.Sql.Quoted
import Mathlib.Tactic.Common

/-!
# String literals of MySQL

By default MySQL reads a string between single or double quotes.  A quote inside it is written twice
or behind a backslash, and a backslash makes a pair with the character behind it that stands for one
character, or for two (`StringLiteral.unescape`).

A string literal with doubled quotes is read back if it has no backslash (`value?_quoteString`).  A
written string of a document is always one complete literal, and what it is read as is known
character by character (`value?_quote`).
-/

namespace SchemaLedger.Sql.StringLiteral

/-- What a backslash and the character behind it stand for. -/
def unescape : Char → List Char
  | '0' => ['\x00']
  | 'b' => ['\x08']
  | 't' => ['\t']
  | 'n' => ['\n']
  | 'r' => ['\r']
  | 'Z' => ['\x1a']
  | '%' => ['\\', '%']
  | '_' => ['\\', '_']
  | c => [c]

/-- Reads a literal from behind its opening quote, up to and with the quote that closes it. -/
def readRest (quote : Char) : List Char → Option (List Char × List Char)
  | [] => none
  | [c] => if c = quote then some ([], []) else none
  | c :: d :: cs =>
    if c = quote then
      if d = quote then (readRest quote cs).map fun (inside, rest) => (quote :: inside, rest)
      else some ([], d :: cs)
    else if c = '\\' then
      (readRest quote cs).map fun (inside, rest) => (unescape d ++ inside, rest)
    else (readRest quote (d :: cs)).map fun (inside, rest) => (c :: inside, rest)

/-- Reads a literal at the front, and gives it with what follows. -/
def read (quote : Char) : List Char → Option (List Char × List Char)
  | [] => none
  | c :: cs => if c = quote then readRest quote cs else none

/-- The value of a text that is one complete literal. -/
def value? (quote : Char) (text : String) : Option String :=
  match read quote text.toList with
  | some (inside, []) => some (String.ofList inside)
  | _ => none

variable {quote c : Char} {cs rest : List Char}

/-! ## Reading character by character -/

/-- The closing quote is read if no other quote follows it. -/
lemma readRest_quote (hrest : rest.head? ≠ some quote) :
    readRest quote (quote :: rest) = some ([], rest) := by
  cases rest with
  | nil => simp [readRest]
  | cons d rest =>
    have hne : d ≠ quote := by simpa using hrest
    simp [readRest, hne]

/-- A quote that is written twice is read as a quote. -/
lemma readRest_doubled (rest : List Char) :
    readRest quote (quote :: quote :: rest) =
      (readRest quote rest).map fun (inside, rest) => (quote :: inside, rest) := by
  simp [readRest]

/-- A character that is neither the quote nor a backslash is read as it is. -/
lemma readRest_plain (hquote : c ≠ quote) (hbackslash : c ≠ '\\') (rest : List Char) :
    readRest quote (c :: rest) =
      (readRest quote rest).map fun (inside, rest) => (c :: inside, rest) := by
  cases rest with
  | nil => simp [readRest, hquote]
  | cons d rest => simp [readRest, hquote, hbackslash]

/-- A backslash is read with the character behind it. -/
lemma readRest_pair (hquote : '\\' ≠ quote) (d : Char) (rest : List Char) :
    readRest quote ('\\' :: d :: rest) =
      (readRest quote rest).map fun (inside, rest) => (unescape d ++ inside, rest) := by
  rw [readRest, if_neg hquote, if_pos rfl]

/-! ## Doubled quotes -/

/-- A text with doubled quotes and without backslashes is read back. -/
theorem readRest_double (hbackslash : '\\' ∉ cs) (hrest : rest.head? ≠ some quote) :
    readRest quote (Quoted.double quote cs ++ quote :: rest) = some (cs, rest) := by
  induction cs with
  | nil => exact readRest_quote hrest
  | cons c cs ih =>
    have htail := ih fun hmem => hbackslash (List.mem_cons_of_mem _ hmem)
    rw [Quoted.double]
    split
    · rename_i heq
      rw [List.cons_append, List.cons_append, readRest_doubled, htail, heq]
      rfl
    · rename_i hne
      have hplain : c ≠ '\\' := fun heq => hbackslash (heq ▸ List.mem_cons_self)
      rw [List.cons_append, readRest_plain hne hplain, htail]
      rfl

/-- A string literal without backslashes is read back. -/
theorem value?_quoteString {s : String} (h : '\\' ∉ s.toList) :
    value? '\x27' (quoteString s) = some s := by
  have hread : readRest '\x27' (Quoted.double '\x27' s.toList ++ ['\x27']) = some (s.toList, []) :=
    readRest_double h (by simp)
  rw [value?, toList_quoteString, Quoted.encode, read, if_pos rfl, hread]
  simp

/-! ## Written strings of documents -/

/-- What a character of a written string is read as: the control characters without a letter that
MySQL knows lose their backslash. -/
def kept (c : Char) : List Char :=
  if c = '\x0c' then ['f']
  else if c.toNat < 0x20 ∧ c ≠ '\x08' ∧ c ≠ '\t' ∧ c ≠ '\n' ∧ c ≠ '\r' then
    ['u', '0', '0', Json.hexDigit (c.toNat / 16), Json.hexDigit c.toNat]
  else [c]

/-- A hexadecimal digit is no quote and no backslash. -/
lemma hexDigit_plain (n : Nat) : Json.hexDigit n ≠ '"' ∧ Json.hexDigit n ≠ '\\' := by
  have hdigits : ∀ m < 16, Nat.digitChar m ≠ '"' ∧ Nat.digitChar m ≠ '\\' := by decide
  exact hdigits (n % 16) (Nat.mod_lt n (by decide))

/-- The word of a control character is read as its letter and its digits. -/
lemma readRest_control (c : Char) (rest : List Char) :
    readRest '"' (['\\', 'u', '0', '0', Json.hexDigit (c.toNat / 16), Json.hexDigit c.toNat] ++
        rest) =
      (readRest '"' rest).map fun (inside, rest) =>
        (['u', '0', '0', Json.hexDigit (c.toNat / 16), Json.hexDigit c.toNat] ++ inside, rest) := by
  have hhigh := hexDigit_plain (c.toNat / 16)
  have hlow := hexDigit_plain c.toNat
  simp only [List.cons_append, List.nil_append]
  rw [readRest_pair (by decide), readRest_plain (by decide) (by decide),
    readRest_plain (by decide) (by decide), readRest_plain hhigh.1 hhigh.2,
    readRest_plain hlow.1 hlow.2]
  cases readRest '"' rest <;> rfl

/-- The written form of a character is read as what is kept of it. -/
lemma readRest_escapeChar (c : Char) (rest : List Char) :
    readRest '"' (Json.escapeChar c ++ rest) =
      (readRest '"' rest).map fun (inside, rest) => (kept c ++ inside, rest) := by
  unfold Json.escapeChar
  split_ifs with hquote hbackslash hb hf hn hr ht hcontrol
  · subst hquote; exact readRest_pair (by decide) _ rest
  · subst hbackslash; exact readRest_pair (by decide) _ rest
  · subst hb; exact readRest_pair (by decide) _ rest
  · subst hf; exact readRest_pair (by decide) _ rest
  · subst hn; exact readRest_pair (by decide) _ rest
  · subst hr; exact readRest_pair (by decide) _ rest
  · subst ht; exact readRest_pair (by decide) _ rest
  · have hkept : kept c =
        ['u', '0', '0', Json.hexDigit (c.toNat / 16), Json.hexDigit c.toNat] := by
      rw [kept, if_neg hf, if_pos ⟨hcontrol, hb, ht, hn, hr⟩]
    rw [hkept]
    exact readRest_control c rest
  · have hkept : kept c = [c] := by
      rw [kept, if_neg hf, if_neg fun h => hcontrol h.1]
    rw [hkept]
    exact readRest_plain hquote hbackslash rest

/-- From behind its opening quote, a written string is read up to its closing quote. -/
theorem readRest_escape (cs : List Char) (hrest : rest.head? ≠ some '"') :
    readRest '"' (Json.escape cs ++ '"' :: rest) = some (cs.flatMap kept, rest) := by
  induction cs with
  | nil => exact readRest_quote hrest
  | cons c cs ih =>
    rw [Json.escape_cons, List.append_assoc, readRest_escapeChar, ih]
    rfl

/-- A written string is one complete literal. -/
theorem value?_quote (s : String) :
    value? '"' (Json.quote s) = some (String.ofList (s.toList.flatMap kept)) := by
  have hread : readRest '"' (Json.escape s.toList ++ ['"']) = some (s.toList.flatMap kept, []) :=
    readRest_escape s.toList (by simp)
  rw [value?, Json.toList_quote, read, if_pos rfl, hread]

end SchemaLedger.Sql.StringLiteral
