import SchemaLedger.Text.Search
import Mathlib.Tactic.Common

/-!
# Beginnings of texts

What a statement does is told from its first words.  A text that begins with some words does not
begin with words that differ from them at a place that both have (`differ`), whatever follows in
either; so the words can be compared by evaluation while the rest of the texts is left open.
-/

namespace SchemaLedger.Text

/-- Whether two lists of characters differ at a place that both of them have. -/
def differ : List Char → List Char → Bool
  | c :: cs, d :: ds => c != d || differ cs ds
  | _, _ => false

/-- Lists that differ at a common place are not continued to lists of which one begins with the
other. -/
lemma isPrefixOf_append_eq_false {cs ds : List Char} (h : differ cs ds = true)
    (es fs : List Char) : (ds ++ fs).isPrefixOf (cs ++ es) = false := by
  induction cs generalizing ds with
  | nil => simp [differ] at h
  | cons c cs ih =>
    cases ds with
    | nil => simp [differ] at h
    | cons d ds =>
      rw [differ, Bool.or_eq_true_iff] at h
      rw [List.cons_append, List.cons_append, List.isPrefixOf]
      rcases h with h | h
      · have hne : (d == c) = false := by
          rw [bne_iff_ne] at h
          exact beq_false_of_ne (Ne.symm h)
        rw [hne, Bool.false_and]
      · rw [ih h, Bool.and_false]

/-- A text begins with `start` exactly if something follows `start` in it. -/
lemma beginsWith_iff {text start : String} :
    beginsWith text start = true ↔ ∃ rest, text.toList = start.toList ++ rest := by
  rw [beginsWith, List.isPrefixOf_iff_prefix]
  constructor
  · rintro ⟨rest, h⟩
    exact ⟨rest, h.symm⟩
  · rintro ⟨rest, h⟩
    exact ⟨rest, h.symm⟩

/-- A text begins with its own first words. -/
lemma beginsWith_append (start rest : String) : beginsWith (start ++ rest) start = true :=
  beginsWith_iff.mpr ⟨rest.toList, String.toList_append⟩

/-- A text begins with itself. -/
lemma beginsWith_self (text : String) : beginsWith text text = true :=
  beginsWith_iff.mpr ⟨[], (List.append_nil _).symm⟩

/-- A text that begins with a longer beginning begins with a shorter one. -/
lemma beginsWith_of_append {text start more : String} (h : beginsWith text (start ++ more) = true) :
    beginsWith text start = true := by
  obtain ⟨rest, h⟩ := beginsWith_iff.mp h
  refine beginsWith_iff.mpr ⟨more.toList ++ rest, ?_⟩
  rw [h, String.toList_append, List.append_assoc]

/-- A text that begins with some words does not begin with words that differ from them. -/
lemma beginsWith_eq_false {text words other : String} (h : beginsWith text words = true)
    (hdiffer : differ words.toList other.toList = true) : beginsWith text other = false := by
  obtain ⟨rest, htext⟩ := beginsWith_iff.mp h
  have hprefix := isPrefixOf_append_eq_false hdiffer rest []
  rwa [beginsWith, htext, ← List.append_nil other.toList]

/-- A text that begins with some words does not begin with a continuation of words that differ from
them. -/
lemma beginsWith_append_eq_false {text words other : String} (h : beginsWith text words = true)
    (hdiffer : differ words.toList other.toList = true) (more : String) :
    beginsWith text (other ++ more) = false := by
  by_contra hmore
  rw [Bool.not_eq_false] at hmore
  have hother := beginsWith_of_append hmore
  rw [beginsWith_eq_false h hdiffer] at hother
  contradiction

end SchemaLedger.Text
