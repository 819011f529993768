import SchemaLedger.Text.Search
import Mathlib.Data.List.Basic
import Mathlib.Tactic.Common

/-!
# Pieces between separators

Cutting a text at a separator and joining pieces with it undo each other.  Pieces have no separator
in them, and texts without separators that are joined are the pieces of what is made of them
(`split_join`), so a text is known by its pieces (`split_inj`).  A separator in the middle cuts a
text into two parts with pieces of their own (`splitOn_append`).
-/

namespace SchemaLedger.Text

variable {separator : Char} {cs ds : List Char} {s t : String}

/-- A text without separators is one piece. -/
lemma splitOn_of_not_mem (h : separator ∉ cs) : splitOn separator cs = [cs] := by
  induction cs with
  | nil => rfl
  | cons c cs ih =>
    rw [List.mem_cons, not_or] at h
    rw [splitOn, if_neg (Ne.symm h.1), ih h.2]
    rfl

lemma split_of_not_mem (h : separator ∉ s.toList) : split separator s = [s] := by
  rw [split, splitOn_of_not_mem h]
  simp

/-- The pieces around a separator are those in front of it and those behind it. -/
lemma splitOn_append (separator : Char) (cs ds : List Char) :
    splitOn separator (cs ++ separator :: ds) = splitOn separator cs ++ splitOn separator ds := by
  induction cs with
  | nil => simp [splitOn]
  | cons c cs ih =>
    rw [List.cons_append, splitOn, splitOn, ih]
    split
    · rfl
    · obtain ⟨piece, pieces, hpieces⟩ := List.exists_cons_of_ne_nil (splitOn_ne_nil separator cs)
      rw [hpieces]
      rfl

/-- A text with a separator has at least two pieces. -/
lemma splitOn_of_mem (h : separator ∈ cs) :
    ∃ first second others, splitOn separator cs = first :: second :: others := by
  obtain ⟨front, rest, rfl⟩ := List.append_of_mem h
  obtain ⟨first, more, hfront⟩ := List.exists_cons_of_ne_nil (splitOn_ne_nil separator front)
  obtain ⟨last, others, hrest⟩ := List.exists_cons_of_ne_nil (splitOn_ne_nil separator rest)
  rw [splitOn_append, hfront, hrest]
  cases more with
  | nil => exact ⟨first, last, others, rfl⟩
  | cons second more => exact ⟨first, second, more ++ last :: others, rfl⟩

/-- The pieces of a text are the text again when the separator is put between them. -/
lemma intercalate_splitOn (separator : Char) (cs : List Char) :
    [separator].intercalate (splitOn separator cs) = cs := by
  induction cs with
  | nil => rfl
  | cons c cs ih =>
    obtain ⟨piece, pieces, hpieces⟩ := List.exists_cons_of_ne_nil (splitOn_ne_nil separator cs)
    rw [hpieces] at ih
    rw [splitOn, hpieces]
    by_cases hc : c = separator
    · rw [if_pos hc, List.intercalate_cons_cons, ih, hc]
      rfl
    · rw [if_neg hc, ← ih]
      cases pieces <;> simp [consFirst]

/-- A text is known by its pieces. -/
lemma split_inj (h : split separator s = split separator t) : s = t := by
  have hpieces : splitOn separator s.toList = splitOn separator t.toList :=
    List.map_injective_iff.mpr (fun _ _ => String.ofList_injective) h
  rw [← String.toList_inj, ← intercalate_splitOn separator s.toList, hpieces,
    intercalate_splitOn]

/-- There is no separator in a piece. -/
lemma not_mem_of_mem_splitOn {piece : List Char} (h : piece ∈ splitOn separator cs) :
    separator ∉ piece := by
  induction cs generalizing piece with
  | nil =>
    rw [splitOn, List.mem_singleton] at h
    rw [h]
    exact List.not_mem_nil
  | cons c cs ih =>
    rw [splitOn] at h
    split at h
    · rcases List.mem_cons.mp h with rfl | h
      · exact List.not_mem_nil
      · exact ih h
    · rename_i hc
      obtain ⟨first, others, hpieces⟩ := List.exists_cons_of_ne_nil (splitOn_ne_nil separator cs)
      rw [hpieces] at ih h
      rcases List.mem_cons.mp h with rfl | h
      · have hfirst := ih List.mem_cons_self
        exact fun hmem => (List.mem_cons.mp hmem).elim (fun heq => hc heq.symm) hfirst
      · exact ih (List.mem_cons_of_mem _ h)

/-- Texts without separators are the pieces of what is joined of them. -/
lemma split_join {texts : List String} (hne : texts ≠ [])
    (h : ∀ text ∈ texts, separator ∉ text.toList) :
    split separator (join (String.ofList [separator]) texts) = texts := by
  induction texts with
  | nil => exact absurd rfl hne
  | cons text texts ih =>
    obtain ⟨htext, hrest⟩ := List.forall_mem_cons.mp h
    cases texts with
    | nil => exact split_of_not_mem htext
    | cons next texts =>
      have hchars : (join (String.ofList [separator]) (text :: next :: texts)).toList =
          text.toList ++ separator ::
            (join (String.ofList [separator]) (next :: texts)).toList := by
        simp [join]
      have hjoin := ih (List.cons_ne_nil _ _) hrest
      rw [split] at hjoin
      rw [split, hchars, splitOn_append, splitOn_of_not_mem htext, List.map_append, hjoin]
      simp

end SchemaLedger.Text
