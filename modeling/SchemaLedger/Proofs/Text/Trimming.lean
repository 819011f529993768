import SchemaLedger.Text.Blank
import Mathlib.Data.List.DropRight
import Mathlib.Tactic.Common

/-!
# Trimming

What is dropped at the end of a list is its last run, so a run more or less at the end does not
matter.  A text with white space put around it is trimmed to itself, if it does not have white space
at its own ends (`Padded.trim_eq`).
-/

namespace SchemaLedger.Text

variable {p : Char → Bool} {cs run : List Char} {s padded : String}

/-! ## Dropping at an end -/

/-- A list is its part that is left and a run of what is dropped behind it. -/
lemma exists_run (p : Char → Bool) (cs : List Char) :
    ∃ run, cs = dropEndWhile p cs ++ run ∧ ∀ c ∈ run, p c = true :=
  ⟨cs.rtakeWhile p, List.rdropWhile_append_rtakeWhile.symm, fun _ => List.mem_rtakeWhile_imp⟩

/-- What is left does not end in what is dropped. -/
lemma last_dropEndWhile (p : Char → Bool) (cs : List Char) :
    ∀ c ∈ (dropEndWhile p cs).getLast?, p c = false := by
  intro c hc
  obtain ⟨hne, rfl⟩ := List.mem_getLast?_eq_getLast hc
  rw [← Bool.not_eq_true]
  exact List.rdropWhile_last_not p cs hne

/-- A run of what is dropped does not matter at the end. -/
lemma dropEndWhile_append_run (h : ∀ c ∈ run, p c = true) (cs : List Char) :
    dropEndWhile p (cs ++ run) = dropEndWhile p cs := by
  induction run using List.reverseRecOn with
  | nil => rw [List.append_nil]
  | append_singleton run c ih =>
    rw [List.forall_mem_append, List.forall_mem_singleton] at h
    rw [← List.append_assoc, ← ih h.1]
    exact List.rdropWhile_concat_pos p _ c h.2

/-- Nothing is dropped of a list that does not end in what is dropped. -/
lemma dropEndWhile_of_last (h : ∀ c ∈ cs.getLast?, p c = false) : dropEndWhile p cs = cs := by
  refine List.rdropWhile_eq_self_iff.mpr fun hne hp => ?_
  rw [h _ (List.getLast_mem_getLast? hne)] at hp
  cases hp

/-- A front that does not end in what is dropped stays in front of what is left of the rest. -/
lemma dropEndWhile_append_of_last (h : ∀ c ∈ cs.getLast?, p c = false) (rest : List Char) :
    dropEndWhile p (cs ++ rest) = cs ++ dropEndWhile p rest := by
  induction rest using List.reverseRecOn with
  | nil =>
    rw [List.append_nil, dropEndWhile_of_last h]
    exact (List.append_nil cs).symm
  | append_singleton rest c ih =>
    rw [← List.append_assoc]
    cases hp : p c with
    | true =>
      have hfirst : dropEndWhile p (cs ++ rest ++ [c]) = dropEndWhile p (cs ++ rest) :=
        List.rdropWhile_concat_pos p _ c hp
      have hsecond : dropEndWhile p (rest ++ [c]) = dropEndWhile p rest :=
        List.rdropWhile_concat_pos p _ c hp
      rw [hfirst, hsecond, ih]
    | false =>
      have hfirst : dropEndWhile p (cs ++ rest ++ [c]) = cs ++ rest ++ [c] :=
        List.rdropWhile_concat_neg p _ c (ne_true_of_eq_false hp)
      have hsecond : dropEndWhile p (rest ++ [c]) = rest ++ [c] :=
        List.rdropWhile_concat_neg p _ c (ne_true_of_eq_false hp)
      rw [hfirst, hsecond, List.append_assoc]

/-! ## White space around a text -/

/-- A text without white space at its ends. -/
def IsTrimmed (s : String) : Prop :=
  (∀ c ∈ s.toList.head?, isBlank c = false) ∧ ∀ c ∈ s.toList.getLast?, isBlank c = false

/-- A text with white space put around it, or nothing. -/
def Padded (s padded : String) : Prop :=
  ∃ before behind : List Char, padded.toList = before ++ s.toList ++ behind ∧
    (∀ c ∈ before, isBlank c = true) ∧ ∀ c ∈ behind, isBlank c = true

/-- Only white space is put around a text. -/
lemma Padded.mem (h : Padded s padded) {c : Char} (hc : c ∈ padded.toList) :
    c ∈ s.toList ∨ isBlank c = true := by
  obtain ⟨before, behind, hpadded, hbefore, hbehind⟩ := h
  rw [hpadded, List.mem_append, List.mem_append] at hc
  rcases hc with (hc | hc) | hc
  · exact .inr (hbefore c hc)
  · exact .inl hc
  · exact .inr (hbehind c hc)

/-- The white space that was put around a text is trimmed. -/
lemma Padded.trim_eq (h : Padded s padded) (hs : IsTrimmed s) : trim padded = s := by
  obtain ⟨before, behind, hpadded, hbefore, hbehind⟩ := h
  refine String.toList_injective ?_
  rw [trim, toList_trimEnd, toList_trimStart, hpadded, List.append_assoc,
    List.dropWhile_append_of_pos hbefore]
  cases htext : s.toList with
  | nil =>
    rw [List.nil_append, List.dropWhile_eq_nil_iff.mpr hbehind]
    rfl
  | cons c rest =>
    have hfirst : ¬ isBlank c = true := by
      rw [hs.1 c (by rw [htext]; rfl)]
      exact Bool.false_ne_true
    rw [List.cons_append, List.dropWhile_cons_of_neg hfirst, ← List.cons_append, ← htext,
      dropEndWhile_append_run hbehind, dropEndWhile_of_last hs.2]

end SchemaLedger.Text
