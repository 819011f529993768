import SchemaLedger.Proofs.Grammar.FirstWord

/-!
# Texts of modifiers

The definition of a column is its name and its type, and the texts of its modifiers behind them.
What a modifier writes begins with a blank (`head_fragment`), so that no text runs into the next
one.  The text of any of the modifiers can be taken out of the definition, with what stands in front
of it and what follows (`append_parts`).
-/

namespace SchemaLedger.MySql.Modifier

variable {naming : Naming} {column : Column} {modifier : Modifier} {modifiers : List Modifier}
  {start text sql : String}

/-- What a modifier writes begins with a blank. -/
lemma beginsWith_render (h : modifier.render naming column = .ok (some text)) :
    Text.beginsWith text " " = true := by
  have happend (words more : String) (hwords : Text.beginsWith words " " = true) :
      Text.beginsWith (words ++ more) " " = true := Text.beginsWith_append_right hwords more
  cases modifier
  case virtualAs | storedAs =>
    simp only [render, Except.ok.injEq, Option.map_eq_some_iff] at h
    obtain ⟨expression, -, rfl⟩ := h
    exact happend _ _ (happend _ _ (by decide))
  case defaultValue | comment | after =>
    simp only [render, Except.ok.injEq, Option.map_eq_some_iff] at h
    obtain ⟨value, -, rfl⟩ := h
    exact happend _ _ (by decide)
  case charset | collation =>
    simp only [render] at h
    split at h
    · cases h
    · split at h
      · cases h
        exact happend _ _ (by decide)
      · cases h
  case unsigned =>
    simp only [render] at h
    split at h
    · cases h
    · split at h
      · split at h
        · cases h
          decide
        · cases h
      · cases h
  case nullable =>
    simp only [render] at h
    split at h
    · cases h
    · split at h
      · cases h
        decide
      · cases h
        decide
  case autoIncrement | first =>
    simp only [render] at h
    split at h
    · cases h
      decide
    · cases h

/-- The text of a modifier is empty or what the modifier writes. -/
lemma fragment_cases (h : modifier.fragment naming column = .ok text) :
    text = "" ∨ modifier.render naming column = .ok (some text) := by
  unfold fragment at h
  split at h
  · split at h
    · cases h
    · rename_i written hwritten
      cases h
      cases written with
      | none => exact .inl rfl
      | some written => exact .inr hwritten
  · cases h
    exact .inl rfl

/-- The text of a modifier is empty or begins with a blank. -/
lemma head_fragment (h : modifier.fragment naming column = .ok text) :
    ∀ c ∈ text.toList.head?, c = ' ' := by
  intro c hc
  rcases fragment_cases h with rfl | hwritten
  · cases hc
  · obtain ⟨rest, hrest⟩ := Text.beginsWith_iff.mp (beginsWith_render hwritten)
    have hhead : text.toList.head? = some ' ' := by rw [hrest]; rfl
    rw [hhead, Option.mem_some_iff] at hc
    exact hc.symm

/-- Modifiers are written behind a text, and what they write is empty or begins with a blank. -/
lemma exists_rest (h : append naming column modifiers start = .ok sql) :
    ∃ rest, sql = start ++ rest ∧ ∀ c ∈ rest.toList.head?, c = ' ' := by
  induction modifiers generalizing start with
  | nil =>
    cases h
    exact ⟨"", String.append_empty.symm, fun c hc => (nomatch hc)⟩
  | cons modifier modifiers ih =>
    rw [append] at h
    split at h
    · cases h
    · rename_i text htext
      obtain ⟨rest, rfl, hrest⟩ := ih h
      refine ⟨text ++ rest, String.append_assoc, fun c hc => ?_⟩
      rw [String.toList_append, List.head?_append, Option.mem_def, Option.or_eq_some_iff] at hc
      rcases hc with hc | ⟨-, hc⟩
      · exact head_fragment htext c hc
      · exact hrest c hc

/-- Modifiers are written one list after the other. -/
lemma append_append (before after : List Modifier)
    (h : append naming column (before ++ after) start = .ok sql) :
    ∃ front, append naming column before start = .ok front ∧
      append naming column after front = .ok sql := by
  induction before generalizing start with
  | nil => exact ⟨start, rfl, h⟩
  | cons modifier before ih =>
    rw [List.cons_append, append] at h
    split at h
    · cases h
    · rename_i text htext
      obtain ⟨front, hfront, hsql⟩ := ih h
      refine ⟨front, ?_, hsql⟩
      rw [append, htext]
      exact hfront

/-- The text of a modifier among others stands behind what the modifiers in front of it write, and
a blank follows it unless it is the end. -/
lemma append_parts {before after : List Modifier}
    (h : append naming column (before ++ modifier :: after) start = .ok sql) :
    ∃ front text behind, append naming column before start = .ok front ∧
      modifier.fragment naming column = .ok text ∧ sql = front ++ text ++ behind ∧
      ∀ c ∈ behind.toList.head?, c = ' ' := by
  obtain ⟨front, hfront, hafter⟩ := append_append before (modifier :: after) h
  rw [append] at hafter
  split at hafter
  · cases hafter
  · rename_i text htext
    obtain ⟨behind, hsql, hbehind⟩ := exists_rest hafter
    exact ⟨front, text, behind, hfront, htext, hsql, hbehind⟩

end SchemaLedger.MySql.Modifier
