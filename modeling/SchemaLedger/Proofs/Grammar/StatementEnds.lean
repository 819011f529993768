import SchemaLedger.Grammar.Plain
import SchemaLedger.Proofs.Text.Trimming

/-!
# Ends of statements

A statement is a compiled text without the white space around it and without the semicolons at its
end, followed by one semicolon.  What stands in front of that semicolon is the body of the statement
(`Blueprint.statementBody`): it is never empty, and no white space stands at its ends.

Only one run of semicolons is taken away, though.  Where white space separates semicolons at the end
of a text, the body keeps a semicolon.  So statements end in exactly one semicolon, and are left
alike by ending them again, exactly for texts whose last semicolons stand together
(`Text.EndsTogether`, `toSql_ends`).
-/

namespace SchemaLedger

namespace Text

/-- The last character of a list, if there is one, is neither white space nor a semicolon. -/
def EndsPlain (cs : List Char) : Prop := ∀ c ∈ cs.getLast?, isBlank c = false ∧ c ≠ ';'

/-- No white space separates the semicolons at the end of a text: behind a part that ends in neither
there is white space, then semicolons, then white space. -/
def EndsTogether (text : String) : Prop :=
  ∃ front gap semicolons behind, text.toList = front ++ (gap ++ (semicolons ++ behind)) ∧
    EndsPlain front ∧ (∀ c ∈ gap, isBlank c = true) ∧ (∀ c ∈ semicolons, c = ';') ∧
    ∀ c ∈ behind, isBlank c = true

variable {cs ds : List Char}

/-! ## Plain ends -/

/-- Where there are no characters, there is none at the end that is taken away. -/
lemma EndsPlain.nil : EndsPlain [] := by
  intro c hc
  cases hc

/-- A list ends as its last part does, unless that part is empty. -/
lemma EndsPlain.append (h : EndsPlain ds) (hne : ds ≠ []) (cs : List Char) :
    EndsPlain (cs ++ ds) := by
  rw [EndsPlain, List.getLast?_append_of_ne_nil cs hne]
  exact h

/-- The last part of a list ends as the list does. -/
lemma EndsPlain.of_append (h : EndsPlain (cs ++ ds)) : EndsPlain ds := by
  intro c hc
  obtain ⟨hne, -⟩ := List.mem_getLast?_eq_getLast hc
  rw [EndsPlain, List.getLast?_append_of_ne_nil cs hne] at h
  exact h c hc

/-- A list that ends in neither, but in which there is nothing else, is empty. -/
lemma EndsPlain.eq_nil (h : EndsPlain cs) (hall : ∀ c ∈ cs, isBlank c = true ∨ c = ';') :
    cs = [] := by
  by_contra hne
  obtain ⟨hblank, hsemicolon⟩ := h _ (List.getLast_mem_getLast? hne)
  rcases hall _ (List.getLast_mem hne) with hc | hc
  · rw [hblank] at hc
    cases hc
  · exact hsemicolon hc

end Text

namespace Blueprint

open Text

/-- What is left of a compiled text in front of the semicolon of its statement. -/
def statementBody (text : String) : List Char :=
  dropEndWhile isBlank (dropEndWhile (· == ';') (trim text).toList)

/-- Characters that can be the body of a statement: there are some, and no white space stands at
their ends. -/
structure IsBody (cs : List Char) : Prop where
  ne_nil : cs ≠ []
  first : ∀ c ∈ cs.head?, isBlank c = false
  last : ∀ c ∈ cs.getLast?, isBlank c = false

variable {text sql : String}

/-- Nothing is taken away in front of a body. -/
lemma IsBody.dropWhile_append {cs : List Char} (h : IsBody cs) (rest : List Char) :
    (cs ++ rest).dropWhile isBlank = cs ++ rest := by
  cases hchars : cs with
  | nil => exact absurd hchars h.ne_nil
  | cons c cs =>
    refine List.dropWhile_cons_of_neg ?_
    rw [h.first c (hchars ▸ rfl)]
    decide

/-- A statement is a body and a semicolon. -/
lemma statement?_eq (text : String) :
    statement? text = if (statementBody text).isEmpty then none
      else some (String.ofList (statementBody text ++ [';'])) := rfl

lemma statement?_eq_none_iff : statement? text = none ↔ statementBody text = [] := by
  rw [statement?_eq, ← List.isEmpty_iff]
  split
  · rename_i hempty
    simp [hempty]
  · rename_i hempty
    simp [hempty]

lemma statement?_eq_some_iff : statement? text = some sql ↔
    statementBody text ≠ [] ∧ sql = String.ofList (statementBody text ++ [';']) := by
  rw [statement?_eq, ne_eq, ← List.isEmpty_iff]
  split
  · rename_i hempty
    simp [hempty]
  · rename_i hempty
    simp [hempty, eq_comm]

/-! ## Bodies of statements -/

/-- A text is its body between white space, and behind the body there may be semicolons in one
run. -/
lemma exists_parts (text : String) :
    ∃ before gap semicolons behind,
      text.toList = before ++ (statementBody text ++ (gap ++ (semicolons ++ behind))) ∧
      (∀ c ∈ before, isBlank c = true) ∧ (∀ c ∈ gap, isBlank c = true) ∧
      (∀ c ∈ semicolons, c = ';') ∧ ∀ c ∈ behind, isBlank c = true := by
  obtain ⟨behind, hbehind, hblank⟩ := exists_run isBlank (text.toList.dropWhile isBlank)
  obtain ⟨semicolons, hsemicolons, hall⟩ := exists_run (· == ';') (trim text).toList
  obtain ⟨gap, hgap, hgapBlank⟩ :=
    exists_run isBlank (dropEndWhile (· == ';') (trim text).toList)
  have htrim : (trim text).toList = dropEndWhile isBlank (text.toList.dropWhile isBlank) := by
    rw [trim, toList_trimEnd, toList_trimStart]
  refine ⟨text.toList.takeWhile isBlank, gap, semicolons, behind, ?_,
    fun c => List.mem_takeWhile_imp, hgapBlank, fun c hc => eq_of_beq (hall c hc), hblank⟩
  calc
    text.toList = text.toList.takeWhile isBlank ++ text.toList.dropWhile isBlank :=
      List.takeWhile_append_dropWhile.symm
    _ = text.toList.takeWhile isBlank ++ ((trim text).toList ++ behind) := by
      rw [htrim, ← hbehind]
    _ = text.toList.takeWhile isBlank ++ ((statementBody text ++ gap ++ semicolons) ++ behind) := by
      rw [statementBody, ← hgap, ← hsemicolons]
    _ = _ := by simp only [List.append_assoc]

/-- No white space stands at the ends of what is left of a text. -/
lemma isBody_statementBody (h : statementBody text ≠ []) : IsBody (statementBody text) := by
  refine ⟨h, fun c hc => ?_, last_dropEndWhile _ _⟩
  have hprefix : statementBody text <+: text.toList.dropWhile isBlank := by
    have htrim : (trim text).toList <+: text.toList.dropWhile isBlank := by
      rw [trim, toList_trimEnd, toList_trimStart]
      exact List.rdropWhile_prefix _ _
    exact ((List.rdropWhile_prefix _ _).trans (List.rdropWhile_prefix _ _)).trans htrim
  obtain ⟨rest, hrest⟩ := hprefix
  have hhead : c ∈ (text.toList.dropWhile isBlank).head? := by
    rw [← hrest, List.head?_append_of_ne_nil _ h]
    exact hc
  have hkept := List.head?_dropWhile_not isBlank text.toList
  rw [Option.mem_def.mp hhead] at hkept
  exact hkept

/-- What stands behind a part that ends plainly is dropped in three runs. -/
lemma dropEnds {front gap semicolons behind : List Char} (hfront : EndsPlain front)
    (hgap : ∀ c ∈ gap, isBlank c = true) (hsemicolons : ∀ c ∈ semicolons, c = ';')
    (hbehind : ∀ c ∈ behind, isBlank c = true) :
    dropEndWhile isBlank (dropEndWhile (· == ';') (dropEndWhile isBlank
      (front ++ (gap ++ (semicolons ++ behind))))) = front := by
  have hblank : dropEndWhile isBlank front = front :=
    dropEndWhile_of_last fun c hc => (hfront c hc).1
  have hplain : dropEndWhile (· == ';') front = front :=
    dropEndWhile_of_last fun c hc => beq_false_of_ne (hfront c hc).2
  -- Behind the last semicolon, or behind the gap if there is none.
  have hlast : dropEndWhile isBlank (front ++ (gap ++ (semicolons ++ behind))) =
      if semicolons = [] then front else front ++ (gap ++ semicolons) := by
    rw [← List.append_assoc gap, ← List.append_assoc, dropEndWhile_append_run hbehind]
    split
    · rename_i hnone
      rw [hnone, List.append_nil, dropEndWhile_append_run hgap, hblank]
    · rename_i hsome
      refine dropEndWhile_of_last fun c hc => ?_
      rw [← List.append_assoc, List.getLast?_append_of_ne_nil _ hsome] at hc
      rw [hsemicolons c (List.mem_of_mem_getLast? hc)]
      rfl
  -- Behind the gap, or behind the front if there is no gap.
  have hgapLast : dropEndWhile isBlank (dropEndWhile (· == ';') (front ++ gap)) = front := by
    by_cases hnone : gap = []
    · rw [hnone, List.append_nil, hplain, hblank]
    · have hkept : dropEndWhile (· == ';') (front ++ gap) = front ++ gap := by
        refine dropEndWhile_of_last fun c hc => beq_false_of_ne fun heq => ?_
        rw [List.getLast?_append_of_ne_nil _ hnone] at hc
        have hc := hgap c (List.mem_of_mem_getLast? hc)
        rw [heq] at hc
        cases hc
      rw [hkept, dropEndWhile_append_run hgap, hblank]
  rw [hlast]
  split
  · rw [hplain, hblank]
  · have hrun : ∀ c ∈ semicolons, (c == ';') = true := fun c hc => beq_iff_eq.mpr (hsemicolons c hc)
    rw [← List.append_assoc, dropEndWhile_append_run hrun, hgapLast]

/-- The body of a text whose last semicolons stand together is the part in front of them, without
the white space at its start. -/
lemma statementBody_of_parts {front gap semicolons behind : List Char}
    (htext : text.toList = front ++ (gap ++ (semicolons ++ behind))) (hfront : EndsPlain front)
    (hgap : ∀ c ∈ gap, isBlank c = true) (hsemicolons : ∀ c ∈ semicolons, c = ';')
    (hbehind : ∀ c ∈ behind, isBlank c = true) :
    statementBody text = front.dropWhile isBlank := by
  rw [statementBody, trim, toList_trimEnd, toList_trimStart, htext, List.dropWhile_append]
  split
  · rename_i hempty
    have hnil := List.isEmpty_iff.mp hempty
    rw [hnil, List.dropWhile_append_of_pos hgap]
    obtain ⟨kept, hstart, hkept⟩ : ∃ kept,
        (semicolons ++ behind).dropWhile isBlank = semicolons ++ kept ∧
          ∀ c ∈ kept, isBlank c = true := by
      cases semicolons with
      | nil => exact ⟨[], List.dropWhile_eq_nil_iff.mpr hbehind, List.forall_mem_nil _⟩
      | cons c semicolons =>
        refine ⟨behind, List.dropWhile_cons_of_neg ?_, hbehind⟩
        rw [hsemicolons c List.mem_cons_self]
        decide
    have hends := @dropEnds [] [] semicolons kept .nil (List.forall_mem_nil _) hsemicolons hkept
    rw [hstart]
    exact hends
  · rw [← List.takeWhile_append_dropWhile (p := isBlank) (l := front)] at hfront
    exact dropEnds hfront.of_append hgap hsemicolons hbehind

/-- The body of a text ends in no semicolon exactly if the last semicolons of the text stand
together. -/
theorem endsPlain_statementBody_iff : EndsPlain (statementBody text) ↔ EndsTogether text := by
  constructor
  · intro h
    obtain ⟨before, gap, semicolons, behind, htext, hbefore, hgap, hsemicolons, hbehind⟩ :=
      exists_parts text
    by_cases hbody : statementBody text = []
    · refine ⟨[], before ++ gap, semicolons, behind, ?_, .nil, ?_, hsemicolons, hbehind⟩
      · rw [htext, hbody, List.nil_append, List.nil_append, List.append_assoc]
      · exact List.forall_mem_append.mpr ⟨hbefore, hgap⟩
    · refine ⟨before ++ statementBody text, gap, semicolons, behind, ?_, h.append hbody before,
        hgap, hsemicolons, hbehind⟩
      rw [htext, List.append_assoc]
  · rintro ⟨front, gap, semicolons, behind, htext, hfront, hgap, hsemicolons, hbehind⟩
    rw [statementBody_of_parts htext hfront hgap hsemicolons hbehind]
    rw [← List.takeWhile_append_dropWhile (p := isBlank) (l := front)] at hfront
    exact hfront.of_append

/-- A text that neither begins nor ends in what is taken away is the body of its statement. -/
lemma statement?_of_plain (hbody : IsBody text.toList) (hplain : EndsPlain text.toList) :
    statement? text = some (text ++ ";") := by
  have htext : text.toList = text.toList ++ ([] ++ ([] ++ [])) := by simp
  have hstart := hbody.dropWhile_append []
  rw [List.append_nil] at hstart
  have hkept : statementBody text = text.toList := by
    rw [statementBody_of_parts htext hplain (List.forall_mem_nil _) (List.forall_mem_nil _)
      (List.forall_mem_nil _), hstart]
  rw [statement?_eq_some_iff, hkept]
  refine ⟨hbody.ne_nil, ?_⟩
  rw [String.ofList_append, String.ofList_toList]

/-- The front of a text up to a character that is not taken away is the front of its statement. -/
lemma statement?_of_front {front rest : List Char} (htext : text.toList = front ++ rest)
    (hbody : IsBody front) (hplain : EndsPlain front) :
    ∃ more, statement? text = some (String.ofList (front ++ more)) := by
  have hblank : ∀ c ∈ front.getLast?, isBlank c = false := fun c hc => (hplain c hc).1
  have hsemicolon : ∀ c ∈ front.getLast?, (c == ';') = false :=
    fun c hc => beq_false_of_ne (hplain c hc).2
  obtain ⟨kept, hkept⟩ : ∃ kept, statementBody text = front ++ kept := by
    rw [statementBody, trim, toList_trimEnd, toList_trimStart, htext, hbody.dropWhile_append,
      dropEndWhile_append_of_last hblank, dropEndWhile_append_of_last hsemicolon,
      dropEndWhile_append_of_last hblank]
    exact ⟨_, rfl⟩
  refine ⟨kept ++ [';'], statement?_eq_some_iff.mpr ⟨?_, ?_⟩⟩
  · rw [hkept]
    exact List.append_ne_nil_of_left_ne_nil hbody.ne_nil _
  · rw [hkept, List.append_assoc]

/-! ## Statements of blueprints -/

/-- Every statement is that of a command that compiles to a text. -/
lemma mem_compileCommands {grammar : Grammar} {b : Blueprint} {settings : Settings}
    {commands : List Command} {statements : List String}
    (h : compileCommands grammar settings b commands = .ok statements) :
    ∀ sql ∈ statements, ∃ command ∈ commands, ∃ text,
      grammar.compileCommand b command settings = .ok (some text) ∧ statement? text = some sql := by
  induction commands generalizing statements with
  | nil =>
    cases h
    exact List.forall_mem_nil _
  | cons command commands ih =>
    rw [compileCommands] at h
    split at h
    · cases h
    · rename_i result hresult
      split at h
      · cases h
      · rename_i rest hrest
        cases h
        intro sql hsql
        rcases List.mem_append.mp hsql with hsql | hsql
        · rw [Option.mem_toList, Option.bind_eq_some_iff] at hsql
          obtain ⟨text, rfl, hstatement⟩ := hsql
          exact ⟨command, List.mem_cons_self, text, hresult, hstatement⟩
        · obtain ⟨command', hcommand, hstatement⟩ := ih hrest sql hsql
          exact ⟨command', List.mem_cons_of_mem _ hcommand, hstatement⟩

/-- A body and a semicolon are a statement that stays as it is exactly if the body does not end in a
semicolon itself. -/
lemma statement?_of_isBody {body : List Char} (h : IsBody body) :
    statement? (String.ofList (body ++ [';'])) = some (String.ofList (body ++ [';'])) ↔
      EndsPlain body := by
  have htrim : (trim (String.ofList (body ++ [';']))).toList = body ++ [';'] := by
    rw [trim, toList_trimEnd, toList_trimStart, String.toList_ofList, h.dropWhile_append]
    refine dropEndWhile_of_last fun c hc => ?_
    rw [List.getLast?_concat] at hc
    cases hc
    rfl
  have hbody : statementBody (String.ofList (body ++ [';'])) =
      dropEndWhile isBlank (dropEndWhile (· == ';') body) := by
    rw [statementBody, htrim]
    exact congrArg _ (List.rdropWhile_concat_pos _ body ';' rfl)
  rw [statement?_eq_some_iff, hbody, String.ofList_inj, List.append_cancel_right_eq]
  constructor
  · rintro ⟨-, heq⟩ c hc
    refine ⟨h.last c hc, fun hsemicolon => ?_⟩
    have hprefix : dropEndWhile isBlank (dropEndWhile (· == ';') body) <+:
        dropEndWhile (· == ';') body := List.rdropWhile_prefix _ _
    rw [← heq] at hprefix
    have hkept : dropEndWhile (· == ';') body = body :=
      (List.rdropWhile_prefix _ _).sublist.antisymm hprefix.sublist
    have hlast := last_dropEndWhile (· == ';') body c (hkept.symm ▸ hc)
    rw [hsemicolon] at hlast
    cases hlast
  · intro hplain
    have hkept : dropEndWhile (· == ';') body = body :=
      dropEndWhile_of_last fun c hc => beq_false_of_ne (hplain c hc).2
    rw [hkept, dropEndWhile_of_last h.last]
    exact ⟨h.ne_nil, rfl⟩

/-- Every statement of a blueprint is a body without white space at its ends and a semicolon behind
it, in every dialect.  The body ends in no semicolon, and the statement is left alike by ending it
again, exactly if the last semicolons of the compiled text stand together; and a text of white space
and semicolons gives no statement exactly if they do. -/
theorem toSql_ends (b : Blueprint) (grammar : Grammar) (settings : Settings) :
    (∀ statements, b.toSql grammar settings = .ok statements → ∀ sql ∈ statements,
      ∃ command ∈ b.resolvedCommands, ∃ text body,
        grammar.compileCommand b command settings = .ok (some text) ∧
        sql = String.ofList (body ++ [';']) ∧ IsBody body ∧
        (EndsPlain body ↔ EndsTogether text) ∧
        (statement? sql = some sql ↔ EndsTogether text)) ∧
    ∀ text : String, (∀ c ∈ text.toList, isBlank c = true ∨ c = ';') →
      (statement? text = none ↔ EndsTogether text) := by
  constructor
  · intro statements h sql hsql
    obtain ⟨command, hcommand, text, htext, hstatement⟩ := mem_compileCommands h sql hsql
    obtain ⟨hne, rfl⟩ := statement?_eq_some_iff.mp hstatement
    have hbody := isBody_statementBody hne
    exact ⟨command, hcommand, text, statementBody text, htext, rfl, hbody,
      endsPlain_statementBody_iff, (statement?_of_isBody hbody).trans endsPlain_statementBody_iff⟩
  · intro text hall
    rw [statement?_eq_none_iff, ← endsPlain_statementBody_iff]
    constructor
    · intro hnil
      rw [hnil]
      exact fun c hc => (nomatch hc)
    · intro hplain
      obtain ⟨before, gap, semicolons, behind, htext, -⟩ := exists_parts text
      refine hplain.eq_nil fun c hc => hall c ?_
      rw [htext]
      exact List.mem_append_right _ (List.mem_append_left _ hc)

/-- A blueprint whose comment ends in two semicolons, with white space in front of them and behind
them. -/
def remarkSample : Blueprint := (ofTable "t").setComment "two words ;;\n"

/-- Its statement ends in one semicolon and stays as it is. -/
theorem toSql_ends_remark :
    remarkSample.toSql (Grammar.sparse "") Settings.empty = .ok ["two words;"] ∧
      statement? "two words;" = some "two words;" ∧ statement? " ;;\n" = none := by
  have hsql : remarkSample.toSql (Grammar.sparse "") Settings.empty = .ok ["two words;"] := by
    decide +kernel
  obtain ⟨hstatements, hnone⟩ := toSql_ends remarkSample (Grammar.sparse "") Settings.empty
  obtain ⟨command, hcommand, text, body, htext, -, -, -, hagain⟩ :=
    hstatements _ hsql _ (List.mem_singleton_self _)
  have hcommand : command = .comment "two words ;;\n" := List.mem_singleton.mp hcommand
  subst hcommand
  have htext : "two words ;;\n" = text := Option.some.inj (Except.ok.inj htext)
  have hsemicolons : ∀ c ∈ [';', ';'], c = ';' :=
    List.forall_mem_cons.mpr ⟨rfl, List.forall_mem_singleton.mpr rfl⟩
  have hplain : EndsPlain "two words".toList := by
    have hlast : "two words".toList.getLast? = some 's' := by decide
    intro c hc
    rw [hlast, Option.mem_some_iff] at hc
    rw [← hc]
    decide
  have htogether : EndsTogether "two words ;;\n" :=
    ⟨"two words".toList, [' '], [';', ';'], ['\n'], by decide, hplain,
      List.forall_mem_singleton.mpr rfl, hsemicolons, List.forall_mem_singleton.mpr rfl⟩
  have hchars : " ;;\n".toList = [' ', ';', ';', '\n'] := by decide
  have hmarks : ∀ c ∈ " ;;\n".toList, isBlank c = true ∨ c = ';' := by
    intro c hc
    simp only [hchars, List.mem_cons, List.not_mem_nil, or_false] at hc
    rcases hc with rfl | rfl | rfl | rfl
    · exact .inl rfl
    · exact .inr rfl
    · exact .inr rfl
    · exact .inl rfl
  have hmarksTogether : EndsTogether " ;;\n" :=
    ⟨[], [' '], [';', ';'], ['\n'], hchars, fun c hc => (nomatch hc),
      List.forall_mem_singleton.mpr rfl, hsemicolons, List.forall_mem_singleton.mpr rfl⟩
  exact ⟨hsql, hagain.mpr (htext ▸ htogether), (hnone _ hmarks).mpr hmarksTogether⟩

/-- A blueprint whose comment ends in two semicolons with white space between them. -/
def scatteredSample : Blueprint := (ofTable "t").setComment "a; ;"

/-- Its statement ends in two semicolons, of which one is lost when the statement is ended again;
and a text of two semicolons with white space between them is a statement. -/
theorem toSql_scattered :
    scatteredSample.toSql (Grammar.sparse "") Settings.empty = .ok ["a;;"] ∧
      statement? "a;;" = some "a;" ∧ statement? "; ;" = some ";;" := by
  decide +kernel

end Blueprint

end SchemaLedger
