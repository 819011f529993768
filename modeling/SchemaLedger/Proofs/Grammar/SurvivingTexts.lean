import SchemaLedger.Proofs.Grammar.ColumnCalls

/-!
# Texts that survive a change

The texts of a change of a column are written by the rules of documents and read by the rules of
MySQL, and the two rules share only a part of their escapes.  A text comes through unchanged exactly
if its control characters are among the four whose escapes mean the same in both
(`StringLiteral.survives_iff`): the others lose the backslash of their escape and are read as the
letters behind it.  This holds for every text of a change where it stands in the compiled statement
(`changeTexts_survive`).
-/

namespace SchemaLedger

namespace Sql.StringLiteral

variable {c : Char} {cs rest : List Char}

/-- The control characters below the space that a text may have to be read back: backspace, tab,
line feed and carriage return. -/
def sharedControls : List Char := ['\x08', '\t', '\n', '\r']

/-- A text whose control characters below the space are all shared. -/
def Survives (s : String) : Prop := ∀ c ∈ s.toList, c.toNat < 0x20 → c ∈ sharedControls

instance (s : String) : Decidable (Survives s) :=
  List.decidableBAll (fun c : Char => c.toNat < 0x20 → c ∈ sharedControls) s.toList

/-- A character is kept exactly if it is no control character or a shared one. -/
lemma kept_eq_singleton_iff (c : Char) :
    kept c = [c] ↔ (c.toNat < 0x20 → c ∈ sharedControls) := by
  unfold kept sharedControls
  by_cases hfeed : c = '\x0c'
  · subst hfeed
    decide
  · rw [if_neg hfeed]
    split
    · rename_i hcontrol
      obtain ⟨hlow, hb, ht, hn, hr⟩ := hcontrol
      simp [hlow, hb, ht, hn, hr]
    · rename_i hplain
      simp only [List.mem_cons, List.not_mem_nil, or_false, true_iff]
      intro hlow
      by_contra hnone
      simp only [not_or] at hnone
      exact hplain ⟨hlow, hnone⟩

/-- No character is lost altogether. -/
lemma kept_ne_nil (c : Char) : kept c ≠ [] := by
  unfold kept
  split_ifs <;> exact List.cons_ne_nil _ _

/-- What a character is read as begins with that character only if it is kept. -/
lemma kept_eq_of_head {ds : List Char} (h : kept c = c :: ds) : kept c = [c] := by
  unfold kept at h ⊢
  split at h
  · rename_i hfeed
    subst hfeed
    cases h
  · split at h
    · -- The letter of the escape is no control character.
      rename_i hcontrol
      obtain ⟨hlow, -⟩ := hcontrol
      have hletter : 'u' = c := (List.cons.inj h).1
      subst hletter
      exact absurd hlow (by decide)
    · rename_i hfeed hplain
      rw [if_neg hfeed, if_neg hplain]

/-- Characters are read as themselves exactly if each of them is. -/
lemma flatMap_kept_eq_self_iff : cs.flatMap kept = cs ↔ ∀ c ∈ cs, kept c = [c] := by
  induction cs with
  | nil => simp
  | cons c cs ih =>
    rw [List.flatMap_cons, List.forall_mem_cons, ← ih]
    constructor
    · intro h
      have hkept : kept c = [c] := by
        obtain ⟨d, ds, hread⟩ := List.exists_cons_of_ne_nil (kept_ne_nil c)
        rw [hread, List.cons_append, List.cons.injEq] at h
        obtain ⟨rfl, -⟩ := h
        exact kept_eq_of_head hread
      rw [hkept] at h
      exact ⟨hkept, List.append_cancel_left h⟩
    · rintro ⟨hkept, hrest⟩
      rw [hkept, hrest]
      rfl

/-- A written string is read in front of anything but a quote, and the string itself is read
exactly if it survives. -/
theorem survives_iff (s : String) (hrest : rest.head? ≠ some '"') :
    ∃ value, read '"' ((Json.quote s).toList ++ rest) = some (value, rest) ∧
      (value = s.toList ↔ Survives s) := by
  refine ⟨s.toList.flatMap kept, ?_, ?_⟩
  · have hopen : (Json.quote s).toList ++ rest =
        '"' :: (Json.escape s.toList ++ '"' :: rest) := by simp
    rw [hopen, read, if_pos rfl]
    exact readRest_escape s.toList hrest
  · rw [flatMap_kept_eq_self_iff]
    exact forall₂_congr fun c _ => kept_eq_singleton_iff c

end Sql.StringLiteral

namespace Text

variable {separator : String}

/-- Two rows of texts behind each other are one row. -/
lemma join_append (a b : String) (as bs : List String) :
    join separator ((a :: as) ++ b :: bs) =
      join separator (a :: as) ++ separator ++ join separator (b :: bs) := by
  induction as generalizing a with
  | nil => rfl
  | cons next as ih =>
    calc join separator ((a :: next :: as) ++ b :: bs)
      _ = a ++ separator ++ join separator ((next :: as) ++ b :: bs) := rfl
      _ = a ++ separator ++ (join separator (next :: as) ++ separator ++
            join separator (b :: bs)) := by rw [ih]
      _ = a ++ separator ++ join separator (next :: as) ++ separator ++
            join separator (b :: bs) := by simp only [String.append_assoc]

/-- A row goes on behind its first text with the separator, if it goes on. -/
lemma exists_join_cons (a : String) (as : List String) :
    ∃ more, join separator (a :: as) = a ++ more ∧
      (more = "" ∨ ∃ others, more = separator ++ others) := by
  cases as with
  | nil => exact ⟨"", String.append_empty.symm, .inl rfl⟩
  | cons next as =>
    exact ⟨separator ++ join separator (next :: as), String.append_assoc,
      .inr ⟨_, rfl⟩⟩

end Text

namespace MySql

open Sql

variable {tablePrefix table column : String} {stringLength : Nat} {b : Blueprint}
  {settings : Settings} {texts : List (Option String)}

/-! ## The place of a text -/

/-- The call of a change as far as its next argument: the name of the function, the table, the
column, and arguments in front of the next one. -/
def callFront (table column : String) (before : List (Option String)) : String :=
  "SET @ddl_sql=TRAMP_ALTER_COLUMN(" ++ Text.join ", " (argumentRow table column before) ++ ", "

/-- The call of a change behind its last argument. -/
def callEnd : String := ")" ++ ("; " ++ Text.join "; " callEnding)

/-- The call of a change is written for a row of texts, and each of the texts stands in it as a
literal.  From its place in the call on, the literal is read as the text exactly if the text
survives; in any case the reader stops behind the literal. -/
def HoldsTexts (table column : String) (texts : List (Option String)) (call : String) : Prop :=
  call = alterColumnCall table column (texts.map nameArgument) ∧
    ∀ before s after, texts = before ++ some s :: after →
      ∃ behind value, call = callFront table column before ++ Json.quote s ++ behind ∧
        StringLiteral.read '"' (Json.quote s ++ behind).toList = some (value, behind.toList) ∧
        (value = s.toList ↔ StringLiteral.Survives s)

/-- The call of a change holds its texts. -/
lemma holdsTexts_alterColumnCall :
    HoldsTexts table column texts (alterColumnCall table column (texts.map nameArgument)) := by
  refine ⟨rfl, ?_⟩
  rintro before s after rfl
  obtain ⟨more, hmore, hhead⟩ :=
    @Text.exists_join_cons ", " (Json.quote s) (after.map nameArgument)
  have hrow : Text.join ", " (argumentRow table column (before ++ some s :: after)) =
      Text.join ", " (argumentRow table column before) ++ ", " ++ (Json.quote s ++ more) := by
    rw [← hmore, argumentRow, List.map_append]
    exact Text.join_append _ _ (quoteString column :: before.map nameArgument) _
  have hne : before ++ some s :: after ≠ [] :=
    List.append_ne_nil_of_right_ne_nil _ (List.cons_ne_nil _ _)
  have hcall : alterColumnCall table column ((before ++ some s :: after).map nameArgument) =
      callFront table column before ++ Json.quote s ++ (more ++ callEnd) := by
    calc alterColumnCall table column ((before ++ some s :: after).map nameArgument)
      _ = Text.join "; " (callStatements table column (before ++ some s :: after)) :=
        alterColumnCall_eq_join hne
      _ = "SET @ddl_sql=TRAMP_ALTER_COLUMN(" ++
            Text.join ", " (argumentRow table column (before ++ some s :: after)) ++ ")" ++
              "; " ++ Text.join "; " callEnding := rfl
      _ = "SET @ddl_sql=TRAMP_ALTER_COLUMN(" ++
            (Text.join ", " (argumentRow table column before) ++ ", " ++ (Json.quote s ++ more)) ++
              ")" ++ "; " ++ Text.join "; " callEnding :=
        congrArg (fun row => "SET @ddl_sql=TRAMP_ALTER_COLUMN(" ++ row ++ ")" ++ "; " ++
          Text.join "; " callEnding) hrow
      _ = callFront table column before ++ Json.quote s ++ (more ++ callEnd) := by
        unfold callFront callEnd
        generalize Text.join "; " callEnding = ending
        simp only [String.append_assoc, -String.reduceAppend]
  -- A comma or the parenthesis of the call follows the literal.
  have hnext : (more ++ callEnd).toList.head? ≠ some '"' := by
    rcases hhead with rfl | ⟨others, rfl⟩ <;> simp [callEnd]
  obtain ⟨value, hread, hvalue⟩ := StringLiteral.survives_iff s hnext
  refine ⟨more ++ callEnd, value, hcall, ?_, hvalue⟩
  rw [String.toList_append]
  exact hread

/-- The texts of the arguments of a change: the new name, the type, and what the five carried
modifiers write. -/
def IsChangeOf (tablePrefix : String) (stringLength : Nat) (column : Column)
    (texts : List (Option String)) : Prop :=
  ∃ written : Modifier → Option String,
    (∀ modifier ∈ Modifier.carried,
      modifier.text? (naming tablePrefix) column = .ok (written modifier)) ∧
    texts = changeTexts stringLength column written

/-- Whatever a blueprint changes, a text that its compiled changes or a compiled change of a name
pass on is read back exactly if its control characters below the space are backspaces, tabs, line
feeds and carriage returns.  The texts are the new name, the type and what the modifiers write for
every changed column, one call behind the other, and the new name in a change of a name. -/
theorem changeTexts_survive :
    (∀ sql,
      (Grammar.mysql tablePrefix stringLength).compileCommand b .change settings = .ok (some sql) →
      ∃ calls, sql = Text.join ";\n\n" calls ∧
        List.Forall₂ (fun column call => ∃ texts,
          IsChangeOf tablePrefix stringLength column texts ∧
            HoldsTexts (tablePrefix ++ b.table) column.name texts call)
          b.changedColumns calls) ∧
    ∀ oldName newName : String, ∃ call,
      (Grammar.mysql tablePrefix stringLength).compileCommand b (.renameColumn oldName newName)
        settings = .ok (some call) ∧
      HoldsTexts (tablePrefix ++ b.table) oldName (renameTexts newName) call := by
  constructor
  · intro sql hsql
    obtain ⟨blocks, hblocks, ⟨-, hnone⟩ | ⟨-, hsome⟩⟩ := compile_change hsql
    · cases hnone
    · cases hsome
      refine ⟨blocks, rfl, hblocks.imp fun column block hblock => ?_⟩
      obtain ⟨written, hwritten, rfl⟩ := changeColumn_eq_ok hblock
      exact ⟨_, ⟨written, hwritten, rfl⟩, holdsTexts_alterColumnCall⟩
  · intro oldName newName
    exact ⟨_, rfl, holdsTexts_alterColumnCall⟩

/-- A column with a tab in its new name and a form feed in its comment. -/
def controlSample : Blueprint :=
  { Blueprint.ofTable "t" with
    columns :=
      [{ Column.ofType "c" .integer with
          change := some true
          renameTo := some "a\tb"
          comment := some "\x0c" }] }

/-- In its change the new name is read back and the comment is not, and neither is a null character
in a change of a name. -/
theorem changeTexts_survive_controls :
    (∃ sql, (Grammar.mysql "p_" defaultStringLength).compileCommand controlSample .change
        Settings.empty = .ok (some sql) ∧
      HoldsTexts ("p_" ++ controlSample.table) "c" [some "a\tb", some "INT", none, none, none,
        none, none, some " COMMENT '\x0c'"] sql) ∧
    (∃ sql, (Grammar.mysql "p_" defaultStringLength).compileCommand controlSample
        (.renameColumn "c" "\x00") Settings.empty = .ok (some sql) ∧
      HoldsTexts ("p_" ++ controlSample.table) "c" (renameTexts "\x00") sql) ∧
    StringLiteral.Survives "a\tb" ∧ ¬StringLiteral.Survives " COMMENT '\x0c'" ∧
      ¬StringLiteral.Survives "\x00" := by
  obtain ⟨sql, hsql⟩ : ∃ sql, (Grammar.mysql "p_" defaultStringLength).compileCommand controlSample
      .change Settings.empty = .ok (some sql) := ⟨_, rfl⟩
  obtain ⟨hchanges, hrenames⟩ :=
    @changeTexts_survive "p_" defaultStringLength controlSample Settings.empty
  refine ⟨⟨sql, hsql, ?_⟩, hrenames "c" "\x00", by decide, by decide, by decide⟩
  obtain ⟨calls, rfl, hcalls⟩ := hchanges sql hsql
  cases hcalls with
  | cons hcall hnil =>
    cases hnil
    obtain ⟨texts, ⟨written, hwritten, rfl⟩, hholds⟩ := hcall
    simp only [Modifier.carried, List.forall_mem_cons] at hwritten
    obtain ⟨hcharset, hcollation, hnullable, hdefault, hcomment, -⟩ := hwritten
    rw [changeTexts, ← Except.ok.inj hcharset, ← Except.ok.inj hcollation,
      ← Except.ok.inj hnullable, ← Except.ok.inj hdefault, ← Except.ok.inj hcomment] at hholds
    exact hholds

end MySql

end SchemaLedger
