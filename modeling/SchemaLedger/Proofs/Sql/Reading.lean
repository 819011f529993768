import SchemaLedger.Sql.Quoted
import SchemaLedger.Text.Blank
import SchemaLedger.Text.Search
import Mathlib.Tactic.Common

/-!
# Reading statements

A reader of a statement goes through it character by character and knows where it stands: outside of
quoted texts, inside one, or behind a backslash in one, and how many parentheses are open
(`Reading.step`).  A separator counts only at the top, outside of quoted texts and parentheses;
`Reading.items` are the parts of a text between such separators.

A text passes (`Reading.Passes`) if reading it begins and ends at the top and meets none of some
characters there.  Texts that pass can be put one after another, between parentheses and between
separators, and `Reading.items` then finds them again (`items_join`).
-/

namespace SchemaLedger

namespace Text

/-- Whether a text begins with a character other than white space. -/
def isFlush (text : String) : Bool := text.toList.head?.any (!isBlank ·)

lemma isFlush_append {a : String} (h : isFlush a = true) (b : String) :
    isFlush (a ++ b) = true := by
  rw [isFlush, String.toList_append]
  rw [isFlush] at h
  cases hchars : a.toList with
  | nil => simp [hchars] at h
  | cons c cs => simpa [hchars] using h

lemma isFlush_join {a : String} (h : isFlush a = true) (between : String) (more : List String) :
    isFlush (join between (a :: more)) = true := by
  cases more with
  | nil => exact h
  | cons next rest => exact isFlush_append (isFlush_append h between) _

lemma isEmpty_of_isFlush {text : String} (h : isFlush text = true) : text.isEmpty = false := by
  by_contra hempty
  rw [Bool.not_eq_false, String.isEmpty_iff] at hempty
  subst hempty
  cases h

lemma dropWhile_of_isFlush {text : String} (h : isFlush text = true) :
    text.toList.dropWhile isBlank = text.toList := by
  rw [isFlush] at h
  cases hchars : text.toList with
  | nil => rfl
  | cons c cs =>
    have hblank : isBlank c = false := by simpa [hchars] using h
    simp [hblank]

end Text

namespace Sql

/-- How statements are read: which characters quote, whether a backslash in a quoted text makes a
pair with the character behind it, and whether parentheses are counted. -/
structure Reading where
  quotes : List Char
  backslashes : Bool
  parentheses : Bool
  deriving DecidableEq

/-- Where a reader stands, with the number of open parentheses. -/
inductive Place where
  | outside (depth : Nat)
  | inside (quote : Char) (depth : Nat)
  | escaped (quote : Char) (depth : Nat)
  deriving DecidableEq

namespace Place

/-- Outside of quoted texts and parentheses. -/
def top : Place := .outside 0

/-- The same place with one more parenthesis around it. -/
def deeper : Place → Place
  | .outside depth => .outside (depth + 1)
  | .inside quote depth => .inside quote (depth + 1)
  | .escaped quote depth => .escaped quote (depth + 1)

lemma deeper_ne_top (place : Place) : place.deeper ≠ top := by
  cases place <;> simp [deeper, top]

end Place

namespace Reading

/-- Identifiers between backticks and strings between single quotes, with a quote inside them
written twice; a backslash is a character like any other. -/
def doubling : Reading := ⟨['\x60', '\x27'], false, true⟩

/-- Strings between single or double quotes, with a quote inside them written twice or behind a
backslash. -/
def strings : Reading := ⟨['\x27', '"'], true, false⟩

/-- Where a reader stands after one more character.  A quote that is written twice inside a quoted
text ends it and begins it again at once. -/
def step (r : Reading) : Place → Char → Place
  | .outside depth, c =>
    if c ∈ r.quotes then .inside c depth
    else if r.parentheses && c == '(' then .outside (depth + 1)
    else if r.parentheses && c == ')' then .outside (depth - 1)
    else .outside depth
  | .inside quote depth, c =>
    if c = quote then .outside depth
    else if r.backslashes && c == '\\' then .escaped quote depth
    else .inside quote depth
  | .escaped quote depth, _ => .inside quote depth

/-- The pieces of a text between the separators at the top. -/
def split (r : Reading) (separator : Char) : Place → List Char → List (List Char)
  | _, [] => [[]]
  | place, c :: cs =>
    if place = .top ∧ c = separator then [] :: split r separator place cs
    else Text.consFirst c (split r separator (r.step place c) cs)

/-- What stands before and behind the first separator at the top. -/
def cut (r : Reading) (separator : Char) : Place → List Char → Option (List Char × List Char)
  | _, [] => none
  | place, c :: cs =>
    if place = .top ∧ c = separator then some ([], cs)
    else (cut r separator (r.step place c) cs).map fun (before, behind) => (c :: before, behind)

/-- The pieces of a list of characters between the separators at the top, without the white space in
front of them. -/
def pieces (r : Reading) (separator : Char) (cs : List Char) : List (List Char) :=
  (r.split separator .top cs).map (·.dropWhile Text.isBlank)

/-- The items of a text between the separators at the top, without the white space in front of them;
the empty text has none. -/
def items (r : Reading) (separator : Char) (text : String) : List String :=
  if text.isEmpty then [] else (r.pieces separator text.toList).map String.ofList

/-- The text in front of the first opening parenthesis at the top, the text between it and the
parenthesis that closes it, and the text behind that one. -/
def body? (r : Reading) (text : String) : Option (String × String × String) :=
  match r.cut '(' .top text.toList with
  | none => none
  | some (front, behind) =>
    match r.cut ')' .top behind with
    | none => none
    | some (body, rest) => some (String.ofList front, String.ofList body, String.ofList rest)

/-- Where reading ends, unless it meets one of the characters `stops` at the top. -/
def pass? (r : Reading) (stops : List Char) : Place → List Char → Option Place
  | place, [] => some place
  | place, c :: cs =>
    if place = .top ∧ c ∈ stops then none else pass? r stops (r.step place c) cs

/-- Reading a text begins and ends at the top and meets none of the characters `stops` there. -/
def Passes (r : Reading) (stops : List Char) (text : String) : Prop :=
  r.pass? stops .top text.toList = some .top

instance (r : Reading) (stops : List Char) (text : String) : Decidable (r.Passes stops text) :=
  inferInstanceAs (Decidable (_ = _))

variable {r : Reading} {stops more : List Char} {separator : Char} {place place' : Place}
  {cs rest : List Char} {text : String}

/-! ## Texts that pass -/

/-- Reading goes on where it ended. -/
lemma pass?_append (cs ds : List Char) :
    r.pass? stops place (cs ++ ds) = (r.pass? stops place cs).bind (r.pass? stops · ds) := by
  induction cs generalizing place with
  | nil => rfl
  | cons c cs ih =>
    rw [List.cons_append, pass?, pass?]
    split
    · rfl
    · exact ih

/-- A reader that gets through a list does not meet its first character. -/
lemma pass?_cons {c : Char} (h : r.pass? stops place (c :: cs) = some place') :
    ¬(place = .top ∧ c ∈ stops) ∧ r.pass? stops (r.step place c) cs = some place' := by
  rw [pass?] at h
  split at h
  · cases h
  · rename_i hstop
    exact ⟨hstop, h⟩

/-- Fewer characters to be met are met less. -/
lemma pass?_mono (hsub : more ⊆ stops) (h : r.pass? stops place cs = some place') :
    r.pass? more place cs = some place' := by
  induction cs generalizing place with
  | nil => exact h
  | cons c cs ih =>
    obtain ⟨hstop, hrest⟩ := pass?_cons h
    have hmore : ¬(place = .top ∧ c ∈ more) := fun hc => hstop ⟨hc.1, hsub hc.2⟩
    rw [pass?, if_neg hmore]
    exact ih hrest

/-- Inside of parentheses nothing is met, as long as the parentheses are not closed. -/
lemma pass?_deeper (h : r.pass? [')'] place cs = some place') :
    r.pass? stops place.deeper cs = some place'.deeper := by
  induction cs generalizing place with
  | nil =>
    cases h
    rfl
  | cons c cs ih =>
    obtain ⟨hclose, hrest⟩ := pass?_cons h
    have hstep : r.step place.deeper c = (r.step place c).deeper := by
      cases place with
      | outside depth =>
        have hdepth : c = ')' → depth ≠ 0 := fun hc hzero =>
          hclose ⟨hzero ▸ rfl, hc ▸ List.mem_singleton_self _⟩
        simp only [Place.deeper, step]
        split_ifs with hquote hleft hright
        · rfl
        · rfl
        · have hc : c = ')' := by simpa using (Bool.and_eq_true_iff.mp hright).2
          have hne := hdepth hc
          simp only [Place.outside.injEq]
          omega
        · rfl
      | inside quote depth =>
        simp only [Place.deeper, step]
        split_ifs <;> rfl
      | escaped quote depth => rfl
    rw [pass?, if_neg fun hc => Place.deeper_ne_top _ hc.1, hstep]
    exact ih hrest

/-- The inside of a quoted text and its closing quote lead out of it, unless a backslash means
something in it. -/
lemma pass?_double {quote : Char} (hquote : quote ∈ r.quotes) (hstops : quote ∉ stops)
    (hbackslash : r.backslashes = false ∨ '\\' ∉ cs) (depth : Nat) :
    r.pass? stops (.inside quote depth) (Quoted.double quote cs ++ [quote]) =
      some (.outside depth) := by
  induction cs with
  | nil => simp [pass?, step, Place.top]
  | cons c cs ih =>
    have hrest : r.backslashes = false ∨ '\\' ∉ cs :=
      hbackslash.imp_right fun h hmem => h (List.mem_cons_of_mem _ hmem)
    rw [Quoted.double]
    split
    · -- The quote written twice leads outside and back inside.
      simp [pass?, step, Place.top, hquote, hstops, ih hrest]
    · rename_i hne
      have hplain : (r.backslashes && c == '\\') = false := by
        rcases hbackslash with h | h
        · rw [h, Bool.false_and]
        · have hc : c ≠ '\\' := fun hc => h (hc ▸ List.mem_cons_self)
          rw [beq_false_of_ne hc, Bool.and_false]
      simp [pass?, step, Place.top, hne, hplain, ih hrest]

/-- Characters that are no quotes, no parentheses and not met lead nowhere. -/
lemma pass?_plain (depth : Nat)
    (h : ∀ c ∈ cs, c ∉ r.quotes ∧ c ≠ '(' ∧ c ≠ ')' ∧ c ∉ stops) :
    r.pass? stops (.outside depth) cs = some (.outside depth) := by
  induction cs with
  | nil => rfl
  | cons c cs ih =>
    rw [List.forall_mem_cons] at h
    obtain ⟨⟨hquote, hleft, hright, hstop⟩, hrest⟩ := h
    have hstep : r.step (.outside depth) c = .outside depth := by
      simp [step, hquote, hleft, hright]
    rw [pass?, if_neg fun hc => hstop hc.2, hstep]
    exact ih hrest

namespace Passes

lemma nil : r.Passes stops "" := rfl

/-- Texts that pass do so one after another. -/
lemma append {a b : String} (ha : r.Passes stops a) (hb : r.Passes stops b) :
    r.Passes stops (a ++ b) := by
  have hpass : r.pass? stops .top (a.toList ++ b.toList) =
      (some Place.top).bind (r.pass? stops · b.toList) := by
    rw [pass?_append, ha]
  rw [Passes, String.toList_append, hpass]
  exact hb

lemma mono (h : r.Passes stops text) (hsub : more ⊆ stops) : r.Passes more text :=
  pass?_mono hsub h

/-- Texts that pass do so with a separator between neighbours that passes. -/
lemma join {between : String} {texts : List String} (hbetween : r.Passes stops between)
    (h : ∀ text ∈ texts, r.Passes stops text) : r.Passes stops (Text.join between texts) := by
  induction texts with
  | nil => exact nil
  | cons text texts ih =>
    cases texts with
    | nil => exact h text List.mem_cons_self
    | cons next texts =>
      have hrest := ih fun text hmem => h text (List.mem_cons_of_mem _ hmem)
      exact ((h text List.mem_cons_self).append hbetween).append hrest

/-- A quoted text passes. -/
lemma encode {quote : Char} (hquote : quote ∈ r.quotes) (hstops : quote ∉ stops)
    (hbackslash : r.backslashes = false ∨ '\\' ∉ cs) :
    r.Passes stops (String.ofList (Quoted.encode quote cs)) := by
  rw [Passes, String.toList_ofList, Quoted.encode, pass?, if_neg fun h => hstops h.2]
  have hstep : r.step .top quote = .inside quote 0 := if_pos hquote
  rw [hstep]
  exact pass?_double hquote hstops hbackslash 0

/-- A text between parentheses passes if it does not close them itself. -/
lemma parentheses (hr : r.parentheses = true) (hleft : '(' ∉ r.quotes) (hright : ')' ∉ r.quotes)
    (hstops : '(' ∉ stops) (h : r.Passes [')'] text) : r.Passes stops ("(" ++ text ++ ")") := by
  have hopen : r.step .top '(' = Place.top.deeper := by
    simp [step, Place.top, Place.deeper, hr, hleft]
  have hclose : r.pass? stops Place.top.deeper [')'] = some .top := by
    simp [pass?, step, Place.top, Place.deeper, hr, hright]
  have hinner : r.pass? stops Place.top.deeper text.toList = some Place.top.deeper :=
    pass?_deeper h
  have hchars : ("(" ++ text ++ ")").toList = '(' :: (text.toList ++ [')']) := by simp
  rw [Passes, hchars, pass?, if_neg fun hc => hstops hc.2, hopen, pass?_append, hinner]
  exact hclose

end Passes

/-! ## Pieces of texts -/

/-- A text is cut behind what passes. -/
lemma cut_append (hseparator : separator ∈ stops)
    (h : r.pass? stops place cs = some .top) (rest : List Char) :
    r.cut separator place (cs ++ separator :: rest) = some (cs, rest) := by
  induction cs generalizing place with
  | nil =>
    cases h
    exact if_pos ⟨rfl, rfl⟩
  | cons c cs ih =>
    obtain ⟨hstop, hrest⟩ := pass?_cons h
    have hne : ¬(place = .top ∧ c = separator) := fun hc => hstop ⟨hc.1, hc.2 ▸ hseparator⟩
    rw [List.cons_append, cut, if_neg hne, ih hrest]
    rfl

/-- The body of a text is found if nothing opens parentheses in front of it and the body does not
close them itself. -/
lemma body?_of_passes {front body : String} (hfront : r.Passes ['('] front)
    (hbody : r.Passes [')'] body) (rest : String) :
    r.body? (front ++ "(" ++ body ++ ")" ++ rest) = some (front, body, rest) := by
  have hchars : (front ++ "(" ++ body ++ ")" ++ rest).toList =
      front.toList ++ '(' :: (body.toList ++ ')' :: rest.toList) := by simp
  rw [body?, hchars, cut_append List.mem_cons_self hfront]
  simp only [cut_append List.mem_cons_self hbody, String.ofList_toList]

/-- What passes is the first piece. -/
lemma split_append (hseparator : separator ∈ stops)
    (h : r.pass? stops place cs = some .top) (rest : List Char) :
    r.split separator place (cs ++ separator :: rest) = cs :: r.split separator .top rest := by
  induction cs generalizing place with
  | nil =>
    cases h
    exact if_pos ⟨rfl, rfl⟩
  | cons c cs ih =>
    obtain ⟨hstop, hrest⟩ := pass?_cons h
    have hne : ¬(place = .top ∧ c = separator) := fun hc => hstop ⟨hc.1, hc.2 ▸ hseparator⟩
    rw [List.cons_append, split, if_neg hne, ih hrest]
    rfl

/-- What passes is one piece. -/
lemma split_of_pass? (hseparator : separator ∈ stops)
    (h : r.pass? stops place cs = some place') : r.split separator place cs = [cs] := by
  induction cs generalizing place with
  | nil => rfl
  | cons c cs ih =>
    obtain ⟨hstop, hrest⟩ := pass?_cons h
    have hne : ¬(place = .top ∧ c = separator) := fun hc => hstop ⟨hc.1, hc.2 ▸ hseparator⟩
    rw [split, if_neg hne, ih hrest]
    rfl

/-- There is always a first piece. -/
lemma split_ne_nil (cs : List Char) : r.split separator place cs ≠ [] := by
  induction cs generalizing place with
  | nil => simp [split]
  | cons c cs ih =>
    rw [split]
    split
    · simp
    · cases hpieces : r.split separator (r.step place c) cs with
      | nil => exact absurd hpieces ih
      | cons piece pieces => simp [Text.consFirst]

/-- White space in front of a text is in front of its first piece, and so in none. -/
lemma pieces_blank {c : Char} (hblank : Text.isBlank c = true) (hne : c ≠ separator)
    (hstep : r.step .top c = .top) (rest : List Char) :
    r.pieces separator (c :: rest) = r.pieces separator rest := by
  rw [pieces, split, if_neg fun h => hne h.2, hstep]
  cases hpieces : r.split separator .top rest with
  | nil => exact absurd hpieces (split_ne_nil rest)
  | cons piece more => simp [Text.consFirst, pieces, hpieces, hblank]

/-- A text of a separator and of white space that means nothing. -/
def isBetween (r : Reading) (separator : Char) (between : String) : Bool :=
  match between.toList with
  | [] => false
  | c :: blanks =>
    c == separator && blanks.all fun b => Text.isBlank b && b != separator && r.step .top b == .top

/-- A text that separators leave whole: it passes, and it begins with no white space. -/
structure IsItem (r : Reading) (separator : Char) (text : String) : Prop where
  passes : r.Passes [separator] text
  flush : Text.isFlush text = true

variable {between wide : String} {texts : List String}

/-- An item in front of a separator is the first piece. -/
lemma pieces_item (hbetween : r.isBetween separator between = true)
    (h : r.IsItem separator text) (rest : List Char) :
    r.pieces separator (text.toList ++ (between.toList ++ rest)) =
      text.toList :: r.pieces separator rest := by
  have hblanks : ∀ blanks : List Char,
      (blanks.all fun b => Text.isBlank b && b != separator && r.step .top b == .top) = true →
        r.pieces separator (blanks ++ rest) = r.pieces separator rest := by
    intro blanks hall
    induction blanks with
    | nil => rfl
    | cons b blanks ih =>
      simp only [List.all_cons, Bool.and_eq_true, bne_iff_ne, beq_iff_eq] at hall
      obtain ⟨⟨⟨hblank, hne⟩, hstep⟩, hall⟩ := hall
      rw [List.cons_append, pieces_blank hblank hne hstep]
      exact ih hall
  unfold isBetween at hbetween
  cases hchars : between.toList with
  | nil => simp [hchars] at hbetween
  | cons c blanks =>
    rw [hchars] at hbetween
    simp only [Bool.and_eq_true, beq_iff_eq] at hbetween
    obtain ⟨rfl, hall⟩ := hbetween
    rw [← hblanks blanks hall, List.cons_append, pieces,
      split_append List.mem_cons_self h.passes, List.map_cons, Text.dropWhile_of_isFlush h.flush]
    rfl

/-- An item is one piece. -/
lemma pieces_of_isItem (h : r.IsItem separator text) :
    r.pieces separator text.toList = [text.toList] := by
  rw [pieces, split_of_pass? List.mem_cons_self h.passes, List.map_singleton,
    Text.dropWhile_of_isFlush h.flush]

/-- Items that are joined are pieces, whatever follows the last one, if that is told apart from an
item. -/
lemma pieces_join_append {tail : List Char} {after : List (List Char)}
    (hbetween : r.isBetween separator between = true) (hne : texts ≠ [])
    (h : ∀ text ∈ texts, r.IsItem separator text)
    (htail : ∀ text, r.IsItem separator text →
      r.pieces separator (text.toList ++ tail) = text.toList :: after) :
    r.pieces separator ((Text.join between texts).toList ++ tail) =
      texts.map String.toList ++ after := by
  induction texts with
  | nil => exact absurd rfl hne
  | cons text texts ih =>
    have htext := h text List.mem_cons_self
    cases texts with
    | nil => exact htail text htext
    | cons next texts =>
      have hrest := ih (List.cons_ne_nil _ _) fun text hmem => h text (List.mem_cons_of_mem _ hmem)
      rw [Text.join, String.toList_append, String.toList_append, List.append_assoc,
        List.append_assoc, pieces_item hbetween htext, hrest]
      rfl

/-- Items that are joined are pieces. -/
lemma pieces_join (hbetween : r.isBetween separator between = true) (hne : texts ≠ [])
    (h : ∀ text ∈ texts, r.IsItem separator text) :
    r.pieces separator (Text.join between texts).toList = texts.map String.toList := by
  have hend : ∀ text, r.IsItem separator text →
      r.pieces separator (text.toList ++ []) = [text.toList] := fun text htext => by
    rw [List.append_nil, pieces_of_isItem htext]
  simpa using pieces_join_append hbetween hne h hend

/-- Groups of joined items that are joined are the pieces of the groups one after another. -/
lemma pieces_join_join {groups : List (List String)}
    (hbetween : r.isBetween separator between = true) (hwide : r.isBetween separator wide = true)
    (hgroups : groups ≠ []) (hne : ∀ group ∈ groups, group ≠ [])
    (h : ∀ group ∈ groups, ∀ text ∈ group, r.IsItem separator text) :
    r.pieces separator (Text.join wide (groups.map (Text.join between))).toList =
      groups.flatten.map String.toList := by
  induction groups with
  | nil => exact absurd rfl hgroups
  | cons group groups ih =>
    have hgroup := hne group List.mem_cons_self
    have hitems := h group List.mem_cons_self
    cases groups with
    | nil => simpa using pieces_join hbetween hgroup hitems
    | cons next groups =>
      have hrest := ih (List.cons_ne_nil _ _)
        (fun group hmem => hne group (List.mem_cons_of_mem _ hmem))
        fun group hmem => h group (List.mem_cons_of_mem _ hmem)
      have hjoin : Text.join wide ((group :: next :: groups).map (Text.join between)) =
          Text.join between group ++ wide ++
            Text.join wide ((next :: groups).map (Text.join between)) := rfl
      have hflatten : (group :: next :: groups).flatten = group ++ (next :: groups).flatten := rfl
      rw [hjoin, hflatten, String.toList_append, String.toList_append, List.append_assoc,
        pieces_join_append hbetween hgroup hitems fun text htext => pieces_item hwide htext _,
        hrest, List.map_append]

/-- The pieces of a text are its items if it does not begin with white space. -/
lemma items_of_isFlush (h : Text.isFlush text = true) :
    r.items separator text = (r.pieces separator text.toList).map String.ofList := by
  rw [items, Text.isEmpty_of_isFlush h]
  rfl

/-- The items of joined items are those items. -/
theorem items_join (hbetween : r.isBetween separator between = true)
    (h : ∀ text ∈ texts, r.IsItem separator text) :
    r.items separator (Text.join between texts) = texts := by
  cases texts with
  | nil => rfl
  | cons text texts =>
    have hflush := Text.isFlush_join (h text List.mem_cons_self).flush between texts
    rw [items_of_isFlush hflush, pieces_join hbetween (List.cons_ne_nil _ _) h, List.map_map]
    simp

/-- The items of joined groups of joined items are the items of the groups one after another. -/
theorem items_join_join {groups : List (List String)}
    (hbetween : r.isBetween separator between = true) (hwide : r.isBetween separator wide = true)
    (hne : ∀ group ∈ groups, group ≠ [])
    (h : ∀ group ∈ groups, ∀ text ∈ group, r.IsItem separator text) :
    r.items separator (Text.join wide (groups.map (Text.join between))) = groups.flatten := by
  cases groups with
  | nil => rfl
  | cons group groups =>
    cases group with
    | nil => exact absurd rfl (hne [] List.mem_cons_self)
    | cons text texts =>
      have htext := (h _ List.mem_cons_self text List.mem_cons_self).flush
      have hflush := Text.isFlush_join (Text.isFlush_join htext between texts) wide
        (groups.map (Text.join between))
      rw [List.map_cons, items_of_isFlush hflush, ← List.map_cons,
        pieces_join_join hbetween hwide (List.cons_ne_nil _ _) hne h, List.map_map]
      simp

end Reading

end Sql

end SchemaLedger
