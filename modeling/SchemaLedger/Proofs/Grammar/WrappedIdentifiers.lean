import SchemaLedger.Grammar.Plain
import SchemaLedger.Proofs.Grammar.Identifiers
import SchemaLedger.Proofs.Sql.QuotedRows

/-!
# Reading wrapped identifiers

An identifier is wrapped segment by segment, and its segments are read back from the wrapped text as
quoted runs and bare stars with dots between them (`segments?_wrapSegments`).  If it has an alias,
the first word `as` between blanks splits it (`isFirstAlias_of_splitAlias`), and what stands in
front of that word has no alias itself.  The alias is one segment, whatever dots and further words
`as` it contains.  So wrapping can be undone (`wrap_reads_back`), for every prefix and every quote
other than a star or a dot.
-/

namespace SchemaLedger

namespace Text

/-- The lower-case form of a character takes as many bytes as the character. -/
lemma utf8Size_lowerAscii (c : Char) : (lowerAscii c).utf8Size = c.utf8Size := by
  have hsmall (d : Char) (hd : d.toNat ≤ 127) : d.utf8Size = 1 :=
    Char.utf8Size_eq_one_iff.mpr hd
  have hlow := toNat_lowerAscii c
  by_cases hcapital : 65 ≤ c.toNat ∧ c.toNat ≤ 90
  · rw [if_pos hcapital] at hlow
    rw [hsmall c (by omega), hsmall (lowerAscii c) (by omega)]
  · rw [if_neg hcapital] at hlow
    rw [Char.toNat_inj.mp hlow]

/-- The lower-case form of a text takes as many bytes as the text. -/
lemma utf8ByteSize_toLowerAscii (s : String) : (toLowerAscii s).utf8ByteSize = s.utf8ByteSize := by
  have hchars (cs : List Char) : (String.ofList (cs.map lowerAscii)).utf8ByteSize =
      (String.ofList cs).utf8ByteSize := by
    induction cs with
    | nil => rfl
    | cons c cs ih =>
      have hcons (d : Char) (ds : List Char) : (String.ofList (d :: ds)).utf8ByteSize =
          d.utf8Size + (String.ofList ds).utf8ByteSize := by
        rw [← List.singleton_append, String.ofList_append, ← String.singleton_eq_ofList,
          String.utf8ByteSize_append, String.utf8ByteSize_singleton]
      rw [List.map_cons, hcons, hcons, ih, utf8Size_lowerAscii]
  rw [toLowerAscii, hchars, String.ofList_toList]

end Text

namespace Naming

open Sql

variable {n : Naming} {quote : Char} {cs target rest : List Char}
  {identifier left word right start aliasStart : String}

/-! ## Segments -/

/-- Reads one segment: a bare star, or a text between quotes. -/
def readSegment (quote : Char) : List Char → Option (String × List Char)
  | [] => none
  | c :: cs => if c = '*' then some ("*", cs) else (Quoted.reader quote).read (c :: cs)

/-- The reader of segments. -/
def segmentReader (quote : Char) : ItemReader String where
  read := readSegment quote
  shorter := by
    intro cs item rest h
    cases cs with
    | nil => cases h
    | cons c cs =>
      rw [readSegment] at h
      split at h
      · cases h
        exact Nat.lt_succ_self _
      · exact (Quoted.reader quote).shorter h

/-- The segments of a text that is a row of them with dots between neighbours. -/
def segments? (quote : Char) (text : String) : Option (List String) :=
  match (segmentReader quote).readRow ".".toList text.toList with
  | some (segments, []) => some segments
  | _ => none

/-- The first of several segments takes a text in front. -/
def prefixFirst (start : String) : List String → List String
  | first :: second :: others => (start ++ first) :: second :: others
  | segments => segments

lemma prefixFirst_empty (segments : List String) : prefixFirst "" segments = segments := by
  unfold prefixFirst
  split
  · rw [String.empty_append]
  · rfl

lemma prefixFirst_inj {as bs : List String} (h : prefixFirst start as = prefixFirst start bs) :
    as = bs := by
  rcases as with _ | ⟨a, _ | ⟨a', as⟩⟩ <;> rcases bs with _ | ⟨b, _ | ⟨b', bs⟩⟩ <;>
    simp_all [prefixFirst]

/-- An identifier without an alias is written as its segments in a row. -/
lemma wrapSegments_eq_join (start value : String) :
    n.wrapSegments start value =
      Text.join "." ((prefixFirst start (Text.split '.' value)).map n.wrapValue) := by
  unfold wrapSegments
  split
  · rename_i hnil
    rw [hnil]
    rfl
  · rename_i segment hsingle
    rw [hsingle]
    rfl
  · rename_i first others hmore hsegments
    rw [hsegments]
    cases others with
    | nil => exact absurd rfl hmore
    | cons second others => rfl

/-- The reader of segments undoes their quoting. -/
lemma undoes_wrapValue (hstar : n.quote ≠ '*') :
    (segmentReader n.quote).Undoes n.wrapValue n.quote := by
  intro value rest hrest
  have hsegment (cs : List Char) : (segmentReader n.quote).read cs = readSegment n.quote cs := rfl
  rw [hsegment]
  by_cases hvalue : value = "*"
  · have hstarred : (n.wrapValue value).toList ++ rest = '*' :: rest := by
      simp [wrapValue, hvalue]
    rw [hstarred, readSegment, if_pos rfl, hvalue]
  · have hquoted : (n.wrapValue value).toList ++ rest =
        Quoted.encode n.quote value.toList ++ rest := by
      rw [wrapValue, if_neg hvalue, String.toList_ofList]
    have hread : (Quoted.reader n.quote).read (Quoted.encode n.quote value.toList ++ rest) =
        some (value, rest) := Quoted.reader_encode value hrest
    rw [hquoted, ← hread, Quoted.encode, List.cons_append, readSegment, if_neg hstar]

/-- The segments of an identifier without an alias are read back. -/
theorem segments?_wrapSegments (hstar : n.quote ≠ '*') (hdot : n.quote ≠ '.')
    (start value : String) :
    segments? n.quote (n.wrapSegments start value) =
      some (prefixFirst start (Text.split '.' value)) := by
  have hne : prefixFirst start (Text.split '.' value) ≠ [] := by
    intro hnil
    have hsplit : Text.split '.' value = [] := @prefixFirst_inj start _ [] hnil
    exact Text.splitOn_ne_nil '.' value.toList (List.map_eq_nil_iff.mp hsplit)
  have hseparator : ∀ more, (".".toList ++ more).head? ≠ some n.quote := by
    intro more h
    exact hdot (Option.some.inj h).symm
  have hend : ([] : List Char).head? ≠ some n.quote := (Option.some_ne_none _).symm
  have hrow := ItemReader.readRow_join (undoes_wrapValue hstar) hne hseparator hend rfl
  rw [List.append_nil] at hrow
  rw [segments?, wrapSegments_eq_join, hrow]

/-! ## Aliases -/

/-- A word `as` splits an identifier, and no other one stands further to the front.  The byte at
which it begins is found in the lower-case form of the identifier, and is the same there. -/
structure IsFirstAlias (identifier left word right : String) : Prop where
  parts : identifier = left ++ word ++ right
  isWord : IsAliasWord word.toList
  isFirst : ∀ front other behind : String, identifier = front ++ other ++ behind →
    IsAliasWord other.toList → left.length ≤ front.length
  bytes : (Text.toLowerAscii left).utf8ByteSize = left.utf8ByteSize ∧ word.utf8ByteSize = 4

/-- An identifier is split by its first word `as`. -/
lemma length_le_of_splitAlias {front word behind : List Char}
    (h : splitAlias cs = some (target, rest)) (hparts : cs = front ++ word ++ behind)
    (hword : IsAliasWord word) : target.length ≤ front.length := by
  induction cs generalizing target front with
  | nil => cases h
  | cons c cs ih =>
    rw [splitAlias] at h
    split at h
    · cases h
      exact Nat.zero_le _
    · rename_i hnone
      obtain ⟨⟨inner, more⟩, hinner, heq⟩ := Option.map_eq_some_iff.mp h
      cases heq
      cases front with
      | nil =>
        -- The word would stand at the front, where none was found.
        have hstart : (dropAliasWord (c :: cs)).isSome = true := by
          rw [isSome_dropAliasWord, List.isPrefixOf_iff_prefix, hparts, List.nil_append,
            List.map_append, ← hword]
          exact List.prefix_append _ _
        rw [hnone] at hstart
        cases hstart
      | cons d front =>
        rw [List.cons_append, List.cons_append, List.cons.injEq] at hparts
        have hle := ih hinner hparts.2
        simp only [List.length_cons]
        omega

/-- The parts into which an identifier is split are those around its first word `as`. -/
lemma isFirstAlias_of_splitAlias (h : splitAlias identifier.toList = some (target, rest)) :
    ∃ word, IsFirstAlias identifier (String.ofList target) word (String.ofList rest) := by
  obtain ⟨word, hparts, hword⟩ := parts_of_splitAlias h
  refine ⟨String.ofList word, ?_, ?_, ?_, Text.utf8ByteSize_toLowerAscii _, ?_⟩
  · rw [← String.toList_inj]
    simpa using hparts
  · rw [String.toList_ofList]
    exact hword
  · intro front other behind hother hword
    have hchars : identifier.toList = front.toList ++ other.toList ++ behind.toList := by
      rw [hother, String.toList_append, String.toList_append]
    rw [String.length_ofList, ← String.length_toList]
    exact length_le_of_splitAlias h hchars hword
  · have hsize := Text.utf8ByteSize_toLowerAscii (String.ofList word)
    rw [← hsize, Text.toLowerAscii, String.toList_ofList, hword]
    rfl

/-- What stands in front of the first word `as` has no alias. -/
lemma IsFirstAlias.hasAlias_trim (h : IsFirstAlias identifier left word right) :
    hasAlias (Text.trim left) = false := by
  rw [← splitAlias_eq_none_iff]
  cases hsplit : splitAlias (Text.trim left).toList with
  | none => rfl
  | some parts =>
    obtain ⟨target, rest⟩ := parts
    obtain ⟨other, hparts, hother⟩ := parts_of_splitAlias hsplit
    obtain ⟨front, behind, hleft⟩ := Text.isInfix_trim left
    have hidentifier : identifier = String.ofList (front ++ target) ++ String.ofList other ++
        (String.ofList (rest ++ behind) ++ word ++ right) := by
      rw [h.parts, ← String.toList_inj]
      simp only [String.toList_append, String.toList_ofList, ← hleft, hparts, List.append_assoc]
    have hle := h.isFirst _ _ _ hidentifier (by rwa [String.toList_ofList])
    have hlength : left.length = front.length + target.length + other.length + rest.length +
        behind.length := by
      rw [← String.length_toList, ← hleft, hparts]
      simp only [List.length_append]
      omega
    have hfour := hother.length_eq
    rw [String.length_ofList, List.length_append] at hle
    omega

/-- There is only one first word `as`. -/
lemma IsFirstAlias.unique {left' word' right' : String}
    (h : IsFirstAlias identifier left word right)
    (h' : IsFirstAlias identifier left' word' right') :
    left = left' ∧ word = word' ∧ right = right' := by
  have hlength : left.toList.length = left'.toList.length := by
    rw [String.length_toList, String.length_toList]
    exact Nat.le_antisymm (h.isFirst _ _ _ h'.parts h'.isWord) (h'.isFirst _ _ _ h.parts h.isWord)
  have hchars : left.toList ++ (word.toList ++ right.toList) =
      left'.toList ++ (word'.toList ++ right'.toList) := by
    simp only [← String.toList_append, ← String.append_assoc, ← h.parts, ← h'.parts]
  obtain ⟨hleft, hbehind⟩ := List.append_inj hchars hlength
  obtain ⟨hword, hright⟩ :=
    List.append_inj hbehind (h.isWord.length_eq.trans h'.isWord.length_eq.symm)
  exact ⟨String.toList_inj.mp hleft, String.toList_inj.mp hword, String.toList_inj.mp hright⟩

/-- An identifier with an alias is written as what stands in front of its first word `as` and what
stands behind it. -/
lemma wrapIdentifier_of_hasAlias (h : hasAlias identifier = true) (start aliasStart : String) :
    ∃ left word right, IsFirstAlias identifier left word right ∧
      n.wrapIdentifier start aliasStart identifier =
        n.wrapSegments start (Text.trim left) ++ " AS " ++
          n.wrapValue (aliasStart ++ Text.trim right) := by
  cases hsplit : splitAlias identifier.toList with
  | none =>
    rw [(splitAlias_eq_none_iff identifier).mp hsplit] at h
    cases h
  | some parts =>
    obtain ⟨target, rest⟩ := parts
    obtain ⟨word, hfirst⟩ := isFirstAlias_of_splitAlias hsplit
    refine ⟨_, word, _, hfirst, ?_⟩
    rw [wrapIdentifier, hsplit]

/-- An identifier without an alias is written as its segments. -/
lemma wrapIdentifier_of_not_hasAlias (h : hasAlias identifier = false)
    (start aliasStart : String) :
    n.wrapIdentifier start aliasStart identifier = n.wrapSegments start identifier := by
  rw [wrapIdentifier, (splitAlias_eq_none_iff identifier).mpr h]

/-! ## Wrapping -/

/-- The same quotes without a prefix. -/
def unprefixed (n : Naming) : Naming := { n with tablePrefix := "" }

/-- A text stands for a segment: the star for the star, and one text between quotes for any
other. -/
def StandsFor (quote : Char) (text segment : String) : Prop :=
  if segment = "*" then text = "*" else Quoted.read quote text.toList = some (segment.toList, [])

/-- A quoted segment stands for it. -/
lemma standsFor_wrapValue (segment : String) :
    StandsFor n.quote (n.wrapValue segment) segment := by
  unfold StandsFor wrapValue
  split
  · assumption
  · have hend : ([] : List Char).head? ≠ some n.quote := (Option.some_ne_none _).symm
    have hread := Quoted.read_encode segment.toList hend
    rw [String.toList_ofList]
    rwa [List.append_nil] at hread

/-- An identifier with an alias is written as what stands in front of its first word `as`, the word
in capitals, and one segment for what stands behind it with `aliasStart` in front.  White space next
to the word is lost.  What stands in front has no alias itself, so that it is read back. -/
def WritesAlias (n : Naming) (aliasStart identifier sql : String) : Prop :=
  ∃ left word right aliasText, IsFirstAlias identifier left word right ∧
    hasAlias (Text.trim left) = false ∧
    segments? n.quote (n.wrap (Text.trim left)) =
      some (prefixFirst n.tablePrefix (Text.split '.' (Text.trim left))) ∧
    sql = n.wrap (Text.trim left) ++ " AS " ++ aliasText ∧
    StandsFor n.quote aliasText (aliasStart ++ Text.trim right)

/-- Without an alias, the segments of a wrapped identifier are read back. -/
lemma segments?_wrap (hstar : n.quote ≠ '*') (hdot : n.quote ≠ '.')
    (h : hasAlias identifier = false) :
    segments? n.quote (n.wrap identifier) =
      some (prefixFirst n.tablePrefix (Text.split '.' identifier)) := by
  rw [wrap, wrapIdentifier_of_not_hasAlias h]
  exact segments?_wrapSegments hstar hdot _ _

/-- With an alias, what stands in front of its word is wrapped as without the alias. -/
lemma writesAlias_wrapIdentifier (hstar : n.quote ≠ '*') (hdot : n.quote ≠ '.')
    (h : hasAlias identifier = true) (aliasStart : String) :
    n.WritesAlias aliasStart identifier
      (n.wrapIdentifier n.tablePrefix aliasStart identifier) := by
  obtain ⟨left, word, right, hfirst, hsql⟩ := wrapIdentifier_of_hasAlias h n.tablePrefix aliasStart
  have hleft := hfirst.hasAlias_trim
  refine ⟨left, word, right, n.wrapValue (aliasStart ++ Text.trim right), hfirst, hleft,
    segments?_wrap hstar hdot hleft, ?_, standsFor_wrapValue _⟩
  rw [hsql, wrap, wrapIdentifier_of_not_hasAlias hleft]

/-- A table is wrapped as the prefixed name without a prefix, but for its alias. -/
lemma wrapTable_eq (table : String) :
    n.wrapTable table = n.unprefixed.wrapIdentifier n.unprefixed.tablePrefix n.tablePrefix
      (n.tablePrefix ++ table) := by
  have hquote : n.quote = n.unprefixed.quote := rfl
  exact wrapIdentifier_congr hquote "" n.tablePrefix (n.tablePrefix ++ table)

/-- Wrapping can be undone, with every prefix and every quote other than a star or a dot.  The
segments of an identifier without an alias are read back, with the prefix in front of the first of
several, so that different identifiers are wrapped differently.  An identifier with an alias is
wrapped as the part in front of the word `as` and one segment behind it.  A table is wrapped like
the prefixed name under no prefix, with the prefix in front of its alias as well. -/
theorem wrap_reads_back (hstar : n.quote ≠ '*') (hdot : n.quote ≠ '.') :
    (∀ v, hasAlias v = false → segments? n.quote (n.wrap v) =
      some (prefixFirst n.tablePrefix (Text.split '.' v))) ∧
    (∀ v w, hasAlias v = false → hasAlias w = false → n.wrap v = n.wrap w → v = w) ∧
    (∀ v, hasAlias v = true → n.WritesAlias "" v (n.wrap v)) ∧
    (∀ table, hasAlias (n.tablePrefix ++ table) = false →
      n.wrapTable table = n.unprefixed.wrap (n.tablePrefix ++ table) ∧
        segments? n.quote (n.wrapTable table) =
          some (Text.split '.' (n.tablePrefix ++ table))) ∧
    ∀ table, hasAlias (n.tablePrefix ++ table) = true →
      n.unprefixed.WritesAlias n.tablePrefix (n.tablePrefix ++ table) (n.wrapTable table) := by
  refine ⟨fun v hv => segments?_wrap hstar hdot hv, ?_,
    fun v hv => writesAlias_wrapIdentifier hstar hdot hv "", ?_, ?_⟩
  · intro v w hv hw hwrap
    have hsegments := segments?_wrap hstar hdot hv
    rw [hwrap, segments?_wrap hstar hdot hw] at hsegments
    exact (Text.split_inj (prefixFirst_inj (Option.some.inj hsegments))).symm
  · intro table htable
    have hwrap : n.wrapTable table = n.unprefixed.wrap (n.tablePrefix ++ table) := by
      rw [wrapTable_eq, wrap, wrapIdentifier_of_not_hasAlias htable,
        wrapIdentifier_of_not_hasAlias htable]
    have hsegments : segments? n.quote (n.unprefixed.wrap (n.tablePrefix ++ table)) =
        some (prefixFirst "" (Text.split '.' (n.tablePrefix ++ table))) :=
      @segments?_wrap n.unprefixed _ hstar hdot htable
    rw [prefixFirst_empty, ← hwrap] at hsegments
    exact ⟨hwrap, hsegments⟩
  · intro table htable
    rw [wrapTable_eq]
    exact @writesAlias_wrapIdentifier n.unprefixed _ hstar hdot htable n.tablePrefix

/-- With backticks and with double quotes, quotes, stars and words `as` are read back. -/
theorem wrap_reads_back_quotes :
    segments? '\x60' ((MySql.naming "p_").wrap "a\x60b.*") = some ["p_a\x60b", "*"] ∧
    (MySql.naming "p_").wrap "a.b" ≠ (MySql.naming "p_").wrap "a.\x60b" ∧
    (ColumnWriter.plain "p_").naming.WritesAlias "" "a.b As c.d as e"
      ((ColumnWriter.plain "p_").naming.wrap "a.b As c.d as e") ∧
    segments? '"' ((ColumnWriter.plain "p_").naming.wrapTable "a.\"") = some ["p_a", "\""] ∧
    (ColumnWriter.plain "p_").naming.unprefixed.WritesAlias "p_" "p_a.b as c"
      ((ColumnWriter.plain "p_").naming.wrapTable "a.b as c") := by
  obtain ⟨hsegments, hinjective, -⟩ :=
    @wrap_reads_back (MySql.naming "p_") (by decide) (by decide)
  obtain ⟨-, -, haliased, htables, haliasedTables⟩ :=
    @wrap_reads_back (ColumnWriter.plain "p_").naming (by decide) (by decide)
  refine ⟨?_, ?_, haliased _ (by decide), ?_, ?_⟩
  · exact (hsegments "a\x60b.*" (by decide)).trans (by decide)
  · intro heq
    exact absurd (hinjective _ _ (by decide) (by decide) heq) (by decide)
  · exact (htables "a.\"" (by decide)).2.trans (by decide)
  · exact haliasedTables "a.b as c" (by decide)

/-- An alias that is a star is not written between quotes. -/
theorem wrap_star_alias :
    (MySql.naming "").wrap "a as *" = "\x60a\x60 AS *" ∧
    ¬∃ left word right, IsFirstAlias "a as *" left word right ∧
      (MySql.naming "").wrap "a as *" = (MySql.naming "").wrap (Text.trim left) ++ " AS " ++
        String.ofList (Quoted.encode '\x60' (Text.trim right).toList) := by
  refine ⟨by decide, ?_⟩
  rintro ⟨left, word, right, hfirst, hwrap⟩
  have hsplit : splitAlias "a as *".toList = some (['a'], ['*']) := by decide
  obtain ⟨word', hfirst'⟩ := isFirstAlias_of_splitAlias hsplit
  obtain ⟨rfl, -, rfl⟩ := hfirst.unique hfirst'
  exact absurd hwrap (by decide)

end Naming

end SchemaLedger
