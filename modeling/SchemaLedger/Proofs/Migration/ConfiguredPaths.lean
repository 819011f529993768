import SchemaLedger.Proofs.Json.ReplacedMembers
import SchemaLedger.Proofs.Json.WrittenLists
import SchemaLedger.Proofs.Migration.ReportedPaths
import SchemaLedger.Proofs.Text.Trimming

/-!
# Configured paths

Paths are added to a configuration one after the other, and a path that is listed under another
spelling is not added again.  So the list holds the resolved paths, each at its first occurrence
(`Config.paths_foldl_addPath`), and no two of them have the same components.

In a document the paths are a list of texts or one text with commas between them.  The value of the
one notation is decoded to the paths of the other (`Config.store_paths`), whatever else the document
says, so both give the same configuration (`Config.ofText_of_notations`).
-/

namespace SchemaLedger.Config

open SchemaLedger.Path Json

variable {c : Config} {p q : Path}

/-! ## Listed paths -/

/-- A path is listed in a configuration, under this spelling or another. -/
def Lists (c : Config) (p : Path) : Prop := ∃ other ∈ c.paths, other.same p = true

lemma same_comm (p q : Path) : p.same q = q.same p := Bool.beq_comm

lemma same_iff : p.same q = true ↔ p.components = q.components := beq_iff_eq

/-- Adding a path does not change what paths are resolved against. -/
lemma absolutePath_addPath (c : Config) (p : Path) :
    (c.addPath p).absolutePath = c.absolutePath := by
  unfold addPath
  dsimp only
  split <;> rfl

lemma absolutePath_foldl_addPath (ps : List Path) (c : Config) :
    (ps.foldl addPath c).absolutePath = c.absolutePath := by
  induction ps generalizing c with
  | nil => rfl
  | cons p ps ih => rw [List.foldl_cons, ih, absolutePath_addPath]

/-- A path that is listed is not added. -/
lemma addPath_of_lists (h : c.Lists (c.absolutePath p)) : c.addPath p = c :=
  if_pos (List.any_eq_true.mpr h)

lemma addPath_of_new (h : ¬ c.Lists (c.absolutePath p)) :
    c.addPath p = { c with paths := c.paths ++ [c.absolutePath p] } :=
  if_neg fun hany => h (List.any_eq_true.mp hany)

/-- A path that was added is listed. -/
lemma lists_addPath (c : Config) (p : Path) : (c.addPath p).Lists (c.absolutePath p) := by
  by_cases h : c.Lists (c.absolutePath p)
  · rw [addPath_of_lists h]
    exact h
  · rw [addPath_of_new h]
    exact ⟨c.absolutePath p, List.mem_append_right _ (List.mem_singleton_self _), same_iff.mpr rfl⟩

/-- What is listed stays listed. -/
lemma Lists.addPath (h : c.Lists q) (p : Path) : (c.addPath p).Lists q := by
  obtain ⟨other, hother, hsame⟩ := h
  by_cases hp : c.Lists (c.absolutePath p)
  · rw [addPath_of_lists hp]
    exact ⟨other, hother, hsame⟩
  · rw [addPath_of_new hp]
    exact ⟨other, List.mem_append_left _ hother, hsame⟩

lemma Lists.foldl_addPath (h : c.Lists q) (ps : List Path) :
    (ps.foldl Config.addPath c).Lists q := by
  induction ps generalizing c with
  | nil => exact h
  | cons p ps ih => exact ih (h.addPath p)

/-- All the paths that were added are listed. -/
lemma lists_foldl_addPath {ps : List Path} (hp : p ∈ ps) (c : Config) :
    (ps.foldl addPath c).Lists (c.absolutePath p) := by
  induction ps generalizing c with
  | nil => cases hp
  | cons first ps ih =>
    rw [List.foldl_cons]
    rcases List.mem_cons.mp hp with rfl | hp
    · exact (lists_addPath c p).foldl_addPath ps
    · have hrest := ih hp (c.addPath first)
      rw [absolutePath_addPath] at hrest
      exact hrest

/-! ## Every path once -/

/-- No two paths of a configuration have the same components. -/
def ListsOnce (c : Config) : Prop := c.paths.Pairwise fun p q => p.components ≠ q.components

lemma ListsOnce.addPath (h : c.ListsOnce) (p : Path) : (c.addPath p).ListsOnce := by
  by_cases hp : c.Lists (c.absolutePath p)
  · rw [addPath_of_lists hp]
    exact h
  · rw [addPath_of_new hp]
    refine List.pairwise_append.mpr ⟨h, List.pairwise_singleton _ _, fun other hother q hq => ?_⟩
    rw [List.mem_singleton.mp hq]
    exact fun hcomponents => hp ⟨other, hother, same_iff.mpr hcomponents⟩

lemma ListsOnce.foldl_addPath (h : c.ListsOnce) (ps : List Path) :
    (ps.foldl Config.addPath c).ListsOnce := by
  induction ps generalizing c with
  | nil => exact h
  | cons p ps ih => exact ih (h.addPath p)

/-- The paths that are added are those that are not listed, each at its first occurrence. -/
theorem paths_foldl_addPath (ps : List Path) (c : Config) :
    (ps.foldl addPath c).paths = c.paths ++
      ((ps.map c.absolutePath).filter fun p => !c.paths.any fun other => other.same p).eraseDupsBy
        Path.same := by
  induction ps generalizing c with
  | nil => exact (List.append_nil _).symm
  | cons p ps ih =>
    rw [List.foldl_cons, ih, absolutePath_addPath, List.map_cons, List.filter_cons]
    by_cases hp : c.Lists (c.absolutePath p)
    · have hany := List.any_eq_true.mpr hp
      rw [addPath_of_lists hp, hany, Bool.not_true, if_neg Bool.false_ne_true]
    · have hany := Bool.eq_false_iff.mpr fun hany => hp (List.any_eq_true.mp hany)
      rw [addPath_of_new hp, hany, Bool.not_false, if_pos rfl, List.eraseDupsBy_cons,
        List.append_assoc, List.singleton_append, List.filter_filter]
      congr 3
      refine List.filter_congr fun other _ => ?_
      rw [List.any_append, List.any_cons, List.any_nil, Bool.or_false, same_comm other]
      cases c.paths.any fun listed => listed.same other <;>
        cases (c.absolutePath p).same other <;> rfl

/-! ## Spellings -/

/-- Other spellings of a relative path: with a dot in front of it, with slashes behind it, and
behind the base. -/
def spellings (base p : Path) : List Path :=
  [⟨"./" ++ p.text⟩, ⟨p.text ++ "//"⟩, ⟨base.text ++ "/" ++ p.text⟩]

/-- All spellings of a relative path are resolved to the same components. -/
lemma same_of_mem_spellings (hbase : c.baseDir.isAbsolute = true) (hp : p.isAbsolute = false)
    (hne : p.text ≠ "") (hq : q ∈ spellings c.baseDir p) :
    (c.absolutePath q).same (c.absolutePath p) = true := by
  have hresolved : ∀ r : Path, r.isAbsolute = false →
      (c.absolutePath r).components = c.baseDir.components ++ r.steps := by
    intro r hr
    rw [components_absolutePath hbase, hr, if_neg Bool.false_ne_true, filter_components hr]
  rw [same_iff, hresolved p hp]
  simp only [spellings, List.mem_cons, List.not_mem_nil, or_false] at hq
  rcases hq with rfl | rfl | rfl
  · have hrelative : isAbsolute ⟨"./" ++ p.text⟩ = false := by simp [isAbsolute]
    rw [hresolved _ hrelative]
    exact congrArg _ (steps_slash "." p.text)
  · have hrelative : isAbsolute ⟨p.text ++ "//"⟩ = false := (isAbsolute_append hne "//").trans hp
    have htext : p.text ++ "//" = p.text ++ "/" ++ "/" := by
      rw [String.append_assoc]
      rfl
    have hsteps : steps ⟨p.text ++ "//"⟩ = p.steps ++ [] := by
      rw [htext]
      exact steps_slash p.text "/"
    rw [hresolved _ hrelative, hsteps, List.append_nil]
  · have hne : c.baseDir.text ≠ "" := by
      intro hempty
      simp [isAbsolute, hempty] at hbase
    have habsolute : isAbsolute ⟨c.baseDir.text ++ "/" ++ p.text⟩ = true := by
      rw [String.append_assoc]
      exact (isAbsolute_append hne _).trans hbase
    rw [components_absolutePath hbase, habsolute, if_pos rfl, components_of_isAbsolute habsolute,
      components_of_isAbsolute hbase, steps_slash]
    rfl

/-! ## Notations -/

/-- A text that can stand in both notations: it is not empty, there is no comma in it and no white
space at its ends. -/
structure IsListable (path : String) : Prop where
  ne_empty : path ≠ ""
  no_comma : ',' ∉ path.toList
  trimmed : Text.IsTrimmed path

variable {paths pieces : List String}

/-- Paths with white space around them have no commas in them, and they are trimmed to the paths. -/
lemma trim_pieces (hpaths : ∀ path ∈ paths, IsListable path)
    (hpieces : List.Forall₂ Text.Padded paths pieces) :
    (∀ piece ∈ pieces, ',' ∉ piece.toList) ∧ pieces.map Text.trim = paths := by
  induction hpieces with
  | nil => exact ⟨List.forall_mem_nil _, rfl⟩
  | cons hpiece _ ih =>
    obtain ⟨hpath, hothers⟩ := List.forall_mem_cons.mp hpaths
    obtain ⟨hcomma, htrim⟩ := ih hothers
    refine ⟨List.forall_mem_cons.mpr ⟨fun hmem => ?_, hcomma⟩, ?_⟩
    · rcases hpiece.mem hmem with hmem | hblank
      · exact hpath.no_comma hmem
      · exact absurd hblank (by decide)
    · rw [List.map_cons, hpiece.trim_eq hpath.trimmed, htrim]

/-- Paths with commas between them and white space around the commas are split again. -/
lemma splitPaths_join (hpaths : ∀ path ∈ paths, IsListable path)
    (hpieces : List.Forall₂ Text.Padded paths pieces) :
    splitPaths (Text.join "," pieces) = paths := by
  obtain ⟨hcomma, htrim⟩ := trim_pieces hpaths hpieces
  have hkept : paths.filter (fun path => !path.isEmpty) = paths := by
    refine List.filter_eq_self.mpr fun path hpath => ?_
    simpa using (hpaths path hpath).ne_empty
  cases pieces with
  | nil =>
    cases hpieces
    rfl
  | cons piece pieces =>
    rw [splitPaths]
    have hsplit : Text.split ',' (Text.join "," (piece :: pieces)) = piece :: pieces :=
      Text.split_join (List.cons_ne_nil _ _) hcomma
    rw [hsplit, htrim, hkept]

/-! ## Documents -/

/-- The list of paths is decoded to the paths. -/
lemma decodePaths_list (source : Source) (paths : List String) :
    decodePaths source (.array (paths.map .string)) = .ok paths := by
  have hcheck : checkItems (paths.map .string) = .ok () := by
    induction paths with
    | nil => rfl
    | cons path paths ih => exact ih
  have hitems : listItems (Json.text .memory) (paths.map .string) = .ok paths := by
    clear hcheck
    induction paths with
    | nil => rfl
    | cons path paths ih => simp [listItems, Json.text, ih]
  simp only [decodePaths, firstOf, check, hcheck, Json.list, hitems]

/-- The paths of both notations are stored alike. -/
lemma store_paths (hpaths : ∀ path ∈ paths, IsListable path)
    (hpieces : List.Forall₂ Text.Padded paths pieces) (source : Source) (w : Written) :
    RecordField.storeWith (nullable decodePaths) (fun paths w => { w with paths := paths }) source
        (.array (paths.map .string)) w =
      RecordField.storeWith (nullable decodePaths) (fun paths w => { w with paths := paths }) source
        (.string (Text.join "," pieces)) w := by
  have htext : decodePaths source (.string (Text.join "," pieces)) = .ok paths :=
    congrArg Except.ok (splitPaths_join hpaths hpieces)
  simp only [RecordField.storeWith, nullable, decodePaths_list, htext]

/-- Two documents of a configuration differ at most in the value of the paths: under their name in
an object, or in front of a list. -/
inductive DifferInPaths (v w : Json) : Json → Json → Prop
  | member (before behind : List (Key × Json)) :
    DifferInPaths v w (.object (before ++ (.name "paths", v) :: behind))
      (.object (before ++ (.name "paths", w) :: behind))
  | item (items : List Json) : DifferInPaths v w (.array (v :: items)) (.array (w :: items))

/-- Documents with the paths in the one notation and in the other are the same configuration. -/
theorem ofText_of_notations (hpaths : ∀ path ∈ paths, IsListable path)
    (hpieces : List.Forall₂ Text.Padded paths pieces) {s t : String}
    (hdiffer : DifferInPaths (.array (paths.map .string)) (.string (Text.join "," pieces))
      (Document.ofText s).root (Document.ofText t).root)
    (hmore : (Document.ofText s).hasMore = (Document.ofText t).hasMore) (baseDir : Path) :
    ofText s baseDir = ofText t baseDir := by
  have hstore := store_paths hpaths hpieces .text
  have hwritten : Written.decode .text (Document.ofText s).root =
      Written.decode .text (Document.ofText t).root := by
    revert hdiffer
    generalize (Document.ofText s).root = v, (Document.ofText t).root = w
    rintro (⟨before, behind⟩ | ⟨items⟩)
    · exact record_replaced rfl hstore
    · exact record_replaced_first hstore
  simp only [ofText, Document.decode, hwritten, hmore]

/-- A document that lists paths and says nothing else is the configuration to which they are
added. -/
lemma ofText_list (paths : List String) (baseDir : Path) :
    ofText (onlyMember "paths" (quoteList paths)) baseDir =
      .ok ((paths.map Path.mk).foldl addPath (ofBase baseDir)) := by
  have hwritten : Written.decode .text (.object [(.name "paths", .array (paths.map .string))]) =
      .ok ⟨some paths, none, .empty⟩ := by
    have hfind : Written.fields.find? (·.accepts "paths") =
        some (.optional "paths" (nullable decodePaths) fun paths w => { w with paths := paths }) :=
      rfl
    have hmissing : ∀ seen, missingField? Written.fields seen = none := fun _ => rfl
    simp only [Written.decode, record, recordOfMembers, readMembers, hfind, hmissing,
      RecordField.optional, RecordField.storeWith, nullable, decodePaths_list]
    rfl
  simp only [ofText, ofText_quoteList, Document.decode, hwritten]
  rfl

/-- A configuration lists every path once, under any spelling, and in both notations.

The paths that were added to an empty configuration are the resolved ones, each at its first
occurrence.  No two of them have the same components, and adding a path once more in another
spelling changes nothing.  Among the spellings are a path with a dot in front, with slashes behind,
and behind the base.

For paths that are listed in a document or written as one text, with commas between them and white
space around the commas, the configurations are the same: those to which the paths are added, if the
documents say nothing else, and equal ones, if they say the same besides. -/
theorem paths_listed_once {start : Config} (hstart : start.paths = [])
    (hbase : start.baseDir.isAbsolute = true) :
    (∀ ps : List Path,
      (ps.foldl addPath start).paths = (ps.map start.absolutePath).eraseDupsBy Path.same ∧
      (ps.foldl addPath start).ListsOnce ∧
      ∀ p ∈ ps, ∀ q, (start.absolutePath q).same (start.absolutePath p) = true →
        (ps.foldl addPath start).addPath q = ps.foldl addPath start) ∧
    (∀ p : Path, p.isAbsolute = false → p.text ≠ "" → ∀ q ∈ spellings start.baseDir p,
      (start.absolutePath q).same (start.absolutePath p) = true) ∧
    ∀ paths pieces, (∀ path ∈ paths, IsListable path) → List.Forall₂ Text.Padded paths pieces →
      (∀ baseDir,
        ofText (onlyMember "paths" (quoteList paths)) baseDir =
          .ok ((paths.map Path.mk).foldl addPath (ofBase baseDir)) ∧
        ofText (onlyMember "paths" (quote (Text.join "," pieces))) baseDir =
          .ok ((paths.map Path.mk).foldl addPath (ofBase baseDir))) ∧
      ∀ s t, DifferInPaths (.array (paths.map .string)) (.string (Text.join "," pieces))
          (Document.ofText s).root (Document.ofText t).root →
        (Document.ofText s).hasMore = (Document.ofText t).hasMore →
        ∀ baseDir, ofText s baseDir = ofText t baseDir := by
  refine ⟨fun ps => ⟨?_, ?_, fun p hp q hsame => ?_⟩,
    fun p hp hne q hq => same_of_mem_spellings hbase hp hne hq,
    fun paths pieces hpaths hpieces => ⟨fun baseDir => ⟨ofText_list paths baseDir, ?_⟩,
      fun s t hdiffer hmore => ofText_of_notations hpaths hpieces hdiffer hmore⟩⟩
  · have hkept : ∀ p : Path, (!start.paths.any fun other => other.same p) = true := by
      intro p
      rw [hstart]
      rfl
    rw [paths_foldl_addPath, List.filter_eq_self.mpr fun p _ => hkept p, hstart, List.nil_append]
  · have hnone : start.ListsOnce := by
      rw [ListsOnce, hstart]
      exact List.Pairwise.nil
    exact hnone.foldl_addPath ps
  · obtain ⟨other, hother, hresolved⟩ := lists_foldl_addPath hp start
    refine addPath_of_lists ⟨other, hother, ?_⟩
    rw [absolutePath_foldl_addPath]
    exact same_iff.mpr ((same_iff.mp hresolved).trans (same_iff.mp hsame).symm)
  · rw [← ofText_list paths]
    refine (ofText_of_notations hpaths hpieces ?_ ?_ baseDir).symm
    · rw [ofText_quoteList, ofText_quote]
      exact .member [] []
    · rw [ofText_quoteList, ofText_quote]

/-- Two paths in a list. -/
def listedText : String :=
  "\x7b\"paths\":[\"a\",\"b c\"],\"tablePrefix\":\"x_\"\x7d"

/-- The same paths in a text, with white space around the comma. -/
def joinedText : String :=
  "\x7b\"paths\":\"a ,\\tb c\",\"tablePrefix\":\"x_\"\x7d"

/-- Five spellings of two paths are two paths, and the two documents are the same configuration. -/
theorem paths_listed_once_spellings :
    ([⟨"a"⟩, ⟨"./a"⟩, ⟨"a//"⟩, ⟨"b"⟩, ⟨"/srv//app/./a"⟩].foldl addPath reportSample).paths =
      [⟨"/srv//app/./a"⟩, ⟨"/srv//app/./b"⟩] ∧
    (reportSample.absolutePath ⟨"a//"⟩).same (reportSample.absolutePath ⟨"a"⟩) = true ∧
    ofText listedText ⟨"/srv"⟩ = ofText joinedText ⟨"/srv"⟩ := by
  obtain ⟨honce, hspellings, hnotations⟩ := @paths_listed_once reportSample rfl (by decide)
  have hlistable : ∀ path ∈ ["a", "b c"], IsListable path := by
    have hfirst : IsListable "a" := by
      refine ⟨by decide, by decide, ?_, ?_⟩ <;> rintro _ ⟨⟩ <;> rfl
    have hsecond : IsListable "b c" := by
      refine ⟨by decide, by decide, ?_, ?_⟩ <;> rintro _ ⟨⟩ <;> rfl
    exact List.forall_mem_cons.mpr ⟨hfirst, List.forall_mem_singleton.mpr hsecond⟩
  have hpadded : List.Forall₂ Text.Padded ["a", "b c"] ["a ", "\tb c"] :=
    .cons ⟨[], [' '], rfl, List.forall_mem_nil _, List.forall_mem_singleton.mpr rfl⟩
      (.cons ⟨['\t'], [], rfl, List.forall_mem_singleton.mpr rfl, List.forall_mem_nil _⟩ .nil)
  have hlisted : Document.ofText listedText = ⟨.object ([] ++
      (.name "paths", .array (["a", "b c"].map .string)) ::
        [(.name "tablePrefix", .string "x_")]), false⟩ := by
    cbv
  have hjoined : Document.ofText joinedText = ⟨.object ([] ++
      (.name "paths", .string (Text.join "," ["a ", "\tb c"])) ::
        [(.name "tablePrefix", .string "x_")]), false⟩ := by
    cbv
  refine ⟨(honce _).1.trans (by decide), hspellings ⟨"a"⟩ (by decide) (by decide) _ (by decide), ?_⟩
  refine (hnotations _ _ hlistable hpadded).2 _ _ ?_ ?_ _
  · rw [hlisted, hjoined]
    exact .member [] _
  · rw [hlisted, hjoined]

end SchemaLedger.Config
