import SchemaLedger.Grammar.MySql
import SchemaLedger.Proofs.ChangeSet.EditedColumns

/-!
# Rearranged change scripts

A change script means the same in whatever order the members of its objects stand, and whatever
members stand in them under keys that they do not recognise (`ofText_of_rearranged`).  There are two
limits to this: a step is taken into memory before it is decoded, so that what is inserted there has
to be readable, and the object that names the action of a foreign key has that one member only.
-/

namespace SchemaLedger

open Json

variable {p : Place} {v w : Json} {ms ns : List (Key × Json)} {source : Source}
  {names : List String}

/-! ## Changes of tables -/

lemma commutes_columnRename : ColumnRename.fields.Pairwise RecordField.Commutes :=
  List.pairwise_pair.mpr (commutes_of_set rfl rfl fun _ _ _ => rfl)

lemma plain_columnRename : ∀ field ∈ ColumnRename.fields, StoresAnywhere source field := by
  simp only [ColumnRename.fields, List.forall_mem_cons]
  exact ⟨storesAnywhere_of_respects rfl refuses_text.respects,
    storesAnywhere_of_respects rfl refuses_text.respects, List.forall_mem_nil _⟩

lemma respects_columnRename : Respects .rename (ColumnRename.decode source) :=
  respects_plainRecord commutes_columnRename (fun _ _ hkey => hkey) plain_columnRename

lemma commutes_tableChanges : TableChanges.fields.Pairwise RecordField.Commutes := by
  simp only [TableChanges.fields, List.pairwise_cons, List.forall_mem_cons]
  and_intros
  all_goals first
    | exact commutes_of_set rfl rfl fun _ _ _ => rfl
    | exact List.forall_mem_nil _
    | exact List.Pairwise.nil

/-- The changes of a table respect their places. -/
lemma stores_tableChanges :
    ∀ field ∈ TableChanges.fields, StoresAt Place.change .memory field := by
  have htext : ∀ p, Respects p (Json.nullable Json.text .memory) := refuses_text.nullable.respects
  have htarget : Respects .unread (Json.list IndexTarget.decode .memory) :=
    respects_list fun _ => respects_indexTarget rfl
  have hrequest : Respects (.list .request) (Json.list IndexRequest.decode .memory) :=
    respects_list fun _ => respects_indexRequest
  simp only [TableChanges.fields, List.forall_mem_cons]
  exact ⟨(storesAnywhere_of_respects rfl htext).storesAt _,
    (storesAnywhere_of_respects rfl htext).storesAt _,
    (storesAnywhere_of_respects rfl htext).storesAt _,
    (storesAnywhere_of_respects rfl htext).storesAt _,
    (storesAnywhere_of_respects rfl refuses_boolean.respects).storesAt _,
    storesAt_of_respects rfl rfl (respects_list fun _ => respects_column),
    storesAt_of_respects rfl rfl (respects_list fun _ => respects_columnRename),
    (storesAnywhere_of_respects rfl respects_texts).storesAt _,
    (storesAnywhere_of_respects rfl refuses_boolean.respects).storesAt _,
    storesAt_of_respects rfl rfl htarget, storesAt_of_respects rfl rfl htarget,
    storesAt_of_respects rfl rfl htarget, storesAt_of_respects rfl rfl hrequest,
    storesAt_of_respects rfl rfl hrequest, storesAt_of_respects rfl rfl hrequest,
    storesAt_of_respects rfl rfl (respects_list fun _ => respects_foreignKey),
    List.forall_mem_nil _⟩

lemma plain_table : ∀ field ∈ tableField, StoresAnywhere source field :=
  List.forall_mem_singleton.mpr (storesAnywhere_of_respects rfl refuses_text.respects)

/-- The name of a table and its changes are decoded alike from edited members. -/
lemma agree_tableChanges {kind : String}
    (hrecognised : ∀ key ∈ fieldNames tableField ++ fieldNames TableChanges.fields, key ∈ names)
    (h : EditMembers Place.change names true ms ns) :
    Agree Eq (decodeTableChanges kind (.object ms)) (decodeTableChanges kind (.object ns)) := by
  have hname : Follows tableField hold .memory Place.change names true :=
    follows_hold (List.pairwise_singleton _ _)
      (fun key hkey => hrecognised key (List.mem_append_left _ hkey))
      (fun field hfield => (plain_table field hfield).storesAt _) Place.isHeld_change
  have hchanges : Follows TableChanges.fields ignore .memory Place.change names true :=
    follows_ignore commutes_tableChanges
      (fun key hkey => hrecognised key (List.mem_append_right _ hkey)) stores_tableChanges
  have hfirst : Agree (fun a b => a.1 = b.1 ∧ EditMembers Place.change names true a.2 b.2)
      (recordOfMembers tableField hold "" .memory ms)
      (recordOfMembers tableField hold "" .memory ns) := hname.agree h
  simp only [decodeTableChanges]
  generalize recordOfMembers tableField hold "" .memory ms = x,
    recordOfMembers tableField hold "" .memory ns = y at hfirst
  cases hfirst with
  | error e f => exact .error e f
  | @ok a b hab =>
    obtain ⟨table, others⟩ := a
    obtain ⟨table', others'⟩ := b
    obtain ⟨htable, hothers⟩ := hab
    have hsecond : Agree (fun a b => a.1 = b.1 ∧ EditMembers Place.change names true a.2 b.2)
        (recordOfMembers TableChanges.fields ignore .none .memory others)
        (recordOfMembers TableChanges.fields ignore .none .memory others') :=
      hchanges.agree hothers
    dsimp only at htable ⊢
    generalize recordOfMembers TableChanges.fields ignore .none .memory others = x,
      recordOfMembers TableChanges.fields ignore .none .memory others' = y at hsecond
    cases hsecond with
    | error e f => exact .error e f
    | ok hcd => exact .ok (by rw [htable, hcd.1])

/-! ## Steps -/

/-- The only field of a step that is written as it is. -/
def sqlField : List (RecordField String) := [.required "sql" Json.text fun sql _ => sql]

lemma plain_sql : ∀ field ∈ sqlField, StoresAnywhere source field :=
  List.forall_mem_singleton.mpr (storesAnywhere_of_respects rfl refuses_text.respects)

/-- What a step says beside its kind is decoded alike from edited members, if the names that a step
of that kind reads are recognised. -/
lemma agree_step_object (kind : StepKind) (hrecognised : ∀ key ∈ kind.names, key ∈ names)
    (h : EditMembers (Place.ofStep kind) names true ms ns) :
    Agree Eq (kind.decode (.object ms)) (kind.decode (.object ns)) := by
  have hsingle : ∀ (field : RecordField String), [field].Pairwise RecordField.Commutes :=
    fun _ => List.pairwise_singleton _ _
  cases kind with
  | create => exact (agree_tableChanges hrecognised h).congr_map _
  | table => exact (agree_tableChanges hrecognised h).congr_map _
  | drop => exact ((follows_plain (hsingle _) hrecognised plain_table).agree_record h).congr_map _
  | dropIfExists =>
    exact ((follows_plain (hsingle _) hrecognised plain_table).agree_record h).congr_map _
  | rename =>
    exact ((follows_plain commutes_columnRename hrecognised plain_columnRename).agree_record
      h).congr_map _
  | raw =>
    have hsql : ∀ key ∈ fieldNames sqlField, key ∈ names := hrecognised
    exact ((follows_plain (hsingle _) hsql plain_sql).agree_record h).congr_map _

/-- What a step says beside its kind is decoded alike from edited items. -/
lemma agree_step_array (kind : StepKind) {before behind : List Json} (h : Edit p v w) :
    Agree Eq (kind.decode (.array (before ++ v :: behind)))
      (kind.decode (.array (before ++ w :: behind))) := by
  have hitems : ∀ {σ : Type} {fields : List (RecordField σ)} {initial : σ} {expected : String},
      (∀ field ∈ fields, StoresAnywhere .memory field) →
      Agree Eq (recordOfItems expected fields initial .memory (before ++ v :: behind))
        (recordOfItems expected fields initial .memory (before ++ w :: behind)) :=
    fun hplain => agree_readItems fun field hfield =>
      hplain field (List.mem_of_getElem? hfield) p v w h
  cases kind with
  | create => exact .error _ _
  | table => exact .error _ _
  | drop => exact (hitems plain_table).congr_map _
  | dropIfExists => exact (hitems plain_table).congr_map _
  | rename => exact (hitems plain_columnRename).congr_map _
  | raw => exact (hitems plain_sql).congr_map _

/-- A step written as an object is decoded alike from edited members. -/
lemma agree_decode_object
    (h : EditMembers (Place.step.member ms) (Place.step.names ms) true ms ns) :
    Agree Eq (Step.decode .text (.object ms)) (Step.decode .text (.object ns)) := by
  have hsplit : Agree (fun a b => a.1 = b.1 ∧
      EditMembers (Place.step.member ms) (Place.step.names ms) true a.2 b.2)
        (taggedMembers "action" StepKind.named .text ms)
        (taggedMembers "action" StepKind.named .text ns) :=
    agree_taggedMembers List.mem_cons_self (Place.isHeld_member rfl ms) h
  simp only [Step.decode, tagged]
  obtain ⟨e, f, hms, hns⟩ | ⟨⟨kind, others⟩, ⟨_, others'⟩, hms, hns, rfl, hothers⟩ :=
    hsplit.cases_of
  · rw [hms, hns]
    exact .error e f
  · rw [hms, hns]
    -- The places and the names are those of the kind that was split off.
    have hkind := tag?_of_taggedMembers hms
    have hplace : Place.step.member ms = Place.ofStep kind := by
      funext key
      simp only [Place.member, hkind, Option.map_some, Option.getD_some]
    have hnames : Place.step.names ms = "action" :: kind.names := by
      simp only [Place.names, hkind, Option.map_some, Option.getD_some]
    rw [hplace, hnames] at hothers
    exact agree_step_object kind (fun _ hkey => List.mem_cons_of_mem _ hkey) hothers

/-- A step written as a list is decoded alike from edited items. -/
lemma agree_decode_array {before behind : List Json} (h : Edit .unread v w) :
    Agree Eq (Step.decode .text (.array (before ++ v :: behind)))
      (Step.decode .text (.array (before ++ w :: behind))) := by
  cases before with
  | nil =>
    have htag : Agree Eq (variantTag StepKind.named .text v) (variantTag StepKind.named .text w) :=
      (refuses_variantTag StepKind.named).respects .unread v w h
    simp only [List.nil_append, Step.decode, tagged]
    generalize variantTag StepKind.named .text v = x, variantTag StepKind.named .text w = y at htag
    cases htag with
    | error e f => exact .error e f
    | ok heq => exact heq ▸ .refl _
  | cons first before =>
    have hitems : Edit .unread (.array (before ++ v :: behind)) (.array (before ++ w :: behind)) :=
      .item h
    have hhold := hitems.agree_hold rfl
    simp only [List.cons_append, Step.decode, tagged]
    cases variantTag StepKind.named .text first with
    | error e => exact .error e e
    | ok kind =>
      dsimp only
      generalize hold (.array (before ++ v :: behind)) = x,
        hold (.array (before ++ w :: behind)) = y at hhold
      cases hhold with
      | error e f => exact .error e f
      | ok _ => exact agree_step_array kind h

/-- A step is decoded alike from an edited value. -/
theorem respects_step : Respects .step (Step.decode .text) := by
  intro v w hedit
  obtain ⟨items, items', rfl, rfl⟩ | ⟨ms, ns, rfl, rfl⟩ := hedit.cases_of
  · obtain ⟨before, v, v', behind, rfl, hw, hitem⟩ := hedit.of_array
    cases hw
    exact agree_decode_array hitem
  · obtain ⟨ns', hns, hmembers⟩ := hedit.of_object
    cases hns
    exact agree_decode_object hmembers

/-! ## Scripts -/

/-- A script is decoded alike from an edited value. -/
theorem respects_script : Respects .script (ChangeScript.decode .text) := by
  have hsteps : Respects (.list .step) (Json.list Step.decode .text) :=
    respects_list fun _ => respects_step
  have hcommutes : ChangeScript.fields.Pairwise RecordField.Commutes :=
    List.pairwise_pair.mpr (commutes_of_set rfl rfl fun _ _ _ => rfl)
  refine respects_record (fun ms => follows_ignore hcommutes (fun _ hkey => hkey) ?_) ?_
  · simp only [ChangeScript.fields, List.forall_mem_cons]
    exact ⟨storesAt_of_respects rfl rfl hsteps, storesAt_of_respects rfl rfl hsteps,
      List.forall_mem_nil _⟩
  · intro i field hfield v w hedit
    rcases i with _ | _ | i
    · cases hfield
      exact agree_storeWith (hsteps v w hedit)
    · cases hfield
      exact agree_storeWith (hsteps v w hedit)
    · cases hfield

/-- A rearranged script is decoded alike. -/
theorem agree_decode_of_rearranged (h : Rearranged .script v w) :
    Agree Eq (ChangeScript.decode .text v) (ChangeScript.decode .text w) := by
  induction h with
  | refl => exact .refl _
  | tail _ hedit ih => exact ih.trans (respects_script _ _ hedit) fun _ _ _ => Eq.trans

/-- A text whose document is a rearrangement of that of another text is accepted as a change script
exactly if the other text is, and then both halves of the two change-sets queue the same entries on
a fresh queue, and so the same statements, in every dialect and under all settings. -/
theorem ofText_of_rearranged {s t : String}
    (h : Rearranged .script (Document.ofText s).root (Document.ofText t).root)
    (hmore : (Document.ofText s).hasMore = (Document.ofText t).hasMore) :
    ((∃ script, ChangeScript.ofText s = .ok script) ↔
      ∃ script, ChangeScript.ofText t = .ok script) ∧
    ∀ script script', ChangeScript.ofText s = .ok script → ChangeScript.ofText t = .ok script' →
      ∀ direction grammar settings,
        script.toChangeSet.apply direction (.empty grammar settings) =
          script'.toChangeSet.apply direction (.empty grammar settings) ∧
        (script.toChangeSet.apply direction (.empty grammar settings)).toSql =
          (script'.toChangeSet.apply direction (.empty grammar settings)).toSql := by
  have hagree : Agree Eq (ChangeScript.ofText s) (ChangeScript.ofText t) := by
    have hroot := agree_decode_of_rearranged h
    unfold ChangeScript.ofText Document.decode
    rw [hmore]
    generalize ChangeScript.decode .text (Document.ofText s).root = x,
      ChangeScript.decode .text (Document.ofText t).root = y at hroot
    cases hroot with
    | error e f => exact .error e f
    | ok heq => exact heq ▸ .refl _
  generalize ChangeScript.ofText s = x, ChangeScript.ofText t = y at hagree
  cases hagree with
  | error e f =>
    refine ⟨⟨?_, ?_⟩, fun _ _ hscript => nomatch hscript⟩
    · rintro ⟨script, hscript⟩
      cases hscript
    · rintro ⟨script, hscript⟩
      cases hscript
  | @ok script script' heq =>
    subst heq
    refine ⟨⟨fun _ => ⟨script, rfl⟩, fun _ => ⟨script, rfl⟩⟩, ?_⟩
    rintro _ _ ⟨⟩ ⟨⟩ direction grammar settings
    exact ⟨rfl, rfl⟩

/-- A script with one step, which has one column. -/
def orderedText : String :=
  "\x7b\"up\":[\x7b\"action\":\"table\",\"table\":\"t\",\"columns\":[\x7b\"name\":\"c\"," ++
    "\"type\":\"text\"\x7d]\x7d]\x7d"

/-- The same script with the members of the step and of the column in another order, and with one
more member in the column. -/
def shuffledText : String :=
  "\x7b\"up\":[\x7b\"columns\":[\x7b\"type\":\"text\",\"name\":\"c\",\"k\":null\x7d]," ++
    "\"table\":\"t\",\"action\":\"table\"\x7d]\x7d"

/-- The document of a script with one step. -/
def stepTree (members : List (Key × Json)) : Json :=
  .object [(.name "up", .array [.object members])]

/-- The members of a step that has one column. -/
def columnStep (column : Json) : List (Key × Json) :=
  [(.name "columns", .array [column]), (.name "table", .string "t"),
    (.name "action", .string "table")]

/-- The members of the column. -/
def columnMembers : List (Key × Json) :=
  [(.name "name", .string "c"), (.name "type", .string "text")]

lemma root_orderedText : (Document.ofText orderedText).root =
    stepTree (columnStep (.object columnMembers)).reverse := by
  cbv

set_option maxRecDepth 2000 in
lemma root_shuffledText : (Document.ofText shuffledText).root = stepTree (columnStep
    (.object ((.name "k", .null) :: columnMembers).reverse)) := by
  cbv

/-- The only step of a script is edited in the script. -/
lemma edit_stepTree (h : Edit .step (.object ms) (.object ns)) :
    Edit .script (stepTree ms) (stepTree ns) := by
  have hitem : Edit (.list .step) (.array [.object ms]) (.array [.object ns]) :=
    @Edit.item (.list .step) [] [] _ _ h
  exact .member hitem

/-- The only column of a step is edited in the script. -/
lemma edit_columnStep (h : Edit .column v w) :
    Edit .script (stepTree (columnStep v)) (stepTree (columnStep w)) := by
  have hitem : Edit (.list .column) (.array [v]) (.array [w]) :=
    @Edit.item (.list .column) [] [] v w h
  have hplace : Place.step.member (columnStep v) "columns" = .list .column := rfl
  have hmember : Edit (Place.step.member (columnStep v) "columns") (.array [v]) (.array [w]) :=
    hplace ▸ hitem
  exact edit_stepTree (.member hmember)

/-- The second script is a rearrangement of the first one: its step is turned around, the column
gets a further member, and the column is turned around. -/
lemma rearranged_samples :
    Rearranged .script (Document.ofText orderedText).root (Document.ofText shuffledText).root := by
  rw [root_orderedText, root_shuffledText]
  have hstep : Edit .script (stepTree (columnStep (.object columnMembers)).reverse)
      (stepTree (columnStep (.object columnMembers))) :=
    edit_stepTree (.permute (List.reverse_perm _))
  have hunknown : "k" ∉ Place.column.names columnMembers := by decide
  have hinsert : Edit .script (stepTree (columnStep (.object columnMembers)))
      (stepTree (columnStep (.object ((.name "k", .null) :: columnMembers)))) :=
    edit_columnStep (.insert rfl hunknown rfl)
  have hcolumn : Edit .script
      (stepTree (columnStep (.object ((.name "k", .null) :: columnMembers))))
      (stepTree (columnStep (.object ((.name "k", .null) :: columnMembers).reverse))) :=
    edit_columnStep (.permute (List.reverse_perm _).symm)
  exact ((Relation.ReflTransGen.single hstep).tail hinsert).tail hcolumn

/-- What both texts say. -/
def columnScript : ChangeScript where
  up := [.table "t" { TableChanges.none with columns := [Column.ofType "c" .text] }]
  down := []

set_option maxRecDepth 2000 in
/-- Both scripts are accepted, and queue the addition of the column. -/
theorem ofText_of_rearranged_shuffled :
    (Rearranged .script (Document.ofText orderedText).root (Document.ofText shuffledText).root ∧
      (Document.ofText orderedText).hasMore = (Document.ofText shuffledText).hasMore) ∧
    ∃ script, ChangeScript.ofText shuffledText = .ok script ∧
      (script.toChangeSet.apply .up (.empty (Grammar.mysql "" MySql.defaultStringLength)
        Settings.empty)).toSql = .ok ["ALTER TABLE \x60t\x60 ADD \x60c\x60 TEXT;"] := by
  have hmore : (Document.ofText orderedText).hasMore = (Document.ofText shuffledText).hasMore := by
    decide +kernel
  have hordered : ChangeScript.ofText orderedText = .ok columnScript := by decide +kernel
  obtain ⟨haccepted, hsame⟩ := ofText_of_rearranged rearranged_samples hmore
  obtain ⟨shuffled, hshuffled⟩ := haccepted.mp ⟨columnScript, hordered⟩
  obtain ⟨-, hsql⟩ := hsame columnScript shuffled hordered hshuffled .up
    (Grammar.mysql "" MySql.defaultStringLength) Settings.empty
  refine ⟨⟨rearranged_samples, hmore⟩, shuffled, hshuffled, ?_⟩
  rw [← hsql]
  decide +kernel

/-! ## What may not be inserted -/

/-- A foreign key with an action, beside which nothing else is said. -/
def foreignStep (action : Json) : List (Key × Json) :=
  [(.name "action", .string "table"), (.name "table", .string "t"),
    (.name "foreign", .array [.object
      [(.name "columns", .array [.string "a"]), (.name "onDelete", action)]])]

/-- The removal of a table, with a note. -/
def notedStep (note : Json) : List (Key × Json) :=
  [(.name "note", note), (.name "action", .string "drop"), (.name "table", .string "t")]

/-- Lists inside lists. -/
def nestedLists : Nat → Json
  | 0 => .array []
  | levels + 1 => .array [nestedLists levels]

set_option maxRecDepth 2000 in
/-- An object that names an action takes no further member, also none under a key that stands for no
action, and its payload takes none either; and a step takes no member that is too deep, although it
does not use it. -/
theorem decode_of_inserted :
    (∃ script, ChangeScript.decode .text
      (stepTree (foreignStep (.object [(.name "cascade", .null)]))) = .ok script) ∧
    (∃ e, ChangeScript.decode .text (stepTree (foreignStep
      (.object [(.name "note", .null), (.name "cascade", .null)]))) = .error e) ∧
    (∃ script, ChangeScript.decode .text
      (stepTree (foreignStep (.object [(.name "cascade", .object [])]))) = .ok script) ∧
    (∃ e, ChangeScript.decode .text (stepTree (foreignStep
      (.object [(.name "cascade", .object [(.name "note", .null)])]))) = .error e) ∧
    (∃ script, ChangeScript.decode .text
      ((stepTree (notedStep (nestedLists 1))).limitDepth maxLevels) = .ok script) ∧
    ∃ e, ChangeScript.decode .text
      ((stepTree (notedStep (nestedLists maxLevels))).limitDepth maxLevels) = .error e := by
  refine ⟨⟨_, rfl⟩, ⟨_, rfl⟩, ⟨_, rfl⟩, ⟨_, rfl⟩, ⟨_, rfl⟩, ⟨_, rfl⟩⟩

end SchemaLedger
