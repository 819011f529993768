import SchemaLedger.Proofs.ChangeSet.EditedRecords

/-!
# Decoding edited columns and keys

Each decoder of schema values respects its place.  Defaults, requests for indexes and foreign keys
do so as choices and records, and a foreign action as long as nothing is inserted into it
(`respects_foreignAction`).  A column reads its attributes, then the tag of its type among the other
members, and then the parameters of that type among what is left; at each stage the members are
edited in the same way (`respects_column`).
-/

namespace SchemaLedger

open Json

variable {α σ : Type} {p : Place} {v w : Json} {ms ns : List (Key × Json)} {source : Source}
  {place : String → Place} {names : List String}

/-! ## Lists of texts, choices and defaults -/

lemma Refuses.map {β : Type} {decode : Json → Except DecodeError α} {f : α → β}
    (h : Refuses decode) : Refuses fun value => (decode value).map f where
  array items := by
    obtain ⟨e, he⟩ := h.array items
    exact ⟨e, by rw [he]; rfl⟩
  object members := by
    obtain ⟨e, he⟩ := h.object members
    exact ⟨e, by rw [he]; rfl⟩

lemma Refuses.nullable {decode : Source → Json → Except DecodeError α}
    (h : Refuses (decode source)) : Refuses (Json.nullable decode source) where
  array items := by
    obtain ⟨e, he⟩ := h.array items
    exact ⟨e, by simp only [Json.nullable, he]⟩
  object members := by
    obtain ⟨e, he⟩ := h.object members
    exact ⟨e, by simp only [Json.nullable, he]⟩

/-- A list of texts respects every place. -/
lemma respects_texts (p : Place) : Respects p (Json.list Json.text source) :=
  respects_list fun i => refuses_text.respects (p.item i)

lemma respects_fragment : Respects .default (Sql.Fragment.decode .memory) := by
  refine respects_plainRecord (List.pairwise_singleton _ _) (fun _ _ hkey => hkey) ?_
  exact List.forall_mem_singleton.mpr (storesAnywhere_of_respects rfl refuses_text.respects)

lemma respects_defaultValue : Respects .default (DefaultValue.decode source) := by
  refine respects_firstOf rfl ?_
  simp only [List.forall_mem_cons]
  exact ⟨respects_map respects_fragment, refuses_nullOnly.map.respects _,
    refuses_boolean.map.respects _, refuses_integer.map.respects _,
    refuses_double.map.respects _, refuses_text.map.respects _, List.forall_mem_nil _⟩

/-- An index flag respects every place where values are held. -/
lemma respects_indexFlag (hheld : p.isHeld = true) : Respects p (IndexFlag.decode source) := by
  refine respects_firstOf hheld ?_
  simp only [List.forall_mem_cons]
  exact ⟨refuses_boolean.map.respects _, refuses_text.map.respects _, List.forall_mem_nil _⟩

/-- The target of a removal respects every place where values are held. -/
lemma respects_indexTarget (hheld : p.isHeld = true) :
    Respects p (IndexTarget.decode source) := by
  refine respects_firstOf hheld ?_
  simp only [List.forall_mem_cons]
  exact ⟨refuses_text.map.respects _, respects_map (respects_texts p), List.forall_mem_nil _⟩

/-! ## Requests for indexes -/

lemma commutes_indexRequest : IndexRequest.fields.Pairwise RecordField.Commutes := by
  simp only [IndexRequest.fields, List.pairwise_cons, List.forall_mem_cons]
  and_intros
  all_goals first
    | exact commutes_of_set rfl rfl fun _ _ _ => rfl
    | exact List.forall_mem_nil _
    | exact List.Pairwise.nil

/-- A request for an index has texts only. -/
lemma plain_indexRequest : ∀ field ∈ IndexRequest.fields, StoresAnywhere source field := by
  simp only [IndexRequest.fields, List.forall_mem_cons]
  exact ⟨storesAnywhere_of_respects rfl respects_texts,
    storesAnywhere_of_respects rfl refuses_text.nullable.respects,
    storesAnywhere_of_respects rfl refuses_text.nullable.respects, List.forall_mem_nil _⟩

lemma respects_indexRequest_object : Respects .request IndexRequest.ofObject := by
  intro v w hedit
  obtain ⟨items, items', rfl, rfl⟩ | ⟨ms, ns, rfl, rfl⟩ := hedit.cases_of
  · exact .error _ _
  · obtain ⟨ns', hns, hmembers⟩ := hedit.of_object
    cases hns
    have hfollows : Follows IndexRequest.fields ignore .memory (Place.request.member ms)
        (Place.request.names ms) true :=
      follows_plain commutes_indexRequest (fun _ hkey => hkey) plain_indexRequest
    exact (hfollows.agree hmembers).map fun _ _ h => h.1

/-- A request for an index is a list of columns or a record, and respects its place as both. -/
lemma respects_indexRequest : Respects .request (IndexRequest.decode source) := by
  refine respects_firstOf rfl ?_
  simp only [List.forall_mem_cons]
  exact ⟨respects_map (respects_texts _), respects_indexRequest_object, List.forall_mem_nil _⟩

/-! ## Foreign keys -/

/-- The payload of an action is no object with members. -/
lemma respects_unitPayload : Respects .action (unitPayload .memory) := by
  intro v w hedit
  have hmany : ∀ m ms, ∃ e, unitPayload .memory (.object (m :: ms)) = .error e :=
    fun _ _ => ⟨_, rfl⟩
  cases hedit with
  | @permute _ ms ns hperm =>
    cases ms with
    | nil =>
      rw [List.nil_perm.mp hperm]
      exact .refl _
    | cons m ms =>
      cases ns with
      | nil => exact absurd (List.perm_nil.mp hperm) (List.cons_ne_nil _ _)
      | cons n ns => exact .error _ _
  | insert hopen _ _ => cases hopen
  | member _ => exact .error _ _
  | item _ => exact .error _ _

/-- An object that names an action has no second member. -/
lemma variantOfMemory_of_length_ne {variants : List (String × α)} (h : ms.length ≠ 1) :
    ∃ e, variantOfMemory variants (.object ms) = .error e := by
  match ms, h with
  | [], _ => exact ⟨_, rfl⟩
  | [_], h => exact absurd rfl h
  | (.name _, _) :: _ :: _, _ => exact ⟨_, rfl⟩
  | (.flawed _, _) :: _ :: _, _ => exact ⟨_, rfl⟩

/-- An action respects its place, where nothing is inserted. -/
lemma respects_foreignAction : Respects .action (ForeignAction.decode .memory) := by
  intro v w hedit
  unfold ForeignAction.decode variant
  dsimp only
  cases hedit with
  | @permute _ ms ns hperm =>
    by_cases hlength : ms.length = 1
    · obtain ⟨m, rfl⟩ := List.length_eq_one_iff.mp hlength
      rw [List.singleton_perm.mp hperm]
      exact .refl _
    · obtain ⟨e, he⟩ : ∃ e, variantOfMemory ForeignAction.named (.object ms) = .error e :=
        variantOfMemory_of_length_ne hlength
      obtain ⟨f, hf⟩ : ∃ f, variantOfMemory ForeignAction.named (.object ns) = .error f :=
        variantOfMemory_of_length_ne (hperm.length_eq ▸ hlength)
      rw [he, hf]
      exact .error e f
  | insert hopen _ _ => cases hopen
  | @member _ ms key v w hvalue =>
    cases ms with
    | nil =>
      refine (Agree.refl (variantNamed ForeignAction.named key)).bind ?_
      rintro variant _ rfl
      refine (respects_unitPayload v w hvalue).bind ?_
      rintro _ _ rfl
      exact .refl _
    | cons m ms => exact .error _ _
  | item _ => exact .error _ _

lemma commutes_foreignKey : ForeignKey.fields.Pairwise RecordField.Commutes := by
  simp only [ForeignKey.fields, List.pairwise_cons, List.forall_mem_cons]
  and_intros
  all_goals first
    | exact commutes_of_set rfl rfl fun _ _ _ => rfl
    | exact List.forall_mem_nil _
    | exact List.Pairwise.nil

/-- A foreign key is a record of texts whose last two fields are actions. -/
lemma respects_foreignKey : Respects .foreignKey (ForeignKey.decode .memory) := by
  have haction : Respects .action (Json.nullable ForeignAction.decode .memory) :=
    respects_nullable respects_foreignAction
  refine respects_record (fun ms => follows_ignore commutes_foreignKey (fun _ hkey => hkey) ?_) ?_
  · simp only [ForeignKey.fields, List.forall_mem_cons]
    exact ⟨(storesAnywhere_of_respects rfl respects_texts).storesAt _,
      (storesAnywhere_of_respects rfl refuses_text.nullable.respects).storesAt _,
      (storesAnywhere_of_respects rfl respects_texts).storesAt _,
      (storesAnywhere_of_respects rfl refuses_text.respects).storesAt _,
      storesAt_of_respects rfl rfl haction, storesAt_of_respects rfl rfl haction,
      List.forall_mem_nil _⟩
  · intro i field hfield v w hedit
    rcases i with _ | _ | _ | _ | _ | _ | i
    · cases hfield
      exact storesAnywhere_of_respects rfl respects_texts _ v w hedit
    · cases hfield
      exact storesAnywhere_of_respects rfl refuses_text.nullable.respects _ v w hedit
    · cases hfield
      exact storesAnywhere_of_respects rfl respects_texts _ v w hedit
    · cases hfield
      exact storesAnywhere_of_respects rfl refuses_text.respects _ v w hedit
    · cases hfield
      exact agree_storeWith (haction v w hedit)
    · cases hfield
      exact agree_storeWith (haction v w hedit)
    · cases hfield

/-! ## Column types -/

lemma commutes_digits : digitsFields.Pairwise RecordField.Commutes :=
  List.pairwise_pair.mpr (commutes_of_set rfl rfl fun _ _ _ => rfl)

lemma commutes_timestamp : timestampFields.Pairwise RecordField.Commutes :=
  List.pairwise_pair.mpr (commutes_of_set rfl rfl fun _ _ _ => rfl)

/-- Parameters are decoded alike from edited members. -/
lemma agree_parameters {fields : List (RecordField σ)} {initial : σ}
    (hcommutes : fields.Pairwise RecordField.Commutes)
    (hrecognised : ∀ key ∈ fieldNames fields, key ∈ names)
    (hplain : ∀ field ∈ fields, StoresAnywhere .memory field)
    (h : EditMembers place names true ms ns) :
    Agree Eq (parameters fields initial ms) (parameters fields initial ns) := by
  have hfollows : Follows fields ignore .memory place names true :=
    follows_plain hcommutes hrecognised hplain
  exact (hfollows.agree h).map fun _ _ h => h.1

/-- The type of a kind is decoded alike from edited members, if the names of its parameters are
recognised. -/
lemma agree_ofMembers (kind : TypeKind) (hrecognised : ∀ key ∈ kind.parameterNames, key ∈ names)
    (h : EditMembers place names true ms ns) :
    Agree Eq (ColumnType.ofMembers ms kind) (ColumnType.ofMembers ns kind) := by
  have hword : ∀ bits, ∀ p, Respects p (word bits .memory) := fun bits =>
    (refuses_word bits).respects
  have hmaybe : ∀ bits, ∀ p, Respects p (Json.nullable (word bits) .memory) := fun bits =>
    (refuses_word bits).nullable.respects
  have hlength : ∀ field ∈ lengthFields, StoresAnywhere .memory field :=
    List.forall_mem_singleton.mpr (storesAnywhere_of_respects rfl (hmaybe 32))
  have hdigits : ∀ field ∈ digitsFields, StoresAnywhere .memory field := by
    simp only [digitsFields, List.forall_mem_cons]
    exact ⟨storesAnywhere_of_respects rfl (hmaybe 32), storesAnywhere_of_respects rfl (hmaybe 32),
      List.forall_mem_nil _⟩
  have hallowed : ∀ field ∈ allowedFields, StoresAnywhere .memory field :=
    List.forall_mem_singleton.mpr (storesAnywhere_of_respects rfl respects_texts)
  have hprecision : ∀ field ∈ precisionFields, StoresAnywhere .memory field :=
    List.forall_mem_singleton.mpr (storesAnywhere_of_respects rfl (hword 8))
  have htimestamp : ∀ field ∈ timestampFields, StoresAnywhere .memory field := by
    simp only [timestampFields, List.forall_mem_cons]
    exact ⟨storesAnywhere_of_respects rfl (hword 8),
      storesAnywhere_of_respects rfl refuses_boolean.respects, List.forall_mem_nil _⟩
  have hsingle : ∀ {τ : Type} (field : RecordField τ), [field].Pairwise RecordField.Commutes :=
    fun _ => List.pairwise_singleton _ _
  cases kind with
  | char => exact (agree_parameters (hsingle _) hrecognised hlength h).congr_map _
  | string => exact (agree_parameters (hsingle _) hrecognised hlength h).congr_map _
  | float => exact (agree_parameters commutes_digits hrecognised hdigits h).congr_map _
  | double => exact (agree_parameters commutes_digits hrecognised hdigits h).congr_map _
  | decimal => exact (agree_parameters commutes_digits hrecognised hdigits h).congr_map _
  | enumeration => exact (agree_parameters (hsingle _) hrecognised hallowed h).congr_map _
  | dateTime => exact (agree_parameters (hsingle _) hrecognised hprecision h).congr_map _
  | dateTimeTz => exact (agree_parameters (hsingle _) hrecognised hprecision h).congr_map _
  | timestamp => exact (agree_parameters commutes_timestamp hrecognised htimestamp h).congr_map _
  | timestampTz => exact (agree_parameters commutes_timestamp hrecognised htimestamp h).congr_map _
  -- The types without parameters do not look at the members.
  | _ => exact .refl _

/-- A column type is decoded alike from edited members, if its tag and the names of its parameters
are recognised. -/
lemma agree_columnType (htag : "type" ∈ names)
    (hrecognised : ∀ kind, tag? "type" TypeKind.named .memory ms = some kind →
      ∀ key ∈ kind.parameterNames, key ∈ names)
    (hheld : ∀ key, (place key).isHeld = true) (h : EditMembers place names true ms ns) :
    Agree Eq (ColumnType.decode ms) (ColumnType.decode ns) := by
  have hsplit : Agree (fun a b => a.1 = b.1 ∧ EditMembers place names true a.2 b.2)
      (taggedMembers "type" TypeKind.named .memory ms)
      (taggedMembers "type" TypeKind.named .memory ns) := agree_taggedMembers htag hheld h
  unfold ColumnType.decode
  obtain ⟨e, f, hms, hns⟩ | ⟨⟨kind, others⟩, ⟨_, others'⟩, hms, hns, rfl, hothers⟩ :=
    hsplit.cases_of
  · rw [hms, hns]
    exact .error e f
  · rw [hms, hns]
    exact agree_ofMembers kind (hrecognised kind (tag?_of_taggedMembers hms)) hothers

/-! ## Columns -/

lemma commutes_column : Column.fields.Pairwise RecordField.Commutes := by
  simp only [Column.fields, List.pairwise_cons, List.forall_mem_cons]
  and_intros
  all_goals first
    | exact commutes_of_set rfl rfl fun _ _ _ => rfl
    | exact List.forall_mem_nil _
    | exact List.Pairwise.nil

/-- The attributes of a column respect their places: a default has a place of its own, and flags are
held in memory. -/
lemma stores_column (ms : List (Key × Json)) :
    ∀ field ∈ Column.fields, StoresAt (Place.column.member ms) .memory field := by
  have htext : ∀ p, Respects p (Json.nullable Json.text .memory) := refuses_text.nullable.respects
  have hboolean : ∀ p, Respects p (Json.nullable Json.boolean .memory) :=
    refuses_boolean.nullable.respects
  have hflag : Respects .unread (Json.nullable IndexFlag.decode .memory) :=
    respects_nullable (respects_indexFlag rfl)
  simp only [Column.fields, List.forall_mem_cons]
  exact ⟨(storesAnywhere_of_respects rfl refuses_text.respects).storesAt _,
    (storesAnywhere_of_respects rfl hboolean).storesAt _,
    (storesAnywhere_of_respects rfl hboolean).storesAt _,
    (storesAnywhere_of_respects rfl hboolean).storesAt _,
    storesAt_of_respects rfl rfl respects_defaultValue,
    (storesAnywhere_of_respects rfl htext).storesAt _,
    (storesAnywhere_of_respects rfl htext).storesAt _,
    (storesAnywhere_of_respects rfl htext).storesAt _,
    (storesAnywhere_of_respects rfl htext).storesAt _,
    (storesAnywhere_of_respects rfl hboolean).storesAt _,
    (storesAnywhere_of_respects rfl htext).storesAt _,
    (storesAnywhere_of_respects rfl htext).storesAt _,
    storesAt_of_respects rfl rfl hflag, storesAt_of_respects rfl rfl hflag,
    storesAt_of_respects rfl rfl hflag, (storesAnywhere_of_respects rfl hboolean).storesAt _,
    (storesAnywhere_of_respects rfl htext).storesAt _, List.forall_mem_nil _⟩

/-- A column is decoded alike from edited members. -/
theorem respects_column : Respects .column (Column.decode .memory) := by
  intro v w hedit
  obtain ⟨items, items', rfl, rfl⟩ | ⟨ms, ns, rfl, rfl⟩ := hedit.cases_of
  · exact .error _ _
  · obtain ⟨ns', hns, hmembers⟩ := hedit.of_object
    cases hns
    have hheld : ∀ key, (Place.column.member ms key).isHeld = true :=
      Place.isHeld_member rfl ms
    have hfollows : Follows Column.fields hold .memory (Place.column.member ms)
        (Place.column.names ms) true :=
      follows_hold commutes_column (fun _ hkey => List.mem_append_left _ hkey)
        (stores_column ms) hheld
    have htag : "type" ∈ Place.column.names ms :=
      List.mem_append_right _ List.mem_cons_self
    have hattributes : Agree (fun a b => a.1 = b.1 ∧
        EditMembers (Place.column.member ms) (Place.column.names ms) true a.2 b.2)
          (recordOfMembers Column.fields hold (Column.ofType "" .text) .memory ms)
          (recordOfMembers Column.fields hold (Column.ofType "" .text) .memory ns) :=
      hfollows.agree hmembers
    simp only [Column.decode]
    obtain ⟨e, f, hms, hns⟩ | ⟨⟨column, others⟩, ⟨_, others'⟩, hms, hns, rfl, hothers⟩ :=
      hattributes.cases_of
    · rw [hms, hns]
      exact .error e f
    · rw [hms, hns]
      -- The tag of the type is the one that the whole object has.
      have hrecognised : ∀ kind, tag? "type" TypeKind.named .memory others = some kind →
          ∀ key ∈ kind.parameterNames, key ∈ Place.column.names ms := by
        intro kind hkind key hkey
        have hunknown : Column.fields.find? (·.accepts "type") = none := by decide
        rw [recordOfMembers_others hms, tag?_filter_isOther hunknown] at hkind
        refine List.mem_append_right _ (List.mem_cons_of_mem _ ?_)
        rw [hkind]
        exact hkey
      have htype := agree_columnType htag hrecognised hheld hothers
      dsimp only
      generalize ColumnType.decode others = x, ColumnType.decode others' = y at htype
      cases htype with
      | error e f => exact .error e f
      | ok heq => exact .ok (heq ▸ rfl)

end SchemaLedger
