import SchemaLedger.Proofs.ChangeSet.Places

/-!
# Decoding edited values

A decoder respects a place if it treats a value and an edited one alike there.  A decoder of texts,
numbers and the like does so everywhere, since it refuses lists and objects (`Refuses.respects`),
and lists, choices and optional values respect a place if their parts do.  A record respects a place
if it knows no key beyond those that are recognised there and its fields respect the places of their
values (`Follows.agree`, `respects_record`).
-/

namespace SchemaLedger

open Json

/-- A decoder treats a value and an edited one alike. -/
def Respects {α : Type} (p : Place) (decode : Json → Except DecodeError α) : Prop :=
  ∀ v w, Edit p v w → Agree Eq (decode v) (decode w)

/-- A decoder refuses lists and objects. -/
structure Refuses {α : Type} (decode : Json → Except DecodeError α) : Prop where
  array : ∀ items, ∃ e, decode (.array items) = .error e
  object : ∀ members, ∃ e, decode (.object members) = .error e

/-- One edit of the members of an object, where the values have places by their keys, some keys are
recognised, and values are held in memory or not. -/
inductive EditMembers (place : String → Place) (names : List String) (held : Bool) :
    List (Key × Json) → List (Key × Json) → Prop
  | permute {ms ns : List (Key × Json)} (h : ms.Perm ns) : EditMembers place names held ms ns
  | insert {ms : List (Key × Json)} {key : String} {value : Json} (hkey : key ∉ names)
    (hvalue : Fits held value) : EditMembers place names held ms ((.name key, value) :: ms)
  | member {ms : List (Key × Json)} {key : String} {v w : Json} (h : Edit (place key) v w) :
    EditMembers place names held ((.name key, v) :: ms) ((.name key, w) :: ms)

variable {α σ : Type} {p : Place} {v w : Json} {ms ns : List (Key × Json)} {key : String}
  {fields : List (RecordField σ)} {other : Json → Except DecodeError Unit} {source : Source}
  {place : String → Place} {names : List String} {held : Bool} {initial : σ}

/-! ## Edited objects and lists -/

/-- What an object is edited to. -/
lemma Edit.of_object (h : Edit p (.object ms) w) :
    ∃ ns, w = .object ns ∧ EditMembers (p.member ms) (p.names ms) p.isHeld ms ns := by
  cases h with
  | permute hperm => exact ⟨_, rfl, .permute hperm⟩
  | insert _ hkey hvalue => exact ⟨_, rfl, .insert hkey hvalue⟩
  | member h => exact ⟨_, rfl, .member h⟩

/-- What a list is edited to. -/
lemma Edit.of_array {items : List Json} (h : Edit p (.array items) w) :
    ∃ before v v' behind, items = before ++ v :: behind ∧ w = .array (before ++ v' :: behind) ∧
      Edit (p.item before.length) v v' := by
  cases h with
  | item h => exact ⟨_, _, _, _, rfl, rfl, h⟩

/-- Only objects and lists are edited, and stay what they are. -/
lemma Edit.cases_of (h : Edit p v w) :
    (∃ items items', v = .array items ∧ w = .array items') ∨
      ∃ ms ns, v = .object ms ∧ w = .object ns := by
  cases h with
  | permute _ => exact .inr ⟨_, _, rfl, rfl⟩
  | insert _ _ _ => exact .inr ⟨_, _, rfl, rfl⟩
  | member _ => exact .inr ⟨_, _, rfl, rfl⟩
  | item _ => exact .inl ⟨_, _, rfl, rfl⟩

/-- Members that are chosen by their keys are edited as all of them are. -/
lemma EditMembers.filter {chosen : Key × Json → Bool}
    (hchosen : ∀ key v w, chosen (key, v) = chosen (key, w))
    (h : EditMembers place names held ms ns) :
    EditMembers place names held (ms.filter chosen) (ns.filter chosen) := by
  cases h with
  | permute hperm => exact .permute (hperm.filter chosen)
  | @insert ms key value hkey hvalue =>
    rw [List.filter_cons]
    split
    · exact .insert hkey hvalue
    · exact .permute (List.Perm.refl _)
  | @member ms key v w h =>
    rw [List.filter_cons, List.filter_cons, hchosen (.name key) v w]
    split
    · exact .member h
    · exact .permute (List.Perm.refl _)

/-! ## Records -/

/-- A field treats a value and an edited one alike at the places of its names. -/
def StoresAt (place : String → Place) (source : Source) (field : RecordField σ) : Prop :=
  ∀ key ∈ field.name :: field.aliases, ∀ v w, Edit (place key) v w → ∀ record,
    Agree Eq (field.store source v record) (field.store source w record)

/-- A table of fields follows the places of an object: its fields commute, all its names are
recognised, its fields respect the places of their values, and so does the treatment of the other
members, which accepts what may be inserted. -/
structure Follows (fields : List (RecordField σ)) (other : Json → Except DecodeError Unit)
    (source : Source) (place : String → Place) (names : List String) (held : Bool) : Prop where
  commutes : fields.Pairwise RecordField.Commutes
  recognised : ∀ key ∈ fieldNames fields, key ∈ names
  stores : ∀ field ∈ fields, StoresAt place source field
  passes : ∀ key v w, Edit (place key) v w → Agree Eq (other v) (other w)
  fits : ∀ value, Fits held value → other value = .ok ()

/-- The field that accepts a key. -/
lemma find?_accepts_eq_some {field : RecordField σ}
    (h : fields.find? (·.accepts key) = some field) :
    field ∈ fields ∧ key ∈ field.name :: field.aliases := by
  have haccepts := List.find?_some h
  refine ⟨List.mem_of_find?_eq_some h, ?_⟩
  rw [RecordField.accepts, Bool.or_eq_true, beq_iff_eq, List.contains_iff_mem] at haccepts
  exact List.mem_cons.mpr (haccepts.imp_left Eq.symm)

/-- A key that is no name of a field belongs to none. -/
lemma find?_accepts_eq_none (h : key ∉ fieldNames fields) :
    fields.find? (·.accepts key) = none := by
  cases hfind : fields.find? (·.accepts key) with
  | none => rfl
  | some field =>
    obtain ⟨hfield, hkey⟩ := find?_accepts_eq_some hfind
    exact absurd (List.mem_flatMap.mpr ⟨field, hfield, hkey⟩) h

/-- A table of fields that follows the places of an object gives the same record behind an edit, and
hands on members that are edited in the same way. -/
theorem Follows.agree (h : Follows fields other source place names held)
    (hedit : EditMembers place names held ms ns) :
    Agree (fun a b => a.1 = b.1 ∧ EditMembers place names held a.2 b.2)
      (recordOfMembers fields other initial source ms)
      (recordOfMembers fields other initial source ns) := by
  have hothers : ∀ key v w, isOther fields (key, v) = isOther fields (key, w) :=
    fun _ _ _ => rfl
  have hfiltered := hedit.filter hothers
  have hrecord : Agree (fun a b => a.1 = b.1) (recordOfMembers fields other initial source ms)
      (recordOfMembers fields other initial source ns) := by
    cases hedit with
    | permute hperm => exact agree_recordOfMembers_perm h.commutes hperm
    | insert hkey hvalue =>
      have hunknown := find?_accepts_eq_none fun hmem => hkey (h.recognised _ hmem)
      exact agree_recordOfMembers_insert hunknown (h.fits _ hvalue)
    | @member ms key v w hvalue =>
      cases hfind : fields.find? (·.accepts key) with
      | none => exact agree_recordOfMembers_other hfind (h.passes key v w hvalue)
      | some field =>
        obtain ⟨hfield, hkey⟩ := find?_accepts_eq_some hfind
        exact agree_recordOfMembers_field hfind fun record =>
          h.stores field hfield key hkey v w hvalue record
  obtain ⟨e, f, hms, hns⟩ | ⟨a, b, hms, hns, hab⟩ := hrecord.cases_of
  · rw [hms, hns]
    exact .error e f
  · rw [hms, hns]
    refine .ok ⟨hab, ?_⟩
    rw [recordOfMembers_others hms, recordOfMembers_others hns]
    exact hfiltered

/-- A record is decoded alike from edited members if its table follows their places. -/
lemma Follows.agree_record {kind : String} (h : Follows fields ignore source place names held)
    (hedit : EditMembers place names held ms ns) :
    Agree Eq (Json.record kind fields initial source (.object ms))
      (Json.record kind fields initial source (.object ns)) := by
  have hrecord : Agree (fun a b => a.1 = b.1 ∧ EditMembers place names held a.2 b.2)
      (recordOfMembers fields ignore initial source ms)
      (recordOfMembers fields ignore initial source ns) := h.agree hedit
  simp only [Json.record]
  generalize recordOfMembers fields ignore initial source ms = x,
    recordOfMembers fields ignore initial source ns = y at hrecord
  cases hrecord with
  | error e f => exact .error e f
  | ok hab => exact .ok hab.1

/-! ## Decoders that refuse lists and objects -/

lemma Refuses.respects {decode : Json → Except DecodeError α} (h : Refuses decode) (p : Place) :
    Respects p decode := by
  intro v w hedit
  obtain ⟨items, items', rfl, rfl⟩ | ⟨ms, ns, rfl, rfl⟩ := hedit.cases_of
  · obtain ⟨e, he⟩ := h.array items
    obtain ⟨f, hf⟩ := h.array items'
    rw [he, hf]
    exact .error e f
  · obtain ⟨e, he⟩ := h.object ms
    obtain ⟨f, hf⟩ := h.object ns
    rw [he, hf]
    exact .error e f

lemma refuses_text : Refuses (text source) := ⟨fun _ => ⟨_, rfl⟩, fun _ => ⟨_, rfl⟩⟩

lemma refuses_boolean : Refuses (boolean source) := ⟨fun _ => ⟨_, rfl⟩, fun _ => ⟨_, rfl⟩⟩

lemma refuses_word (bits : Nat) : Refuses (word bits source) :=
  ⟨fun _ => ⟨_, rfl⟩, fun _ => ⟨_, rfl⟩⟩

lemma refuses_integer : Refuses (integer source) := ⟨fun _ => ⟨_, rfl⟩, fun _ => ⟨_, rfl⟩⟩

lemma refuses_double : Refuses (double source) := ⟨fun _ => ⟨_, rfl⟩, fun _ => ⟨_, rfl⟩⟩

lemma refuses_nullOnly : Refuses nullOnly := ⟨fun _ => ⟨_, rfl⟩, fun _ => ⟨_, rfl⟩⟩

lemma refuses_variantTag (variants : List (String × α)) : Refuses (variantTag variants source) :=
  ⟨fun _ => ⟨_, rfl⟩, fun _ => ⟨_, rfl⟩⟩

/-! ## Parts of decoders -/

/-- A value that may be `null` is decoded alike if it is so when it is there. -/
lemma respects_nullable {decode : Source → Json → Except DecodeError α}
    (h : Respects p (decode source)) : Respects p (nullable decode source) := by
  intro v w hedit
  have hvalue := h v w hedit
  obtain ⟨items, items', rfl, rfl⟩ | ⟨ms, ns, rfl, rfl⟩ := hedit.cases_of
  · simp only [nullable]
    generalize decode source (.array items) = x, decode source (.array items') = y at hvalue
    cases hvalue with
    | error e f => exact .error e f
    | ok heq => exact .ok (heq ▸ rfl)
  · simp only [nullable]
    generalize decode source (.object ms) = x, decode source (.object ns) = y at hvalue
    cases hvalue with
    | error e f => exact .error e f
    | ok heq => exact .ok (heq ▸ rfl)

lemma respects_map {β : Type} {decode : Json → Except DecodeError α} {f : α → β}
    (h : Respects p decode) : Respects p fun value => (decode value).map f :=
  fun v w hedit => (h v w hedit).congr_map f

/-- Items that are decoded alike give lists that are. -/
lemma agree_listItems {decode : Json → Except DecodeError α} {before behind : List Json}
    (h : Agree Eq (decode v) (decode w)) :
    Agree Eq (listItems decode (before ++ v :: behind))
      (listItems decode (before ++ w :: behind)) := by
  induction before with
  | nil =>
    simp only [List.nil_append, listItems]
    generalize decode v = x, decode w = y at h
    cases h with
    | error e f => exact .error e f
    | ok heq => exact heq ▸ .refl _
  | cons item before ih =>
    simp only [List.cons_append, listItems]
    cases decode item with
    | error e => exact .error e e
    | ok a =>
      dsimp only
      generalize listItems decode (before ++ v :: behind) = x,
        listItems decode (before ++ w :: behind) = y at ih
      cases ih with
      | error e f => exact .error e f
      | ok heq => exact .ok (heq ▸ rfl)

/-- A list respects a place if its items respect theirs. -/
lemma respects_list {decode : Source → Json → Except DecodeError α}
    (h : ∀ i, Respects (p.item i) (decode source)) : Respects p (Json.list decode source) := by
  intro v w hedit
  obtain ⟨items, items', rfl, rfl⟩ | ⟨ms, ns, rfl, rfl⟩ := hedit.cases_of
  · obtain ⟨before, v, v', behind, rfl, hw, hitem⟩ := hedit.of_array
    cases hw
    exact agree_listItems (h _ v v' hitem)
  · exact .error _ _

/-- A choice respects a place, if values are held there, as soon as all its decoders do. -/
lemma respects_firstOf {type : String} {decoders : List (Json → Except DecodeError α)}
    (hheld : p.isHeld = true) (h : ∀ decode ∈ decoders, Respects p decode) :
    Respects p (firstOf type decoders) := by
  intro v w hedit
  have hreadable := hedit.isReadable_iff hheld
  induction decoders with
  | nil =>
    unfold firstOf
    cases v.check <;> cases w.check <;> exact .error _ _
  | cons decode decoders ih =>
    rw [List.forall_mem_cons] at h
    have hfirst := h.1 v w hedit
    unfold firstOf
    cases hv : v.check with
    | error e =>
      cases hw : w.check with
      | error f => exact .error _ _
      | ok _ =>
        have hv' : v.check = .ok () := hreadable.mpr hw
        rw [hv'] at hv
        cases hv
    | ok _ =>
      have hw : w.check = .ok () := hreadable.mp hv
      rw [hw]
      dsimp only
      generalize decode v = x, decode w = y at hfirst
      cases hfirst with
      | error e f => exact ih h.2
      | ok heq => exact .ok heq

/-! ## Records at a place -/

/-- An item that enters a record alike gives the same record. -/
lemma agree_readItems {expected : String} {before behind : List Json} {taken : Nat} {record : σ}
    (h : ∀ field, fields[before.length]? = some field → ∀ record,
      Agree Eq (field.store source v record) (field.store source w record)) :
    Agree Eq (readItems expected source fields (before ++ v :: behind) taken record)
      (readItems expected source fields (before ++ w :: behind) taken record) := by
  have hleft : ∀ taken x xs, ∃ e, leftOver source taken (x :: xs) = .error e := by
    intro taken x xs
    cases source with
    | memory => exact ⟨_, rfl⟩
    | text => cases x <;> exact ⟨_, rfl⟩
  induction fields generalizing before taken record with
  | nil =>
    cases before with
    | nil =>
      obtain ⟨e, he⟩ := hleft taken v behind
      obtain ⟨f, hf⟩ := hleft taken w behind
      simp only [List.nil_append, readItems, he, hf]
      exact .error e f
    | cons item before =>
      obtain ⟨e, he⟩ := hleft taken item (before ++ v :: behind)
      obtain ⟨f, hf⟩ := hleft taken item (before ++ w :: behind)
      simp only [List.cons_append, readItems, he, hf]
      exact .error e f
  | cons field fields ih =>
    cases before with
    | nil =>
      have hfirst := h field rfl record
      simp only [List.nil_append, readItems]
      generalize field.store source v record = x, field.store source w record = y at hfirst
      cases hfirst with
      | error e f => exact .error e f
      | ok heq => exact heq ▸ .refl _
    | cons item before =>
      simp only [List.cons_append, readItems]
      cases field.store source item record with
      | error e => exact .error e e
      | ok record => exact ih h

/-- A record respects a place if its table follows the place, and its fields in order respect the
places of items. -/
theorem respects_record {kind : String}
    (hmembers : ∀ ms, Follows fields ignore source (p.member ms) (p.names ms) p.isHeld)
    (hitems : ∀ i field, fields[i]? = some field → ∀ v w, Edit (p.item i) v w → ∀ record,
      Agree Eq (field.store source v record) (field.store source w record)) :
    Respects p (Json.record kind fields initial source) := by
  intro v w hedit
  obtain ⟨items, items', rfl, rfl⟩ | ⟨ms, ns, rfl, rfl⟩ := hedit.cases_of
  · obtain ⟨before, v, v', behind, rfl, hw, hitem⟩ := hedit.of_array
    cases hw
    exact agree_readItems fun field hfield => hitems _ field hfield v v' hitem
  · obtain ⟨ns', hns, hmember⟩ := hedit.of_object
    cases hns
    exact (hmembers ms).agree_record hmember

/-! ## Tables of fields -/

/-- A field treats a value and an edited one alike, whatever the place. -/
def StoresAnywhere (source : Source) (field : RecordField σ) : Prop :=
  ∀ p v w, Edit p v w → ∀ record,
    Agree Eq (field.store source v record) (field.store source w record)

lemma StoresAnywhere.storesAt {field : RecordField σ} (h : StoresAnywhere source field)
    (place : String → Place) : StoresAt place source field :=
  fun key _ v w hedit record => h (place key) v w hedit record

/-- Values that are decoded alike are stored alike. -/
lemma agree_storeWith {decode : Source → Json → Except DecodeError α} {set : α → σ → σ}
    (h : Agree Eq (decode source v) (decode source w)) (record : σ) :
    Agree Eq (RecordField.storeWith decode set source v record)
      (RecordField.storeWith decode set source w record) := by
  unfold RecordField.storeWith
  generalize decode source v = x, decode source w = y at h
  cases h with
  | error e f => exact .error e f
  | ok heq => exact .ok (heq ▸ rfl)

/-- A field whose values are decoded alike at every place, such as a field of texts. -/
lemma storesAnywhere_of_respects {field : RecordField σ}
    {decode : Source → Json → Except DecodeError α} {set : α → σ → σ}
    (hfield : field.store = RecordField.storeWith decode set)
    (h : ∀ p, Respects p (decode source)) : StoresAnywhere source field := by
  intro p v w hedit record
  rw [hfield]
  exact agree_storeWith (h p v w hedit) record

/-- A field of one name whose values are decoded alike at their place. -/
lemma storesAt_of_respects {field : RecordField σ}
    {decode : Source → Json → Except DecodeError α} {set : α → σ → σ}
    (hfield : field.store = RecordField.storeWith decode set) (haliases : field.aliases = [])
    (h : Respects (place field.name) (decode source)) : StoresAt place source field := by
  intro key hkey v w hedit record
  rw [haliases, List.mem_singleton] at hkey
  rw [hkey] at hedit
  rw [hfield]
  exact agree_storeWith (h v w hedit) record

/-- A table follows a place where the other members are passed over. -/
lemma follows_ignore (hcommutes : fields.Pairwise RecordField.Commutes)
    (hrecognised : ∀ key ∈ fieldNames fields, key ∈ names)
    (hstores : ∀ field ∈ fields, StoresAt place source field) :
    Follows fields ignore source place names held where
  commutes := hcommutes
  recognised := hrecognised
  stores := hstores
  passes _ _ _ h := h.agree_ignore
  fits value h := by
    rw [ignore_eq_ok_iff]
    unfold Fits at h
    split at h
    · exact h.isPassable
    · exact h

/-- A table follows a place where the other members are held in memory. -/
lemma follows_hold (hcommutes : fields.Pairwise RecordField.Commutes)
    (hrecognised : ∀ key ∈ fieldNames fields, key ∈ names)
    (hstores : ∀ field ∈ fields, StoresAt place source field)
    (hheld : ∀ key, (place key).isHeld = true) :
    Follows fields hold source place names true where
  commutes := hcommutes
  recognised := hrecognised
  stores := hstores
  passes key _ _ h := h.agree_hold (hheld key)
  fits _ h := hold_eq_ok_iff.mpr h

/-- A table of texts, numbers and the like follows every place where its names are recognised. -/
lemma follows_plain (hcommutes : fields.Pairwise RecordField.Commutes)
    (hrecognised : ∀ key ∈ fieldNames fields, key ∈ names)
    (hplain : ∀ field ∈ fields, StoresAnywhere source field) :
    Follows fields ignore source place names held :=
  follows_ignore hcommutes hrecognised fun field hfield => (hplain field hfield).storesAt place

/-- A record of texts, numbers and the like respects every place where its names are recognised. -/
lemma respects_plainRecord {kind : String} (hcommutes : fields.Pairwise RecordField.Commutes)
    (hrecognised : ∀ ms, ∀ key ∈ fieldNames fields, key ∈ p.names ms)
    (hplain : ∀ field ∈ fields, StoresAnywhere source field) :
    Respects p (Json.record kind fields initial source) :=
  respects_record
    (fun ms => follows_plain hcommutes (hrecognised ms) hplain)
    fun i field hfield v w hedit record =>
      hplain field (List.mem_of_getElem? hfield) (p.item i) v w hedit record

/-! ## Tags -/

/-- A tag is split off alike from edited members, and leaves members that are edited in the same
way. -/
lemma agree_taggedMembers {name : String} {variants : List (String × α)} (hname : name ∈ names)
    (hheld : ∀ key, (place key).isHeld = true) (h : EditMembers place names true ms ns) :
    Agree (fun a b => a.1 = b.1 ∧ EditMembers place names true a.2 b.2)
      (taggedMembers name variants source ms) (taggedMembers name variants source ns) := by
  have hcommutes : [tagField name variants].Pairwise RecordField.Commutes :=
    List.pairwise_singleton _ _
  have hrecognised : ∀ key ∈ fieldNames [tagField name variants], key ∈ names :=
    List.forall_mem_singleton.mpr hname
  have hplain : StoresAnywhere source (tagField name variants) :=
    storesAnywhere_of_respects rfl (refuses_variantTag variants).respects
  have hfollows : Follows [tagField name variants] hold source place names true :=
    follows_hold hcommutes hrecognised (List.forall_mem_singleton.mpr (hplain.storesAt place)) hheld
  rw [taggedMembers_eq, taggedMembers_eq]
  refine (hfollows.agree h).bind ?_
  rintro ⟨tag, others⟩ ⟨_, others'⟩ ⟨rfl, hothers⟩
  cases tag with
  | none => exact .error _ _
  | some a => exact .ok ⟨rfl, hothers⟩

lemma tag?_cons {name : String} {variants : List (String × α)} :
    tag? name variants source ((.name key, v) :: ms) =
      if key = name then (variantTag variants source v).toOption
      else tag? name variants source ms := by
  rw [tag?, List.find?_cons]
  by_cases hkey : key = name
  · have hfound : (Key.name key == Key.name name) = true := by rw [hkey, beq_self_eq_true]
    simp only [hfound, if_pos hkey, Option.bind_some]
  · have hskipped : (Key.name key == Key.name name) = false :=
      beq_false_of_ne fun heq => hkey (Key.name.inj heq)
    simp only [hskipped, if_neg hkey, tag?]

/-- What splitting a tag off does with a member, if it does not fail: the member is the tag, which
was not there, or it is kept. -/
lemma splitTag_cons_eq_ok {name : String} {decode : Json → Except DecodeError α}
    {m : Key × Json} {tag tag' : Option α} {others : List (Key × Json)}
    (h : splitTag name decode (m :: ms) tag = .ok (tag', others)) :
    ∃ key value, m = (.name key, value) ∧
      ((key = name ∧ tag = none ∧
          ∃ a, decode value = .ok a ∧ splitTag name decode ms (some a) = .ok (tag', others)) ∨
        (key ≠ name ∧ ∃ rest, splitTag name decode ms tag = .ok (tag', rest) ∧
          others = (.name key, value) :: rest)) := by
  obtain ⟨key | flaw, value⟩ := m
  · refine ⟨key, value, rfl, ?_⟩
    rw [splitTag] at h
    split at h
    · rename_i hkey
      cases tag with
      | some a => cases h
      | none =>
        cases hvalue : decode value with
        | error e => simp [hvalue] at h
        | ok a => exact .inl ⟨hkey, rfl, a, rfl, by simpa [hvalue] using h⟩
    · rename_i hkey
      split at h
      · cases h
      · split at h
        · cases h
        · rename_i hrest
          cases h
          exact .inr ⟨hkey, _, hrest, rfl⟩
  · cases h

/-- A tag that is there already stays. -/
lemma splitTag_some {name : String} {decode : Json → Except DecodeError α} {a : α}
    {tag : Option α} {others : List (Key × Json)}
    (h : splitTag name decode ms (some a) = .ok (tag, others)) : tag = some a := by
  induction ms generalizing others with
  | nil =>
    cases h
    rfl
  | cons m ms ih =>
    obtain ⟨_, _, -, ⟨-, ⟨⟩, -⟩ | ⟨-, _, hrest, -⟩⟩ := splitTag_cons_eq_ok h
    exact ih hrest

/-- The tag that is split off is that of the first member under its name. -/
lemma tag?_of_splitTag {name : String} {variants : List (String × α)} {a : α}
    {others : List (Key × Json)}
    (h : splitTag name (variantTag variants source) ms none = .ok (some a, others)) :
    tag? name variants source ms = some a := by
  induction ms generalizing others with
  | nil => cases h
  | cons m ms ih =>
    obtain ⟨key, value, rfl, ⟨hkey, -, tag, hvalue, hrest⟩ | ⟨hkey, _, hrest, -⟩⟩ :=
      splitTag_cons_eq_ok h
    · rw [tag?_cons, if_pos hkey, hvalue, splitTag_some hrest]
      rfl
    · rw [tag?_cons, if_neg hkey]
      exact ih hrest

lemma tag?_of_taggedMembers {name : String} {variants : List (String × α)} {a : α}
    {others : List (Key × Json)} (h : taggedMembers name variants source ms = .ok (a, others)) :
    tag? name variants source ms = some a := by
  unfold taggedMembers at h
  split at h
  · cases h
  · cases h
  · rename_i hsplit
    cases h
    exact tag?_of_splitTag hsplit

/-- A tag whose name belongs to no field is found among the members that belong to none. -/
lemma tag?_filter_isOther {name : String} {variants : List (String × α)}
    (hname : fields.find? (·.accepts name) = none) :
    tag? name variants source (ms.filter (isOther fields)) = tag? name variants source ms := by
  have hother : ∀ value, isOther fields (.name name, value) = true := fun value => by
    simp only [isOther, hname, Option.isNone_none]
  have hsame : ∀ m : Key × Json,
      decide (isOther fields m = true ∧ (m.1 == .name name) = true) = (m.1 == .name name) := by
    rintro ⟨key, value⟩
    cases hkey : key == Key.name name with
    | false => simp
    | true => simp [eq_of_beq hkey, hother]
  simp only [tag?, List.find?_filter, hsame]

end SchemaLedger
