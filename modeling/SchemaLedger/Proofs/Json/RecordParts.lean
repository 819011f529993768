import SchemaLedger.Proofs.Json.Members

/-!
# Parts of decoded records

A record is decoded from the members of an object or from the items of a list.  Each of its slots
depends on one part only: on the member under its name, or on the item at its position.  A part is
never there twice, a slot whose part is missing keeps what the initial record holds, and the part of
a required slot is there (`reads_record`).
-/

namespace SchemaLedger.Json

variable {σ α : Type}

/-! ## Parts -/

/-- The values of the members under a name, in their order. -/
def named (name : String) (members : List (Key × Json)) : List Json :=
  (members.filter fun member => member.1 == .name name).map Prod.snd

/-- The parts of a value: the members of an object under a name, or the item of a list at a
position. -/
def parts (position : Nat) (name : String) : Json → List Json
  | .object members => named name members
  | .array items => items[position]?.toList
  | _ => []

/-- What is read from the parts of a value: the only part is decoded, and if there is none, the
default stands, unless the part is required. -/
def Reads (isRequired : Bool) (decode : Json → Except DecodeError α) (default : α)
    (parts : List Json) (a : α) : Prop :=
  parts = [] ∧ isRequired = false ∧ a = default ∨ ∃ value, parts = [value] ∧ decode value = .ok a

/-- Items are read from the only part of a value, one each and in their order; without the part
there are none. -/
def ReadsItems (decode : Json → Except DecodeError α) (parts : List Json) (as : List α) : Prop :=
  parts = [] ∧ as = [] ∨
    ∃ items, parts = [.array items] ∧ List.Forall₂ (fun item a => decode item = .ok a) items as

variable {fields : List (RecordField σ)} {other : Json → Except DecodeError Unit} {source : Source}
  {ms : List (Key × Json)} {d e : Draft σ} {key name : String} {v value : Json}
  {decode : Source → Json → Except DecodeError α} {get : σ → α} {record initial : σ}

@[simp] lemma named_cons : named name ((.name key, v) :: ms) =
    if key = name then v :: named name ms else named name ms := by
  unfold named
  rw [List.filter_cons]
  by_cases hkey : key = name
  · have hnamed : (Key.name key == Key.name name) = true := by rw [hkey, beq_self_eq_true]
    rw [if_pos hkey, if_pos hnamed, List.map_cons]
  · have hother : ¬ (Key.name key == Key.name name) = true := fun h =>
      hkey (Key.name.inj (eq_of_beq h))
    rw [if_neg hkey, if_neg hother]

/-- A list is decoded item by item. -/
lemma list_eq_ok {as : List α} (h : list decode source value = .ok as) :
    ∃ items, value = .array items ∧
      List.Forall₂ (fun item a => decode source item = .ok a) items as := by
  unfold list at h
  split at h
  · rename_i items
    refine ⟨items, rfl, ?_⟩
    induction items generalizing as with
    | nil =>
      cases h
      exact .nil
    | cons item items ih =>
      rw [listItems] at h
      split at h
      · cases h
      · rename_i a ha
        split at h
        · cases h
        · rename_i rest hrest
          cases h
          exact .cons ha (ih hrest)
  · cases h

/-- An optional list is read item by item. -/
lemma Reads.items {parts : List Json} {as : List α}
    (h : Reads false (list decode source) [] parts as) : ReadsItems (decode source) parts as := by
  obtain ⟨hparts, -, has⟩ | ⟨value, hparts, hvalue⟩ := h
  · exact .inl ⟨hparts, has⟩
  · obtain ⟨items, rfl, hitems⟩ := list_eq_ok hvalue
    exact .inr ⟨items, hparts, hitems⟩

/-- A text is read from a part that is that text. -/
lemma text_eq_ok {s : String} (h : text source value = .ok s) : value = .string s := by
  unfold text at h
  split at h
  · cases h
    rfl
  · cases h

/-- A required text is the only part. -/
lemma Reads.text {default s : String} {parts : List Json}
    (h : Reads true (text source) default parts s) : parts = [.string s] := by
  obtain ⟨-, ⟨⟩, -⟩ | ⟨value, hparts, hvalue⟩ := h
  rw [hparts, text_eq_ok hvalue]

/-! ## Slots -/

/-- A field of a record stores into a slot what it decodes. -/
def RecordField.Fills (decode : Source → Json → Except DecodeError α) (get : σ → α)
    (field : RecordField σ) : Prop :=
  ∀ source value record record', field.store source value record = .ok record' →
    decode source value = .ok (get record')

/-- A field of a record leaves a slot as it is. -/
def RecordField.Keeps (get : σ → α) (field : RecordField σ) : Prop :=
  ∀ source value record record', field.store source value record = .ok record' →
    get record' = get record

/-- The field at a position fills a slot under its only name, and no other field touches the
slot. -/
structure IsSlot (fields : List (RecordField σ)) (position : Nat) (name : String)
    (isRequired : Bool) (decode : Source → Json → Except DecodeError α) (get : σ → α) : Prop where
  own : ∃ field, fields[position]? = some field ∧ field.name = name ∧
    field.isRequired = isRequired ∧ field.Fills decode get
  others : ∀ field ∈ fields.eraseIdx position, field.name ≠ name ∧ field.Keeps get
  plain : ∀ field ∈ fields, field.aliases = []

variable {position : Nat} {isRequired : Bool}

/-- The key of a field without other names is its name. -/
lemma name_of_find? (hplain : ∀ field ∈ fields, field.aliases = []) {field : RecordField σ}
    (h : fields.find? (·.accepts key) = some field) : field.name = key := by
  have haccepts : field.accepts key = true := by simpa using List.find?_some h
  simpa [RecordField.accepts, hplain field (List.mem_of_find?_eq_some h)] using haccepts

/-- A key names the field of a slot exactly if it is the name of the slot. -/
lemma IsSlot.find? (h : IsSlot fields position name isRequired decode get) {field : RecordField σ}
    (hfind : fields.find? (·.accepts key) = some field) :
    key = name ∧ field.Fills decode get ∨ key ≠ name ∧ field.Keeps get := by
  obtain ⟨i, hi⟩ := List.mem_iff_getElem?.mp (List.mem_of_find?_eq_some hfind)
  obtain ⟨own, hown, hname, -, hfills⟩ := h.own
  have hkey := name_of_find? h.plain hfind
  by_cases hposition : i = position
  · rw [hposition, hown, Option.some.injEq] at hi
    subst hi
    exact .inl ⟨hkey.symm.trans hname, hfills⟩
  · obtain ⟨hne, hkeeps⟩ := h.others field
      (List.mem_eraseIdx_iff_getElem?.mpr ⟨i, hposition, hi⟩)
    exact .inr ⟨fun heq => hne (hkey.trans heq), hkeeps⟩

/-! ## Members of objects -/

/-- A slot that has been filled has no further members, and one that has not is read from its
members; it is filled then exactly if there was one. -/
lemma IsSlot.readMembers (h : IsSlot fields position name isRequired decode get)
    (hread : readMembers fields other source ms d = .ok e) :
    (name ∈ d.seen → named name ms = [] ∧ get e.record = get d.record ∧ name ∈ e.seen) ∧
      (name ∉ d.seen → Reads false (decode source) (get d.record) (named name ms) (get e.record) ∧
        (name ∈ e.seen → named name ms ≠ [])) := by
  induction ms generalizing d with
  | nil =>
    cases hread
    exact ⟨fun hseen => ⟨rfl, rfl, hseen⟩,
      fun hseen => ⟨.inl ⟨rfl, rfl, rfl⟩, fun hseen' => absurd hseen' hseen⟩⟩
  | cons m ms ih =>
    rw [readMembers_cons] at hread
    cases htake : takeMember fields other source m d with
    | error fault => rw [htake] at hread; cases hread
    | ok draft =>
      rw [htake] at hread
      obtain ⟨hafter, hbefore⟩ := ih hread
      obtain ⟨key, value, rfl, ⟨hfind, -, rfl⟩ | ⟨field, record, hfind, hnew, hstore, rfl⟩⟩ :=
        takeMember_eq_ok htake
      · have hkey : key ≠ name := by
          rintro rfl
          obtain ⟨own, hown, hname, -⟩ := h.own
          have hnone := List.find?_eq_none.mp hfind own (List.mem_of_getElem? hown)
          simp [RecordField.accepts, hname] at hnone
        rw [named_cons, if_neg hkey]
        exact ⟨hafter, hbefore⟩
      · have hname := name_of_find? h.plain hfind
        rcases h.find? hfind with ⟨rfl, hfills⟩ | ⟨hkey, hkeeps⟩
        · rw [named_cons, if_pos rfl]
          rw [hname] at hnew hafter
          obtain ⟨hnone, hsame, hseen⟩ := hafter (List.mem_cons_self)
          refine ⟨fun hseen => absurd hseen hnew, fun _ => ⟨.inr ⟨value, ?_, ?_⟩, fun _ => ?_⟩⟩
          · rw [hnone]
          · rw [hsame]
            exact hfills _ _ _ _ hstore
          · exact List.cons_ne_nil _ _
        · have hseen : name ∈ field.name :: d.seen ↔ name ∈ d.seen := by
            rw [List.mem_cons, hname]
            exact or_iff_right hkey.symm
          rw [named_cons, if_neg hkey]
          rw [hseen, hkeeps _ _ _ _ hstore] at hafter hbefore
          exact ⟨hafter, hbefore⟩

/-- A slot of a record is read from the members under its name. -/
theorem IsSlot.recordOfMembers (h : IsSlot fields position name isRequired decode get)
    {others : List (Key × Json)}
    (hrecord : recordOfMembers fields other initial source ms = .ok (record, others)) :
    Reads isRequired (decode source) (get initial) (named name ms) (get record) := by
  unfold Json.recordOfMembers at hrecord
  split at hrecord
  · cases hrecord
  · rename_i draft hdraft
    obtain ⟨hreads, hseen⟩ := (h.readMembers hdraft).2 (List.not_mem_nil)
    split at hrecord
    · cases hrecord
    · rename_i hmissing
      cases hrecord
      obtain ⟨hparts, -, hdefault⟩ | hpart := hreads
      · refine .inl ⟨hparts, ?_, hdefault⟩
        obtain ⟨own, hown, hname, hrequired, -⟩ := h.own
        rw [missingField?, Option.map_eq_none_iff, List.find?_eq_none] at hmissing
        have hthere := hmissing own (List.mem_of_getElem? hown)
        have hin : isRequired = true → name ∈ draft.seen := by
          simpa [hname, hrequired] using hthere
        exact Bool.eq_false_iff.mpr fun htrue => hseen (hin htrue) hparts
      · exact .inr hpart

/-! ## Items of lists -/

/-- Without items the record stays as it is, and no field is required. -/
lemma readItems_nil {expected : String} {taken : Nat} {record' : σ}
    (h : readItems expected source fields [] taken record = .ok record') :
    record' = record ∧ ∀ field ∈ fields, field.isRequired = false := by
  induction fields generalizing taken with
  | nil =>
    cases h
    exact ⟨rfl, List.forall_mem_nil _⟩
  | cons field fields ih =>
    rw [readItems] at h
    split at h
    · cases h
    · rename_i hrequired
      obtain ⟨hrecord, hfields⟩ := ih h
      exact ⟨hrecord, List.forall_mem_cons.mpr ⟨Bool.eq_false_iff.mpr hrequired, hfields⟩⟩

/-- Fields that leave a slot as it is do so together. -/
lemma readItems_keeps {expected : String} {taken : Nat} {items : List Json} {record' : σ}
    (hkeeps : ∀ field ∈ fields, field.Keeps get)
    (h : readItems expected source fields items taken record = .ok record') :
    get record' = get record := by
  induction fields generalizing items taken record with
  | nil =>
    rw [readItems] at h
    split at h
    · cases h
      rfl
    · cases h
  | cons field fields ih =>
    cases items with
    | nil => rw [(readItems_nil h).1]
    | cons item items =>
      rw [readItems] at h
      split at h
      · cases h
      · rename_i next hnext
        rw [List.forall_mem_cons] at hkeeps
        rw [ih hkeeps.2 h]
        exact hkeeps.1 _ _ _ _ hnext

/-- A slot of a record is read from the item at its position. -/
lemma IsSlot.readItems (h : IsSlot fields position name isRequired decode get)
    {expected : String} {taken : Nat} {items : List Json} {record' : σ}
    (hread : readItems expected source fields items taken record = .ok record') :
    Reads isRequired (decode source) (get record) items[position]?.toList (get record') := by
  obtain ⟨⟨own, hown, -, hrequired, hfills⟩, hothers, -⟩ := h
  replace hothers : ∀ field ∈ fields.eraseIdx position, field.Keeps get :=
    fun field hfield => (hothers field hfield).2
  induction fields generalizing position items taken record with
  | nil => cases hown
  | cons field fields ih =>
    cases items with
    | nil =>
      obtain ⟨hrecord, hnone⟩ := readItems_nil hread
      rw [hrecord]
      exact .inl ⟨rfl, hrequired ▸ hnone own (List.mem_of_getElem? hown), rfl⟩
    | cons item items =>
      rw [Json.readItems] at hread
      split at hread
      · cases hread
      · rename_i next hnext
        cases position with
        | zero =>
          cases hown
          refine .inr ⟨item, rfl, ?_⟩
          rw [readItems_keeps hothers hread]
          exact hfills _ _ _ _ hnext
        | succ position =>
          rw [List.eraseIdx_cons_succ, List.forall_mem_cons] at hothers
          have hrest := ih hread hown hothers.2
          rw [hothers.1 _ _ _ _ hnext] at hrest
          exact hrest

end SchemaLedger.Json
