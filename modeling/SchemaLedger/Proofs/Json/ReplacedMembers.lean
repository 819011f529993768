import SchemaLedger.Proofs.Json.Members

/-!
# Replaced members

The value of one member of an object is replaced by another one.  If storing the first value is
storing the second one and then changing the record, and no other field reads what is changed, the
objects are decoded alike up to that change (`recordOfMembers_replaced`).  For values that are
stored alike there is no change, and then the records are the same (`record_replaced`,
`record_replaced_first`).
-/

namespace SchemaLedger.Json

variable {σ : Type} {fields : List (RecordField σ)} {other : Json → Except DecodeError Unit}
  {source : Source} {before behind : List (Key × Json)} {d : Draft σ} {key : String} {v w : Json}
  {field : RecordField σ} {initial : σ} {f : σ → σ}

/-- A draft with its record changed. -/
def Draft.withRecord (f : σ → σ) (d : Draft σ) : Draft σ := { d with record := f d.record }

@[simp] lemma Draft.record_withRecord : (d.withRecord f).record = f d.record := rfl

@[simp] lemma Draft.seen_withRecord : (d.withRecord f).seen = d.seen := rfl

/-- A field stores the same whether the record is changed before or after. -/
def RecordField.Passes (f : σ → σ) (source : Source) (field : RecordField σ) : Prop :=
  ∀ value record,
    field.store source value (f record) = (field.store source value record).map f

lemma passes_id (source : Source) (field : RecordField σ) : field.Passes id source := by
  intro value record
  rw [Except.map_id, id, id]

/-- A decoded value enters a record whether it is changed before or after, if the change leaves the
slot of the value alone. -/
lemma passes_of_set {α : Type} {decode : Source → Json → Except DecodeError α} {set : α → σ → σ}
    (hstore : field.store = RecordField.storeWith decode set)
    (h : ∀ a record, set a (f record) = f (set a record)) : field.Passes f source := by
  intro value record
  rw [hstore]
  unfold RecordField.storeWith
  cases decode source value with
  | error e => rfl
  | ok a => exact congrArg Except.ok (h a record)

/-- Members are decoded alike before and after a change of the record that they do not read, as long
as a field is not read again that was there. -/
lemma takeMember_withRecord {name : String} (hseen : name ∈ d.seen)
    (hpass : ∀ g ∈ fields, g.name ≠ name → g.Passes f source) (m : Key × Json) :
    takeMember fields other source m (d.withRecord f) =
      (takeMember fields other source m d).map (Draft.withRecord f) := by
  obtain ⟨key | flaw, value⟩ := m
  · cases hfind : fields.find? (·.accepts key) with
    | none =>
      rw [takeMember_other hfind, takeMember_other hfind]
      cases other value <;> rfl
    | some g =>
      rw [takeMember_field hfind, takeMember_field hfind, Draft.seen_withRecord]
      split
      · rfl
      · rename_i hnew
        have hname : g.name ≠ name := by
          rintro rfl
          exact hnew (List.contains_iff_mem.mpr hseen)
        rw [Draft.record_withRecord, hpass g (List.mem_of_find?_eq_some hfind) hname]
        cases g.store source value d.record <;> rfl
  · rfl

lemma readMembers_withRecord {name : String} (hseen : name ∈ d.seen)
    (hpass : ∀ g ∈ fields, g.name ≠ name → g.Passes f source) (ms : List (Key × Json)) :
    readMembers fields other source ms (d.withRecord f) =
      (readMembers fields other source ms d).map (Draft.withRecord f) := by
  induction ms generalizing d with
  | nil => rfl
  | cons m ms ih =>
    rw [readMembers_cons, readMembers_cons, takeMember_withRecord hseen hpass]
    cases htake : takeMember fields other source m d with
    | error e => rfl
    | ok draft =>
      refine ih ?_
      obtain ⟨key, value, -, ⟨-, -, rfl⟩ | ⟨g, record, -, -, -, rfl⟩⟩ := takeMember_eq_ok htake
      · exact hseen
      · exact List.mem_cons_of_mem _ hseen

/-- A member that stores another value than the one in its place changes what is decoded. -/
lemma readMembers_replaced (hfind : fields.find? (·.accepts key) = some field)
    (hstore : ∀ record, field.store source v record = (field.store source w record).map f)
    (hpass : ∀ g ∈ fields, g.name ≠ field.name → g.Passes f source) :
    readMembers fields other source (before ++ (.name key, v) :: behind) d =
      (readMembers fields other source (before ++ (.name key, w) :: behind) d).map
        (Draft.withRecord f) := by
  induction before generalizing d with
  | nil =>
    rw [List.nil_append, List.nil_append, readMembers_cons, readMembers_cons,
      takeMember_field hfind, takeMember_field hfind, hstore]
    split
    · rfl
    · cases field.store source w d.record with
      | error e => rfl
      | ok record =>
        exact readMembers_withRecord (d := ⟨record, field.name :: d.seen, d.others⟩)
          List.mem_cons_self hpass behind
  | cons m before ih =>
    rw [List.cons_append, List.cons_append, readMembers_cons, readMembers_cons]
    cases takeMember fields other source m d with
    | error e => rfl
    | ok draft => exact ih

/-- Objects that differ in the value of one member are decoded alike up to a change, if storing the
one value is storing the other and making the change, and the other fields pass it. -/
theorem recordOfMembers_replaced (hfind : fields.find? (·.accepts key) = some field)
    (hstore : ∀ record, field.store source v record = (field.store source w record).map f)
    (hpass : ∀ g ∈ fields, g.name ≠ field.name → g.Passes f source) :
    recordOfMembers fields other initial source (before ++ (.name key, v) :: behind) =
      (recordOfMembers fields other initial source (before ++ (.name key, w) :: behind)).map
        fun decoded => (f decoded.1, decoded.2) := by
  unfold recordOfMembers
  rw [readMembers_replaced hfind hstore hpass]
  cases readMembers fields other source (before ++ (.name key, w) :: behind)
      ⟨initial, [], []⟩ with
  | error e => rfl
  | ok draft =>
    simp only [Except.map, Draft.seen_withRecord]
    cases missingField? fields draft.seen <;> rfl

/-! ## Values that are stored alike -/

variable {kind : String}

/-- Objects that differ in a value that is stored alike give the same record. -/
theorem record_replaced (hfind : fields.find? (·.accepts key) = some field)
    (hstore : ∀ record, field.store source v record = field.store source w record) :
    record kind fields initial source (.object (before ++ (.name key, v) :: behind)) =
      record kind fields initial source (.object (before ++ (.name key, w) :: behind)) := by
  have hchange : ∀ record, field.store source v record = (field.store source w record).map id := by
    intro record
    rw [hstore]
    exact passes_id source field w record
  rw [record, record, recordOfMembers_replaced hfind hchange fun g _ _ => passes_id source g]
  cases recordOfMembers fields ignore initial source (before ++ (.name key, w) :: behind) <;> rfl

/-- Lists that differ in their first item give the same record, if it is stored alike. -/
lemma record_replaced_first {items : List Json}
    (hstore : ∀ record, field.store source v record = field.store source w record) :
    record kind (field :: fields) initial source (.array (v :: items)) =
      record kind (field :: fields) initial source (.array (w :: items)) := by
  simp only [record, recordOfItems, readItems, hstore]

end SchemaLedger.Json
