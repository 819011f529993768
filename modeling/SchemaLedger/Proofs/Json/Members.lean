import SchemaLedger.Json.Fields
import SchemaLedger.Proofs.Json.Agreement
import Mathlib.Data.List.Perm.Basic
import Mathlib.Data.List.Pairwise

/-!
# Members of an object in any order

A record is decoded member by member.  If its fields can be stored in either order, so can members
that are next to each other (`agree_takeMember_comm`), and then the order of all the members does
not matter (`agree_recordOfMembers_perm`).  The members that belong to no field are handed on in
their order, whatever is decoded from the others (`recordOfMembers_others`).

A tag among the members of an object is a record of one field that need not be there
(`taggedMembers_eq`).
-/

namespace SchemaLedger.Json

variable {σ : Type}

/-- Storing two fields in either order gives the same record. -/
def RecordField.Commutes (f g : RecordField σ) : Prop :=
  ∀ (source : Source) (v w : Json) (record : σ),
    Agree Eq (f.store source v record >>= g.store source w)
      (g.store source w record >>= f.store source v)

/-- Fields whose values enter independent parts of a record commute. -/
lemma commutes_of_set {α β : Type} {f g : RecordField σ}
    {decode : Source → Json → Except DecodeError α} {set : α → σ → σ}
    {decode' : Source → Json → Except DecodeError β} {set' : β → σ → σ}
    (hf : f.store = RecordField.storeWith decode set)
    (hg : g.store = RecordField.storeWith decode' set')
    (h : ∀ a b record, set' b (set a record) = set a (set' b record)) : f.Commutes g := by
  intro source v w record
  rw [hf, hg]
  unfold RecordField.storeWith
  cases decode source v with
  | error e =>
    cases decode' source w with
    | error e' => exact .error e e'
    | ok b => exact .error e e
  | ok a =>
    cases decode' source w with
    | error e' => exact .error e' e'
    | ok b => exact .ok (h a b record)

instance : Std.Symm (@RecordField.Commutes σ) where
  symm _ _ h source v w record := (h source w v record).symm.mono fun _ _ => Eq.symm

variable {fields : List (RecordField σ)} {other : Json → Except DecodeError Unit} {source : Source}
  {ms ns : List (Key × Json)} {d e : Draft σ} {key : String} {v w : Json} {field : RecordField σ}
  {initial : σ}

/-- Whether a member belongs to no field. -/
def isOther (fields : List (RecordField σ)) (member : Key × Json) : Bool :=
  match member.1 with
  | .name key => (fields.find? (·.accepts key)).isNone
  | .flawed _ => false

/-- Decodes one member of an object. -/
def takeMember (fields : List (RecordField σ)) (other : Json → Except DecodeError Unit)
    (source : Source) (member : Key × Json) (draft : Draft σ) : Except DecodeError (Draft σ) :=
  match member with
  | (.flawed flaw, _) => .error (.malformed flaw.reading)
  | (.name key, value) =>
    match fields.find? (·.accepts key) with
    | none =>
      (other value).map fun _ => { draft with others := (.name key, value) :: draft.others }
    | some field =>
      if draft.seen.contains field.name then .error (.duplicateField field.name)
      else (field.store source value draft.record).map fun record =>
        { draft with record := record, seen := field.name :: draft.seen }

/-- Members are decoded one after the other. -/
lemma readMembers_cons (m : Key × Json) (ms : List (Key × Json)) (d : Draft σ) :
    readMembers fields other source (m :: ms) d =
      takeMember fields other source m d >>= readMembers fields other source ms := by
  obtain ⟨key | flaw, value⟩ := m
  · rw [readMembers, takeMember]
    cases fields.find? (·.accepts key) with
    | none =>
      cases other value with
      | error e => rfl
      | ok _ => rfl
    | some field =>
      dsimp only
      split
      · rfl
      · cases field.store source value d.record with
        | error e => rfl
        | ok record => rfl
  · rfl

/-- The first two members are decoded before the rest. -/
lemma readMembers_cons_cons (m n : Key × Json) (ms : List (Key × Json)) (d : Draft σ) :
    readMembers fields other source (m :: n :: ms) d =
      (takeMember fields other source m d >>= takeMember fields other source n) >>=
        readMembers fields other source ms := by
  rw [readMembers_cons]
  cases takeMember fields other source m d with
  | error e => rfl
  | ok e => exact readMembers_cons n ms e

lemma takeMember_other (h : fields.find? (·.accepts key) = none) :
    takeMember fields other source (.name key, v) d =
      (other v).map fun _ => { d with others := (.name key, v) :: d.others } := by
  rw [takeMember, h]

lemma takeMember_field (h : fields.find? (·.accepts key) = some field) :
    takeMember fields other source (.name key, v) d =
      if d.seen.contains field.name then .error (.duplicateField field.name)
      else (field.store source v d.record).map fun record =>
        { d with record := record, seen := field.name :: d.seen } := by
  rw [takeMember, h]

/-- What decoding a member does, if it does not fail: the member is handed on, or it enters the
record as a field that was not there. -/
lemma takeMember_eq_ok {m : Key × Json} (h : takeMember fields other source m d = .ok e) :
    ∃ key value, m = (.name key, value) ∧
      ((fields.find? (·.accepts key) = none ∧ other value = .ok () ∧
          e = { d with others := m :: d.others }) ∨
        ∃ field record, fields.find? (·.accepts key) = some field ∧ field.name ∉ d.seen ∧
          field.store source value d.record = .ok record ∧
          e = { d with record := record, seen := field.name :: d.seen }) := by
  obtain ⟨key | flaw, value⟩ := m
  · refine ⟨key, value, rfl, ?_⟩
    cases hfind : fields.find? (·.accepts key) with
    | none =>
      rw [takeMember_other hfind] at h
      cases hvalue : other value with
      | error fault => rw [hvalue] at h; cases h
      | ok _ =>
        rw [hvalue] at h
        exact .inl ⟨rfl, rfl, (Except.ok.inj h).symm⟩
    | some field =>
      rw [takeMember_field hfind] at h
      split at h
      · cases h
      · rename_i hseen
        cases hstore : field.store source value d.record with
        | error fault => rw [hstore] at h; cases h
        | ok record =>
          rw [hstore] at h
          exact .inr ⟨field, record, rfl, mt List.contains_iff_mem.mpr hseen, hstore,
            (Except.ok.inj h).symm⟩
  · cases h

/-! ## Members that belong to no field -/

/-- The members that belong to no field are handed on in their order. -/
lemma readMembers_others (h : readMembers fields other source ms d = .ok e) :
    e.others = (ms.filter (isOther fields)).reverse ++ d.others := by
  induction ms generalizing d with
  | nil =>
    cases h
    rfl
  | cons m ms ih =>
    rw [readMembers_cons] at h
    cases htake : takeMember fields other source m d with
    | error fault => rw [htake] at h; cases h
    | ok draft =>
      rw [htake] at h
      rw [ih h]
      obtain ⟨key, value, rfl, ⟨hfind, -, rfl⟩ | ⟨field, record, hfind, -, -, rfl⟩⟩ :=
        takeMember_eq_ok htake
      · have hother : isOther fields (.name key, value) = true := by simp [isOther, hfind]
        rw [List.filter_cons, if_pos hother, List.reverse_cons, List.append_assoc]
        rfl
      · have hother : isOther fields (.name key, value) = false := by simp [isOther, hfind]
        rw [List.filter_cons, hother]
        rfl

/-- What is handed on from a decoded object are its members that belong to no field. -/
theorem recordOfMembers_others {record : σ} {others : List (Key × Json)}
    (h : recordOfMembers fields other initial source ms = .ok (record, others)) :
    others = ms.filter (isOther fields) := by
  unfold recordOfMembers at h
  split at h
  · cases h
  · rename_i draft hdraft
    split at h
    · cases h
    · cases h
      rw [readMembers_others hdraft, List.append_nil, List.reverse_reverse]

/-! ## The order of members -/

/-- Drafts are alike if they hold the same record and the same fields were there. -/
structure Draft.Alike (d e : Draft σ) : Prop where
  record : d.record = e.record
  seen : d.seen.Perm e.seen

namespace Draft.Alike

lemma symm (h : Alike d e) : Alike e d := ⟨h.record.symm, h.seen.symm⟩

lemma trans {f : Draft σ} (h : Alike d e) (h' : Alike e f) : Alike d f :=
  ⟨h.record.trans h'.record, h.seen.trans h'.seen⟩

end Draft.Alike

/-- A member is decoded alike into drafts that are alike. -/
lemma agree_takeMember (m : Key × Json) (h : d.Alike e) :
    Agree Draft.Alike (takeMember fields other source m d)
      (takeMember fields other source m e) := by
  obtain ⟨key | flaw, value⟩ := m
  · cases hfind : fields.find? (·.accepts key) with
    | none =>
      rw [takeMember_other hfind, takeMember_other hfind]
      exact (Agree.refl (other value)).map fun _ _ _ => ⟨h.record, h.seen⟩
    | some field =>
      have hseen : d.seen.contains field.name = e.seen.contains field.name :=
        h.seen.contains_eq
      rw [takeMember_field hfind, takeMember_field hfind, hseen, h.record]
      split
      · exact .error _ _
      · refine (Agree.refl (field.store source value e.record)).map fun a b hab => ?_
        exact ⟨hab, h.seen.cons _⟩
  · exact .error _ _

/-- Members are decoded alike into drafts that are alike. -/
lemma agree_readMembers (h : d.Alike e) :
    Agree Draft.Alike (readMembers fields other source ms d)
      (readMembers fields other source ms e) := by
  induction ms generalizing d e with
  | nil => exact .ok h
  | cons m ms ih =>
    rw [readMembers_cons, readMembers_cons]
    exact (agree_takeMember m h).bind fun _ _ => ih

/-- A member that belongs to no field can be decoded before or behind any other one. -/
lemma agree_takeMember_other (hfind : fields.find? (·.accepts key) = none) (n : Key × Json) :
    Agree Draft.Alike
      (takeMember fields other source (.name key, v) d >>= takeMember fields other source n)
      (takeMember fields other source n d >>= takeMember fields other source (.name key, v)) := by
  have hadd : ∀ e, takeMember fields other source (.name key, v) e =
      (other v).map fun _ => { e with others := (.name key, v) :: e.others } :=
    fun e => takeMember_other hfind
  cases hv : other v with
  | error fault =>
    rw [hadd, hv]
    cases takeMember fields other source n d with
    | error e => exact .error fault e
    | ok e =>
      change Agree _ _ (takeMember fields other source (.name key, v) e)
      rw [hadd, hv]
      exact .error fault fault
  | ok _ =>
    rw [hadd, hv]
    have halike : Draft.Alike { d with others := (.name key, v) :: d.others } d :=
      ⟨rfl, List.Perm.refl _⟩
    have hbehind : Agree Draft.Alike (takeMember fields other source n d)
        (takeMember fields other source n d >>= takeMember fields other source (.name key, v)) := by
      cases takeMember fields other source n d with
      | error e => exact .error e e
      | ok e =>
        change Agree _ _ (takeMember fields other source (.name key, v) e)
        rw [hadd, hv]
        exact .ok ⟨rfl, List.Perm.refl _⟩
    exact (agree_takeMember n halike).trans hbehind fun _ _ _ => Draft.Alike.trans

/-- A field that was there is still there behind another member. -/
lemma mem_seen_takeMember {n : Key × Json} {name : String} (hname : name ∈ d.seen)
    (h : takeMember fields other source n d = .ok e) : name ∈ e.seen := by
  obtain ⟨key, value, rfl, ⟨-, -, rfl⟩ | ⟨field, record, -, -, -, rfl⟩⟩ := takeMember_eq_ok h
  · exact hname
  · exact List.mem_cons_of_mem _ hname

/-- A field that was there cannot be decoded again. -/
lemma takeMember_of_mem_seen (hfind : fields.find? (·.accepts key) = some field)
    (hname : field.name ∈ d.seen) :
    takeMember fields other source (.name key, v) d = .error (.duplicateField field.name) := by
  rw [takeMember_field hfind, if_pos (List.contains_iff_mem.mpr hname)]

/-- Two members that belong to the same field are one too many. -/
lemma takeMember_twice {key' : String} {field' : RecordField σ}
    (hfind : fields.find? (·.accepts key) = some field)
    (hfind' : fields.find? (·.accepts key') = some field') (hname : field.name = field'.name) :
    ∃ fault, takeMember fields other source (.name key, v) d >>=
      takeMember fields other source (.name key', w) = .error fault := by
  cases htake : takeMember fields other source (.name key, v) d with
  | error fault => exact ⟨fault, rfl⟩
  | ok e =>
    have hseen : field.name ∈ e.seen := by
      obtain ⟨_, _, ⟨⟩, ⟨hnone, -⟩ | ⟨found, record, hfound, -, -, rfl⟩⟩ := takeMember_eq_ok htake
      · rw [hnone] at hfind
        cases hfind
      · obtain rfl : found = field := Option.some.inj (hfound.symm.trans hfind)
        exact List.mem_cons_self
    exact ⟨_, takeMember_of_mem_seen hfind' (hname ▸ hseen)⟩

/-- A member whose field was there fails, also behind another one. -/
lemma agree_takeMember_of_mem_seen {n : Key × Json}
    (hfind : fields.find? (·.accepts key) = some field) (hname : field.name ∈ d.seen) :
    Agree Draft.Alike
      (takeMember fields other source (.name key, v) d >>= takeMember fields other source n)
      (takeMember fields other source n d >>= takeMember fields other source (.name key, v)) := by
  rw [takeMember_of_mem_seen hfind hname]
  cases htake : takeMember fields other source n d with
  | error fault => exact .error _ fault
  | ok e =>
    change Agree _ _ (takeMember fields other source (.name key, v) e)
    rw [takeMember_of_mem_seen hfind (mem_seen_takeMember hname htake)]
    exact .error _ _

/-- Two members of different fields can be decoded in either order. -/
lemma agree_takeMember_field {key' : String} {field' : RecordField σ}
    (hcommutes : field.Commutes field') (hfind : fields.find? (·.accepts key) = some field)
    (hfind' : fields.find? (·.accepts key') = some field') (hname : field.name ≠ field'.name)
    (hseen : field.name ∉ d.seen) (hseen' : field'.name ∉ d.seen) :
    Agree Draft.Alike
      (takeMember fields other source (.name key, v) d >>=
        takeMember fields other source (.name key', w))
      (takeMember fields other source (.name key', w) d >>=
        takeMember fields other source (.name key, v)) := by
  -- What a member of a field does that was not there.
  have htake : ∀ (k : String) (x : Json) (f : RecordField σ) (e : Draft σ),
      fields.find? (·.accepts k) = some f → f.name ∉ e.seen →
        takeMember fields other source (.name k, x) e =
          (f.store source x e.record).map fun record =>
            { e with record := record, seen := f.name :: e.seen } := by
    intro k x f e hk hf
    rw [takeMember_field hk, if_neg (mt List.contains_iff_mem.mp hf)]
  have hboth : ∀ (k k' : String) (x x' : Json) (f f' : RecordField σ),
      fields.find? (·.accepts k) = some f → fields.find? (·.accepts k') = some f' →
      f.name ∉ d.seen → f'.name ∉ d.seen → f'.name ≠ f.name →
        takeMember fields other source (.name k, x) d >>=
            takeMember fields other source (.name k', x') =
          (f.store source x d.record >>= f'.store source x').map fun record =>
            { d with record := record, seen := f'.name :: f.name :: d.seen } := by
    intro k k' x x' f f' hk hk' hf hf' hne
    rw [htake k x f d hk hf]
    cases f.store source x d.record with
    | error fault => rfl
    | ok record =>
      have hnot : f'.name ∉ f.name :: d.seen := List.not_mem_cons_of_ne_of_not_mem hne hf'
      exact htake k' x' f' { d with record := record, seen := f.name :: d.seen } hk' hnot
  rw [hboth key key' v w field field' hfind hfind' hseen hseen' hname.symm,
    hboth key' key w v field' field hfind' hfind hseen' hseen hname]
  exact (hcommutes source v w d.record).map fun a b hab => ⟨hab, List.Perm.swap _ _ _⟩

/-- A flaw in place of a key fails, also behind another member. -/
lemma agree_takeMember_flawed (flaw : Flaw) (n : Key × Json) :
    Agree Draft.Alike
      (takeMember fields other source (.flawed flaw, v) d >>= takeMember fields other source n)
      (takeMember fields other source n d >>=
        takeMember fields other source (.flawed flaw, v)) := by
  cases takeMember fields other source n d with
  | error fault => exact .error _ fault
  | ok e => exact .error _ _

/-- If different fields commute, two members can be decoded in either order. -/
theorem agree_takeMember_comm (hcommutes : fields.Pairwise RecordField.Commutes)
    (m n : Key × Json) (d : Draft σ) :
    Agree Draft.Alike
      (takeMember fields other source m d >>= takeMember fields other source n)
      (takeMember fields other source n d >>= takeMember fields other source m) := by
  have hflip : ∀ {x y : Except DecodeError (Draft σ)}, Agree Draft.Alike x y →
      Agree Draft.Alike y x := fun h => h.symm.mono fun _ _ => Draft.Alike.symm
  obtain ⟨key | flaw, v⟩ := m
  · obtain ⟨key' | flaw', w⟩ := n
    · cases hfind : fields.find? (·.accepts key) with
      | none => exact agree_takeMember_other hfind _
      | some field =>
        cases hfind' : fields.find? (·.accepts key') with
        | none => exact hflip (agree_takeMember_other hfind' _)
        | some field' =>
          by_cases hname : field.name = field'.name
          · obtain ⟨fault, hfault⟩ := takeMember_twice hfind hfind' hname
            obtain ⟨fault', hfault'⟩ := takeMember_twice hfind' hfind hname.symm
            rw [hfault, hfault']
            exact .error fault fault'
          · by_cases hseen : field.name ∈ d.seen
            · exact agree_takeMember_of_mem_seen hfind hseen
            · by_cases hseen' : field'.name ∈ d.seen
              · exact hflip (agree_takeMember_of_mem_seen hfind' hseen')
              · have hne : field ≠ field' := fun heq => hname (heq ▸ rfl)
                have hpair : field.Commutes field' := hcommutes.forall
                  (List.mem_of_find?_eq_some hfind) (List.mem_of_find?_eq_some hfind') hne
                exact agree_takeMember_field hpair hfind hfind' hname hseen hseen'
    · exact hflip (agree_takeMember_flawed flaw' _)
  · exact agree_takeMember_flawed flaw n

/-- Members are decoded alike in any order. -/
theorem agree_readMembers_perm (hcommutes : fields.Pairwise RecordField.Commutes)
    (hperm : ms.Perm ns) (d : Draft σ) :
    Agree Draft.Alike (readMembers fields other source ms d)
      (readMembers fields other source ns d) := by
  induction hperm generalizing d with
  | nil => exact .ok ⟨rfl, List.Perm.refl _⟩
  | cons m _ ih =>
    rw [readMembers_cons, readMembers_cons]
    refine (Agree.refl (takeMember fields other source m d)).bind ?_
    rintro e _ rfl
    exact ih e
  | swap m n ms =>
    -- The two members in front give drafts that are alike, and the rest goes on from there.
    rw [readMembers_cons_cons, readMembers_cons_cons]
    exact (agree_takeMember_comm hcommutes n m d).bind fun _ _ => agree_readMembers
  | trans _ _ ih ih' => exact (ih d).trans (ih' d) fun _ _ _ => Draft.Alike.trans

/-! ## Records -/

/-- Which required field was not there does not depend on the order of those that were. -/
lemma missingField?_of_perm {seen seen' : List String} (h : seen.Perm seen') :
    missingField? fields seen = missingField? fields seen' := by
  have hcontains : ∀ name, seen.contains name = seen'.contains name := fun name => h.contains_eq
  simp only [missingField?, hcontains]

/-- Members that are decoded alike give the same record. -/
lemma agree_recordOfMembers {initial' : σ}
    (h : Agree Draft.Alike (readMembers fields other source ms ⟨initial, [], []⟩)
      (readMembers fields other source ns ⟨initial', [], []⟩)) :
    Agree (fun a b => a.1 = b.1) (recordOfMembers fields other initial source ms)
      (recordOfMembers fields other initial' source ns) := by
  unfold recordOfMembers
  generalize readMembers fields other source ms ⟨initial, [], []⟩ = x,
    readMembers fields other source ns ⟨initial', [], []⟩ = y at h ⊢
  cases h with
  | error e f => exact .error e f
  | ok halike =>
    dsimp only
    rw [missingField?_of_perm halike.seen]
    split
    · exact .error _ _
    · exact .ok halike.record

/-- An object gives the same record in any order of its members. -/
theorem agree_recordOfMembers_perm (hcommutes : fields.Pairwise RecordField.Commutes)
    (hperm : ms.Perm ns) :
    Agree (fun a b => a.1 = b.1) (recordOfMembers fields other initial source ms)
      (recordOfMembers fields other initial source ns) :=
  agree_recordOfMembers (agree_readMembers_perm hcommutes hperm _)

/-- A member that belongs to no field does not change the record. -/
theorem agree_recordOfMembers_insert (hfind : fields.find? (·.accepts key) = none)
    (hv : other v = .ok ()) :
    Agree (fun a b => a.1 = b.1) (recordOfMembers fields other initial source ms)
      (recordOfMembers fields other initial source ((.name key, v) :: ms)) := by
  refine agree_recordOfMembers ?_
  rw [readMembers_cons, takeMember_other hfind, hv]
  exact agree_readMembers ⟨rfl, List.Perm.refl _⟩

/-- Values that enter a record alike give the same record. -/
theorem agree_recordOfMembers_field (hfind : fields.find? (·.accepts key) = some field)
    (hstore : ∀ record, Agree Eq (field.store source v record) (field.store source w record)) :
    Agree (fun a b => a.1 = b.1)
      (recordOfMembers fields other initial source ((.name key, v) :: ms))
      (recordOfMembers fields other initial source ((.name key, w) :: ms)) := by
  refine agree_recordOfMembers ?_
  rw [readMembers_cons, readMembers_cons, takeMember_field hfind, takeMember_field hfind]
  split
  · exact .error _ _
  · refine ((hstore initial).map (S := Draft.Alike) fun a b hab => ?_).bind fun _ _ =>
      agree_readMembers
    exact ⟨hab, List.Perm.refl _⟩

/-- Values that are passed over alike give the same record. -/
theorem agree_recordOfMembers_other (hfind : fields.find? (·.accepts key) = none)
    (hother : Agree Eq (other v) (other w)) :
    Agree (fun a b => a.1 = b.1)
      (recordOfMembers fields other initial source ((.name key, v) :: ms))
      (recordOfMembers fields other initial source ((.name key, w) :: ms)) := by
  refine agree_recordOfMembers ?_
  rw [readMembers_cons, readMembers_cons, takeMember_other hfind, takeMember_other hfind]
  refine (hother.map (S := Draft.Alike) fun a b _ => ?_).bind fun _ _ => agree_readMembers
  exact ⟨rfl, List.Perm.refl _⟩

/-! ## Tags -/

/-- A tag as a field that may be absent. -/
def tagField {α : Type} (name : String) (variants : List (String × α)) :
    RecordField (Option α) :=
  .optional name (variantTag variants) fun tag _ => some tag

/-- Splitting a tag off is decoding its field. -/
lemma readMembers_tagField {α : Type} {name : String} {variants : List (String × α)}
    (tag : Option α) (others : List (Key × Json)) :
    (readMembers [tagField name variants] hold source ms
        ⟨tag, if tag.isSome then [name] else [], others⟩).map
          (fun draft => (draft.record, draft.others.reverse)) =
      (splitTag name (variantTag variants source) ms tag).map
        (fun split => (split.1, others.reverse ++ split.2)) := by
  induction ms generalizing tag others with
  | nil => simp [readMembers, splitTag, Except.map]
  | cons m ms ih =>
    obtain ⟨key | flaw, value⟩ := m
    · rw [splitTag]
      by_cases hkey : key = name
      · have hfind : [tagField name variants].find? (·.accepts key) =
            some (tagField name variants) := by
          simp [tagField, RecordField.optional, RecordField.accepts, hkey]
        rw [readMembers_cons, takeMember_field hfind, if_pos hkey]
        cases tag with
        | some a =>
          have hseen : [name].contains (tagField name variants).name = true := by
            simp [tagField, RecordField.optional]
          simp only [Option.isSome_some, if_true, hseen]
          rfl
        | none =>
          have hstore : (tagField name variants).store source value none =
              (variantTag variants source value).map some := by
            simp only [tagField, RecordField.optional, RecordField.storeWith]
            cases variantTag variants source value <;> rfl
          simp only [Option.isSome_none, Bool.false_eq_true, if_false, List.contains_nil, hstore]
          cases variantTag variants source value with
          | error e => rfl
          | ok a => exact ih (some a) others
      · have hfind : [tagField name variants].find? (·.accepts key) = none := by
          simp [tagField, RecordField.optional, RecordField.accepts, Ne.symm hkey]
        rw [readMembers_cons, takeMember_other hfind, if_neg hkey]
        cases hold value with
        | error e => rfl
        | ok _ =>
          refine (ih tag ((.name key, value) :: others)).trans ?_
          cases splitTag name (variantTag variants source) ms tag with
          | error e => rfl
          | ok split => simp [Except.map]
    · rfl

/-- A tag is decoded as the field of a record, and has to be there. -/
theorem taggedMembers_eq {α : Type} (name : String) (variants : List (String × α))
    (source : Source) (ms : List (Key × Json)) :
    taggedMembers name variants source ms =
      recordOfMembers [tagField name variants] hold none source ms >>= fun split =>
        match split.1 with
        | none => .error (.missingField name)
        | some a => .ok (a, split.2) := by
  have hsplit := @readMembers_tagField source ms α name variants none []
  have hmissing : ∀ seen, missingField? [tagField name variants] seen = none := fun _ => rfl
  rw [taggedMembers, recordOfMembers]
  simp only [Option.isSome_none, Bool.false_eq_true, if_false, List.reverse_nil, List.nil_append,
    hmissing] at hsplit ⊢
  generalize readMembers [tagField name variants] hold source ms ⟨none, [], []⟩ = x,
    splitTag name (variantTag variants source) ms none = y at hsplit ⊢
  cases x with
  | error e =>
    cases y with
    | error f =>
      cases hsplit
      rfl
    | ok split => cases hsplit
  | ok draft =>
    cases y with
    | error f => cases hsplit
    | ok split =>
      obtain ⟨tag, seen, others⟩ := draft
      have hpair : (tag, others.reverse) = split := Except.ok.inj hsplit
      subst hpair
      cases tag with
      | none => rfl
      | some a => rfl

end SchemaLedger.Json
