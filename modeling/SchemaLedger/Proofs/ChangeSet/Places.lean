import SchemaLedger.ChangeSet.Document
import SchemaLedger.Proofs.Json.Members
import Mathlib.Logic.Relation

/-!
# Places in change scripts

What an object in a change script means depends on its place: the script itself, a step, a column, a
foreign key and so on.  A place says which keys an object recognises there, and which places the
values of its members have.

A document is edited by putting the members of one of its objects into another order, or by
inserting a member under a key that the object does not recognise (`Edit`).  Inside a step, which is
taken into memory first, what is inserted has to be readable; beside the lists of steps it only has
to be passable.  Nothing is inserted into the object that names the action of a foreign key, since
that object may have one member only.
-/

namespace SchemaLedger

namespace Json

/-- The names under which the fields of a table are accepted. -/
def fieldNames {σ : Type} (fields : List (RecordField σ)) : List String :=
  fields.flatMap fun field => field.name :: field.aliases

/-- What the first member under the name of a tag stands for. -/
def tag? {α : Type} (name : String) (variants : List (String × α)) (source : Source)
    (members : List (Key × Json)) : Option α :=
  (members.find? fun member => member.1 == .name name).bind fun member =>
    (variantTag variants source member.2).toOption

end Json

open Json

/-- The names of the parameters that a column type reads. -/
def TypeKind.parameterNames : TypeKind → List String
  | .char | .string => fieldNames lengthFields
  | .float | .double | .decimal => fieldNames digitsFields
  | .enumeration => fieldNames allowedFields
  | .dateTime | .dateTimeTz => fieldNames precisionFields
  | .timestamp | .timestampTz => fieldNames timestampFields
  | _ => []

/-- The names that a step of a kind reads. -/
def StepKind.names : StepKind → List String
  | .create | .table => fieldNames tableField ++ fieldNames TableChanges.fields
  | .drop | .dropIfExists => fieldNames tableField
  | .rename => fieldNames ColumnRename.fields
  | .raw => ["sql"]

/-- The places of values in a change script.  An unread value is a text, a number or the like, or is
held in memory without a use; an ignored one is passed over in the text. -/
inductive Place where
  | script
  | step
  | column
  | default
  | rename
  | request
  | foreignKey
  | action
  | unread
  | ignored
  | list (item : Place)
  deriving DecidableEq, Repr

namespace Place

/-- Whether values at a place are taken into memory. -/
def isHeld : Place → Bool
  | .script | .ignored => false
  | .list item => item.isHeld
  | _ => true

/-- The keys that an object recognises. -/
def names : Place → List (Key × Json) → List String
  | .script, _ => fieldNames ChangeScript.fields
  | .step, members =>
    "action" :: ((tag? "action" StepKind.named .text members).map StepKind.names).getD []
  | .column, members =>
    fieldNames Column.fields ++
      "type" :: ((tag? "type" TypeKind.named .memory members).map TypeKind.parameterNames).getD []
  | .default, _ => ["raw"]
  | .rename, _ => fieldNames ColumnRename.fields
  | .request, _ => fieldNames IndexRequest.fields
  | .foreignKey, _ => fieldNames ForeignKey.fields
  | _, _ => []

/-- The place of a change of a table under its key. -/
def change : String → Place
  | "columns" => .list .column
  | "renameColumn" => .list .rename
  | "primary" => .list .request
  | "unique" => .list .request
  | "index" => .list .request
  | "foreign" => .list .foreignKey
  | _ => .unread

/-- The place of what a step of a kind has under a key. -/
def ofStep : StepKind → String → Place
  | .create | .table => change
  | _ => fun _ => .unread

/-- The place of the value of a member. -/
def member : Place → List (Key × Json) → String → Place
  | .script, _, key => if key = "up" ∨ key = "down" then .list .step else .ignored
  | .step, members, key =>
    ((tag? "action" StepKind.named .text members).map fun kind => ofStep kind key).getD .unread
  | .column, _, key => if key = "default" then .default else .unread
  | .foreignKey, _, key => if key = "onDelete" ∨ key = "onUpdate" then .action else .unread
  | .action, _, _ => .action
  | .ignored, _, _ => .ignored
  | _, _, _ => .unread

/-- The place of an item of a list; a record may be written as the list of its fields. -/
def item : Place → Nat → Place
  | .list item, _ => item
  | .script, i => if i < 2 then .list .step else .ignored
  | .foreignKey, i => if i = 4 ∨ i = 5 then .action else .unread
  | .action, _ => .action
  | .ignored, _ => .ignored
  | _, _ => .unread

/-- Whether an object at a place may have further members. -/
def isOpen (p : Place) : Bool := p ≠ .action

end Place

/-- What may be inserted: into values that are held in memory what is readable, and elsewhere what
is passable. -/
def Json.Fits (held : Bool) (value : Json) : Prop :=
  if held then IsReadable value else IsPassable value

/-- One edit of a value at a place, in one of its objects at any level. -/
inductive Edit : Place → Json → Json → Prop
  | permute {p : Place} {ms ns : List (Key × Json)} (h : ms.Perm ns) :
    Edit p (.object ms) (.object ns)
  | insert {p : Place} {ms : List (Key × Json)} {key : String} {value : Json}
    (hopen : p.isOpen = true) (hkey : key ∉ p.names ms) (hvalue : Fits p.isHeld value) :
    Edit p (.object ms) (.object ((.name key, value) :: ms))
  | member {p : Place} {ms : List (Key × Json)} {key : String} {v w : Json}
    (h : Edit (p.member ((.name key, v) :: ms) key) v w) :
    Edit p (.object ((.name key, v) :: ms)) (.object ((.name key, w) :: ms))
  | item {p : Place} {before behind : List Json} {v w : Json}
    (h : Edit (p.item before.length) v w) :
    Edit p (.array (before ++ v :: behind)) (.array (before ++ w :: behind))

/-- A value is rearranged by any number of edits. -/
def Rearranged (p : Place) : Json → Json → Prop := Relation.ReflTransGen (Edit p)

/-! ## Edits and flaws -/

namespace Place

lemma isHeld_change (key : String) : (change key).isHeld = true := by
  unfold change
  split <;> rfl

lemma isHeld_ofStep (kind : StepKind) (key : String) : (ofStep kind key).isHeld = true := by
  cases kind with
  | create => exact isHeld_change key
  | table => exact isHeld_change key
  | _ => rfl

/-- What is inside a value that is held in memory is held as well. -/
lemma isHeld_member {p : Place} (h : p.isHeld = true) (ms : List (Key × Json)) (key : String) :
    (p.member ms key).isHeld = true := by
  cases p with
  | script => cases h
  | ignored => cases h
  | step =>
    dsimp only [member]
    cases tag? "action" StepKind.named .text ms with
    | none => rfl
    | some kind => exact isHeld_ofStep kind key
  | column =>
    dsimp only [member]
    split <;> rfl
  | foreignKey =>
    dsimp only [member]
    split <;> rfl
  | _ => rfl

lemma isHeld_item {p : Place} (h : p.isHeld = true) (i : Nat) : (p.item i).isHeld = true := by
  cases p with
  | script => cases h
  | ignored => cases h
  | list item => exact h
  | foreignKey =>
    dsimp only [item]
    split <;> rfl
  | _ => rfl

end Place

namespace Edit

variable {p : Place} {v w : Json}

/-- Edits leave alone whether a value can be passed over. -/
theorem isPassable_iff (h : Edit p v w) : IsPassable v ↔ IsPassable w := by
  induction h with
  | permute hperm =>
    rw [isPassable_object, isPassable_object]
    simp only [hperm.mem_iff]
  | @insert p ms key value hopen hkey hvalue =>
    have hpassable : IsPassable value := by
      unfold Fits at hvalue
      split at hvalue
      · exact hvalue.isPassable
      · exact hvalue
    rw [isPassable_object, isPassable_object, List.forall_mem_cons]
    exact ⟨fun h => ⟨⟨rfl, hpassable⟩, h⟩, And.right⟩
  | member _ ih =>
    rw [isPassable_object, isPassable_object, List.forall_mem_cons, List.forall_mem_cons, ih]
  | item _ ih =>
    simp only [isPassable_array, List.forall_mem_append, List.forall_mem_cons, ih]

/-- Edits leave alone whether a value that is held in memory can be used. -/
theorem isReadable_iff (h : Edit p v w) (hheld : p.isHeld = true) :
    IsReadable v ↔ IsReadable w := by
  induction h with
  | permute hperm =>
    rw [isReadable_object, isReadable_object]
    simp only [hperm.mem_iff]
  | insert hopen hkey hvalue =>
    rw [Fits, if_pos hheld] at hvalue
    rw [isReadable_object, isReadable_object, List.forall_mem_cons]
    exact ⟨fun h => ⟨⟨rfl, hvalue⟩, h⟩, And.right⟩
  | member _ ih =>
    have hvalue := ih (Place.isHeld_member hheld _ _)
    rw [isReadable_object, isReadable_object, List.forall_mem_cons, List.forall_mem_cons, hvalue]
  | item _ ih =>
    have hvalue := ih (Place.isHeld_item hheld _)
    simp only [isReadable_array, List.forall_mem_append, List.forall_mem_cons, hvalue]

lemma agree_ignore (h : Edit p v w) : Agree Eq (ignore v) (ignore w) := by
  refine agree_of_ok_iff ?_
  rw [ignore_eq_ok_iff, ignore_eq_ok_iff]
  exact h.isPassable_iff

lemma agree_hold (h : Edit p v w) (hheld : p.isHeld = true) : Agree Eq (hold v) (hold w) := by
  refine agree_of_ok_iff ?_
  rw [hold_eq_ok_iff, hold_eq_ok_iff]
  exact h.isReadable_iff hheld

end Edit

end SchemaLedger
