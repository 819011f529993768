import SchemaLedger.Schema.ChangeQueue
import Mathlib.Data.List.Forall2
import Mathlib.Tactic.Common

/-!
# Queues as lists of changes

A queue keeps its blueprints apart from its entries, which name them by position.  It holds one list
of changes all the same (`ChangeQueue.Holds`): the positions are those of the blueprints in their
order (`ChangeQueue.Holds.positions`), each of them once (`ChangeQueue.Holds.count_blueprint`).
Queueing appends to the list, and editing changes the blueprint that was just appended.  Each entry
is rendered as its change (`ChangeQueue.Holds.renders`), so the statements of a queue are those of
its changes, one change after the other (`ChangeQueue.Holds.toSql_eq`).
-/

namespace SchemaLedger

/-- An element behind a front is modified at the length of the front. -/
lemma modify_append_cons {α : Type} (before after : List α) (x : α) (f : α → α) :
    (before ++ x :: after).modify before.length f = before ++ f x :: after := by
  induction before with
  | nil => rfl
  | cons first before ih =>
    rw [List.cons_append, List.length_cons, List.modify_succ_cons, ih]
    rfl

/-- The position that an entry names, if it names one. -/
def QueueEntry.position? : QueueEntry → Option Nat
  | .blueprint position => some position
  | .raw _ => none

lemma QueueEntry.position?_eq_some {entry : QueueEntry} {position : Nat} :
    entry.position? = some position ↔ entry = .blueprint position := by
  cases entry <;> simp [position?]

/-- A change in a queue: a blueprint, or a statement written as it is. -/
inductive QueuedChange where
  | blueprint (b : Blueprint)
  | raw (sql : Sql.Fragment)
  deriving DecidableEq, Repr

namespace QueuedChange

/-- The blueprint of a change, if it has one. -/
def blueprint? : QueuedChange → Option Blueprint
  | .blueprint b => some b
  | .raw _ => none

/-- The entries of changes in their order; the blueprints take the positions from one on. -/
def entriesFrom : Nat → List QueuedChange → List QueueEntry
  | _, [] => []
  | position, .blueprint _ :: changes => .blueprint position :: entriesFrom (position + 1) changes
  | position, .raw sql :: changes => .raw sql :: entriesFrom position changes

/-- The statements of a change. -/
def toSql (grammar : Grammar) (settings : Settings) :
    QueuedChange → Except SchemaError (List String)
  | .blueprint b => b.toSql grammar settings
  | .raw sql => .ok [sql.text]

/-- The statements of changes, one change after the other, or the first error among them. -/
def toSqlAll (grammar : Grammar) (settings : Settings) (changes : List QueuedChange) :
    Except SchemaError (List String) :=
  (changes.mapM (toSql grammar settings)).map List.flatten

variable {changes more : List QueuedChange} {position : Nat}

/-- The entries of further changes take the positions behind the blueprints that are there. -/
lemma entriesFrom_append : entriesFrom position (changes ++ more) =
    entriesFrom position changes ++
      entriesFrom (position + (changes.filterMap blueprint?).length) more := by
  induction changes generalizing position with
  | nil => rfl
  | cons change changes ih =>
    cases change with
    | blueprint b =>
      have hposition : position + 1 + (changes.filterMap blueprint?).length =
          position + ((QueuedChange.blueprint b :: changes).filterMap blueprint?).length := by
        simp [blueprint?]
        omega
      rw [List.cons_append, entriesFrom, ih, hposition]
      rfl
    | raw sql =>
      rw [List.cons_append, entriesFrom, ih]
      rfl

/-- The entries of changes name as many positions as there are blueprints, one after the other. -/
lemma positions_entriesFrom : (entriesFrom position changes).filterMap QueueEntry.position? =
    List.range' position (changes.filterMap blueprint?).length := by
  induction changes generalizing position with
  | nil => rfl
  | cons change changes ih =>
    cases change with
    | blueprint b =>
      have hcount : ((QueuedChange.blueprint b :: changes).filterMap blueprint?).length =
          (changes.filterMap blueprint?).length + 1 := rfl
      rw [hcount, List.range'_succ, ← ih]
      rfl
    | raw sql => exact ih

/-- A change has one entry. -/
lemma length_entriesFrom : (entriesFrom position changes).length = changes.length := by
  induction changes generalizing position with
  | nil => rfl
  | cons change changes ih => cases change <;> exact congrArg (· + 1) ih

lemma toSqlAll_cons (grammar : Grammar) (settings : Settings) (change : QueuedChange)
    (changes : List QueuedChange) :
    toSqlAll grammar settings (change :: changes) =
      match change.toSql grammar settings with
      | .error e => .error e
      | .ok statements =>
        match toSqlAll grammar settings changes with
        | .error e => .error e
        | .ok rest => .ok (statements ++ rest) := by
  rw [toSqlAll, toSqlAll, List.mapM_cons]
  cases change.toSql grammar settings with
  | error e => rfl
  | ok statements =>
    cases changes.mapM (toSql grammar settings) <;> rfl

end QueuedChange

namespace ChangeQueue

open QueuedChange

/-- A queue holds changes in their order. -/
structure Holds (q : ChangeQueue) (changes : List QueuedChange) : Prop where
  blueprints : q.blueprints = changes.filterMap blueprint?
  entries : q.entries = entriesFrom 0 changes

/-- Queues a change. -/
def add (q : ChangeQueue) : QueuedChange → ChangeQueue
  | .blueprint b => q.push b
  | .raw sql => q.raw sql

variable {q : ChangeQueue} {changes : List QueuedChange}

/-! ## Queueing -/

lemma holds_empty (grammar : Grammar) (settings : Settings) : (empty grammar settings).Holds [] :=
  ⟨rfl, rfl⟩

/-- Editing changes the blueprint that was queued last. -/
lemma blueprints_edit {before : List Blueprint} {b : Blueprint} (h : q.blueprints = before ++ [b])
    (change : Blueprint → Blueprint) : (q.edit change).blueprints = before ++ [change b] := by
  have hposition : (before ++ [b]).length - 1 = before.length := by
    rw [List.length_append, List.length_singleton, Nat.add_sub_cancel]
  rw [edit, h, hposition, modify_append_cons]

/-- Editing right after a blueprint was queued is queueing the edited blueprint. -/
lemma edit_push (q : ChangeQueue) (b : Blueprint) (change : Blueprint → Blueprint) :
    (q.push b).edit change = q.push (change b) :=
  calc (q.push b).edit change
      = { q.push b with blueprints := ((q.push b).edit change).blueprints } := rfl
    _ = { q.push b with blueprints := q.blueprints ++ [change b] } := by
        rw [blueprints_edit (q := q.push b) rfl]
    _ = q.push (change b) := rfl

/-- A change is queued behind the others. -/
lemma Holds.add (h : q.Holds changes) (change : QueuedChange) :
    (q.add change).Holds (changes ++ [change]) := by
  cases change with
  | blueprint b =>
    constructor
    · rw [ChangeQueue.add, push, h.blueprints, List.filterMap_append]
      rfl
    · rw [ChangeQueue.add, push, h.entries, h.blueprints, entriesFrom_append, Nat.zero_add]
      rfl
  | raw sql =>
    constructor
    · rw [ChangeQueue.add, raw, h.blueprints, List.filterMap_append]
      exact (List.append_nil _).symm
    · rw [ChangeQueue.add, raw, h.entries, entriesFrom_append]
      rfl

@[simp] lemma grammar_add (q : ChangeQueue) (change : QueuedChange) :
    (q.add change).grammar = q.grammar := by
  cases change <;> rfl

@[simp] lemma settings_add (q : ChangeQueue) (change : QueuedChange) :
    (q.add change).settings = q.settings := by
  cases change <;> rfl

/-- The positions that the entries of a queue name are those of its blueprints, in order. -/
theorem Holds.positions (h : q.Holds changes) :
    q.entries.filterMap QueueEntry.position? = List.range q.blueprints.length := by
  rw [h.entries, h.blueprints, positions_entriesFrom, List.range_eq_range']

/-- There is a blueprint at every position that an entry names. -/
lemma Holds.lt_length (h : q.Holds changes) {position : Nat}
    (hentry : .blueprint position ∈ q.entries) : position < q.blueprints.length := by
  rw [← List.mem_range, ← h.positions]
  exact List.mem_filterMap.mpr ⟨.blueprint position, hentry, rfl⟩

/-- Every blueprint has one entry. -/
lemma Holds.count_blueprint (h : q.Holds changes) {position : Nat}
    (hposition : position < q.blueprints.length) :
    q.entries.count (.blueprint position) = 1 := by
  have hcount : q.entries.count (.blueprint position) =
      (q.entries.filterMap QueueEntry.position?).count position := by
    rw [List.count_filterMap, List.count_eq_countP]
    refine List.countP_congr fun entry _ => ?_
    rw [beq_iff_eq, beq_iff_eq, QueueEntry.position?_eq_some]
  rw [hcount, h.positions, List.count_range, if_pos hposition]

/-- A queue is as long as its changes are. -/
lemma Holds.length_eq (h : q.Holds changes) : q.length = changes.length := by
  rw [length, h.entries, length_entriesFrom]

/-- A queue is empty when there are no changes. -/
lemma Holds.isEmpty_eq (h : q.Holds changes) : q.isEmpty = changes.isEmpty := by
  have hlength : q.entries.length = changes.length := h.length_eq
  rw [isEmpty, Bool.eq_iff_iff, List.isEmpty_iff_length_eq_zero, List.isEmpty_iff_length_eq_zero,
    hlength]

/-! ## Rendering -/

/-- Entries whose positions begin behind some blueprints are rendered as their changes. -/
lemma renders_entriesFrom {before : List Blueprint}
    (hblueprints : q.blueprints = before ++ changes.filterMap blueprint?) :
    List.Forall₂ (fun entry change => q.render entry = change.toSql q.grammar q.settings)
      (entriesFrom before.length changes) changes := by
  induction changes generalizing before with
  | nil => exact .nil
  | cons change changes ih =>
    cases change with
    | blueprint b =>
      have hbehind : q.blueprints = (before ++ [b]) ++ changes.filterMap blueprint? := by
        rw [hblueprints, List.append_assoc]
        rfl
      have hposition : q.blueprints[before.length]? = some b := by
        rw [hblueprints, List.getElem?_append_right (Nat.le_refl _), Nat.sub_self]
        rfl
      have hlength : (before ++ [b]).length = before.length + 1 := by
        rw [List.length_append, List.length_singleton]
      have hrest := ih hbehind
      rw [hlength] at hrest
      refine .cons ?_ hrest
      rw [render, hposition]
      rfl
    | raw sql => exact .cons rfl (ih hblueprints)

/-- Each entry of a queue is rendered as its change. -/
theorem Holds.renders (h : q.Holds changes) :
    List.Forall₂ (fun entry change => q.render entry = change.toSql q.grammar q.settings)
      q.entries changes := by
  have hblueprints : q.blueprints = [] ++ changes.filterMap blueprint? := h.blueprints
  rw [h.entries]
  exact renders_entriesFrom hblueprints

/-- Entries that are rendered as changes have the statements of the changes. -/
lemma renderAll_of_renders {entries : List QueueEntry}
    (h : List.Forall₂ (fun entry change => q.render entry = change.toSql q.grammar q.settings)
      entries changes) :
    q.renderAll entries = toSqlAll q.grammar q.settings changes := by
  induction h with
  | nil => rfl
  | cons hentry _ ih =>
    rw [renderAll, hentry, ih]
    exact (toSqlAll_cons q.grammar q.settings _ _).symm

/-- A queue has the statements of its changes, or the first error among these. -/
theorem Holds.toSql_eq (h : q.Holds changes) :
    q.toSql = toSqlAll q.grammar q.settings changes :=
  renderAll_of_renders h.renders

end ChangeQueue

end SchemaLedger
