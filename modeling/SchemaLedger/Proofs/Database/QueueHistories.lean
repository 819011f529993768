import SchemaLedger.Database.Memory
import SchemaLedger.Grammar.MySql
import SchemaLedger.Proofs.Database.Execution
import SchemaLedger.Proofs.Schema.QueuedChanges

/-!
# Queues as one list

A queue keeps its blueprints apart from its entries, which name them by position, and an execution
takes both away.  To whoever uses it, it is one list of changes all the same
(`ChangeQueue.answers_like_list`).

The list is a `ChangeList`.  A change is appended to it, an edit goes to the change that its handle
points to, and an execution leaves nothing of it.  The same steps are done with a queue and with a
list, and each of them answers (`ChangeQueue.answer`, `ChangeList.answer`).  A queue matches a list
(`ChangeQueue.Matches`) when it holds the changes of the list and the handle points to the last
blueprint.  A queue and a list that match give the same answer to a step and match again
(`Matches.answer`), so they do for every history of steps (`Matches.answers`).
-/

namespace SchemaLedger

open QueuedChange

variable {σ : Type}

/-! ## Steps and answers -/

/-- What is done with a queue: a change is queued, the blueprint that was queued last is edited, or
the queue is asked for its length, rendered or executed. -/
inductive QueueStep (σ : Type) where
  | table (name : String)
  | create (name : String)
  | drop (name : String)
  | dropIfExists (name : String)
  | rename (oldName newName : String)
  | push (b : Blueprint)
  | raw (sql : Sql.Fragment)
  | edit (change : Blueprint → Blueprint)
  | length
  | toSql
  | execute (c : Connection σ)

/-- What a step shows. -/
inductive QueueAnswer where
  | done
  | length (count : Nat) (isEmpty : Bool)
  | statements (result : Except SchemaError (List String))
  | executed (result : Except SchemaError Nat)

/-- The answers to steps one after another, and the state after them. -/
def runSteps {τ : Type} (answer : τ → QueueStep σ → QueueAnswer × τ) :
    τ → List (QueueStep σ) → List QueueAnswer × τ
  | state, [] => ([], state)
  | state, step :: steps =>
    let now := answer state step
    let later := runSteps answer now.2 steps
    (now.1 :: later.1, later.2)

/-- The answer of a queue to a step, and the queue after it.  The state of the connections goes with
the queue. -/
def ChangeQueue.answer : ChangeQueue × σ → QueueStep σ → QueueAnswer × ChangeQueue × σ
  | (q, s), .table name => (.done, q.table name, s)
  | (q, s), .create name => (.done, q.create name, s)
  | (q, s), .drop name => (.done, q.drop name, s)
  | (q, s), .dropIfExists name => (.done, q.dropIfExists name, s)
  | (q, s), .rename oldName newName => (.done, q.rename oldName newName, s)
  | (q, s), .push b => (.done, q.push b, s)
  | (q, s), .raw sql => (.done, q.raw sql, s)
  | (q, s), .edit change => (.done, q.edit change, s)
  | (q, s), .length => (.length q.length q.isEmpty, q, s)
  | (q, s), .toSql => (.statements q.toSql, q, s)
  | (q, s), .execute c =>
    let (sending, rest) := q.execute c
    let (result, s') := sending s
    (.executed result, rest, s')

/-! ## Lists of changes -/

namespace QueuedChange

/-- Edits the blueprint of a change. -/
def edit (change : Blueprint → Blueprint) : QueuedChange → QueuedChange
  | .blueprint b => .blueprint (change b)
  | .raw sql => .raw sql

/-- Renders a change and sends its statements one at a time, after `sent` other statements. -/
def send (grammar : Grammar) (settings : Settings) (c : Connection σ) (sent : Nat)
    (change : QueuedChange) : Action σ SchemaError Nat := do
  let statements ← Action.ofExcept (change.toSql grammar settings)
  statements.foldlM (fun sent sql => do
    let _ ← ChangeQueue.send c sql []
    pure (sent + 1)) sent

end QueuedChange

/-- Changes in order.  The handle points to the blueprint that was queued last. -/
structure ChangeList where
  changes : List QueuedChange
  handle : Option Nat

namespace ChangeList

/-- A list without changes. -/
def empty : ChangeList := ⟨[], none⟩

/-- Appends a blueprint, and points to it. -/
def push (l : ChangeList) (b : Blueprint) : ChangeList :=
  ⟨l.changes ++ [.blueprint b], some l.changes.length⟩

/-- Appends a statement. -/
def raw (l : ChangeList) (sql : Sql.Fragment) : ChangeList :=
  { l with changes := l.changes ++ [.raw sql] }

/-- Edits the blueprint that the handle points to. -/
def edit (l : ChangeList) (change : Blueprint → Blueprint) : ChangeList :=
  match l.handle with
  | none => l
  | some place => { l with changes := l.changes.modify place (QueuedChange.edit change) }

/-- The answer of a list to a step, and the list after it. -/
def answer (grammar : Grammar) (settings : Settings) :
    ChangeList × σ → QueueStep σ → QueueAnswer × ChangeList × σ
  | (l, s), .table name => (.done, l.push (.ofTable name), s)
  | (l, s), .create name => (.done, l.push (Blueprint.ofTable name).create, s)
  | (l, s), .drop name => (.done, l.push (Blueprint.ofTable name).drop, s)
  | (l, s), .dropIfExists name => (.done, l.push (Blueprint.ofTable name).dropIfExists, s)
  | (l, s), .rename oldName newName =>
    (.done, l.push ((Blueprint.ofTable oldName).rename newName), s)
  | (l, s), .push b => (.done, l.push b, s)
  | (l, s), .raw sql => (.done, l.raw sql, s)
  | (l, s), .edit change => (.done, l.edit change, s)
  | (l, s), .length => (.length l.changes.length l.changes.isEmpty, l, s)
  | (l, s), .toSql => (.statements (toSqlAll grammar settings l.changes), l, s)
  | (l, s), .execute c =>
    let (result, s') := l.changes.foldlM (QueuedChange.send grammar settings c) 0 s
    (.executed result, empty, s')

/-- The handle points to the last blueprint, or there is none. -/
inductive PointsToLast : ChangeList → Prop
  | none {changes : List QueuedChange} (h : changes.filterMap blueprint? = []) :
      PointsToLast ⟨changes, none⟩
  | some (before : List QueuedChange) (b : Blueprint) (after : List QueuedChange)
      (h : after.filterMap blueprint? = []) :
      PointsToLast ⟨before ++ .blueprint b :: after, some before.length⟩

namespace PointsToLast

variable {l : ChangeList}

lemma empty : ChangeList.empty.PointsToLast := .none rfl

lemma push (l : ChangeList) (b : Blueprint) : (l.push b).PointsToLast :=
  .some l.changes b [] rfl

/-- A statement behind the last blueprint leaves it the last one. -/
lemma raw (h : l.PointsToLast) (sql : Sql.Fragment) : (l.raw sql).PointsToLast := by
  have hbehind {changes : List QueuedChange} (hnone : changes.filterMap blueprint? = []) :
      (changes ++ [QueuedChange.raw sql]).filterMap blueprint? = [] := by
    rw [List.filterMap_append, hnone]
    rfl
  cases h with
  | none hnone => exact .none (hbehind hnone)
  | some before b after hnone =>
    have hlast := PointsToLast.some before b _ (hbehind hnone)
    rwa [← List.cons_append, ← List.append_assoc] at hlast

/-- An edit changes the last blueprint in its place. -/
lemma edit_some (before : List QueuedChange) (b : Blueprint) (after : List QueuedChange)
    (change : Blueprint → Blueprint) :
    ChangeList.edit ⟨before ++ .blueprint b :: after, Option.some before.length⟩ change =
      ⟨before ++ .blueprint (change b) :: after, Option.some before.length⟩ :=
  congrArg (ChangeList.mk · _) (modify_append_cons before after _ _)

/-- An edit leaves the handle where it is. -/
lemma edit (h : l.PointsToLast) (change : Blueprint → Blueprint) :
    (l.edit change).PointsToLast := by
  cases h with
  | none hnone => exact .none hnone
  | some before b after hnone =>
    rw [edit_some]
    exact .some before (change b) after hnone

end PointsToLast

end ChangeList

namespace ChangeQueue

variable {q : ChangeQueue} {l : ChangeList} {changes : List QueuedChange}

/-! ## Edits and executions -/

/-- The blueprint that was queued last is the one that the handle points to. -/
theorem Holds.edit (h : q.Holds l.changes) (hlast : l.PointsToLast)
    (change : Blueprint → Blueprint) : (q.edit change).Holds (l.edit change).changes := by
  cases hlast with
  | none hnone =>
    constructor
    · rw [ChangeQueue.edit, h.blueprints, hnone]
      exact hnone.symm
    · exact h.entries
  | some before b after hnone =>
    have hlist (b' : Blueprint) :
        (before ++ .blueprint b' :: after : List QueuedChange).filterMap blueprint? =
          before.filterMap blueprint? ++ [b'] := by
      rw [List.filterMap_append, List.filterMap_cons, hnone]
      rfl
    have hblueprints : q.blueprints = before.filterMap blueprint? ++ [b] :=
      h.blueprints.trans (hlist b)
    rw [ChangeList.PointsToLast.edit_some]
    constructor
    · rw [blueprints_edit hblueprints, hlist]
    · -- The entries have positions only, so those of the edited changes are the same.
      have hentries := h.entries
      rw [entriesFrom_append] at hentries
      rw [entriesFrom_append]
      exact hentries

/-- Statements that are sent after others are counted with them. -/
lemma foldlM_send (c : Connection σ) (statements : List String) (sent : Nat) :
    statements.foldlM (fun sent sql => do
      let _ ← send c sql []
      pure (sent + 1)) sent =
      sendAll c statements >>= fun count => pure (sent + count) := by
  induction statements generalizing sent with
  | nil => rfl
  | cons sql rest ih =>
    rw [List.foldlM_cons, sendAll]
    simp only [Action.bind_assoc, Action.pure_bind, ih, Nat.add_assoc, Nat.add_comm 1]

/-- Entries that are rendered as changes are sent like the changes. -/
lemma foldlM_sendChange (c : Connection σ) {entries : List QueueEntry}
    (h : List.Forall₂ (fun entry change => q.render entry = change.toSql q.grammar q.settings)
      entries changes) (sent : Nat) :
    changes.foldlM (QueuedChange.send q.grammar q.settings c) sent =
      q.executeEntries c entries >>= fun count => pure (sent + count) := by
  induction h generalizing sent with
  | nil => rfl
  | cons hentry _ ih =>
    rw [List.foldlM_cons, executeEntries, QueuedChange.send, hentry]
    simp only [Action.bind_assoc, Action.pure_bind, ih, foldlM_send, Nat.add_assoc]

/-- A queue sends the statements of its changes. -/
theorem Holds.execute_eq (h : q.Holds changes) (c : Connection σ) :
    (q.execute c).1 = changes.foldlM (QueuedChange.send q.grammar q.settings c) 0 := by
  rw [foldlM_sendChange c h.renders]
  simp only [Nat.zero_add, Action.bind_pure]
  rfl

/-! ## Histories -/

/-- A queue matches a list when it holds the changes of the list, and the list points to the last
blueprint. -/
structure Matches (q : ChangeQueue) (grammar : Grammar) (settings : Settings) (l : ChangeList) :
    Prop where
  grammar : q.grammar = grammar
  settings : q.settings = settings
  holds : q.Holds l.changes
  pointsToLast : l.PointsToLast

namespace Matches

variable {grammar : Grammar} {settings : Settings}

lemma empty (grammar : Grammar) (settings : Settings) :
    (ChangeQueue.empty grammar settings).Matches grammar settings ChangeList.empty :=
  ⟨rfl, rfl, holds_empty grammar settings, .empty⟩

lemma push (h : q.Matches grammar settings l) (b : Blueprint) :
    (q.push b).Matches grammar settings (l.push b) :=
  ⟨h.grammar, h.settings, h.holds.add (.blueprint b), .push l b⟩

lemma raw (h : q.Matches grammar settings l) (sql : Sql.Fragment) :
    (q.raw sql).Matches grammar settings (l.raw sql) :=
  ⟨h.grammar, h.settings, h.holds.add (.raw sql), h.pointsToLast.raw sql⟩

lemma edit (h : q.Matches grammar settings l) (change : Blueprint → Blueprint) :
    (q.edit change).Matches grammar settings (l.edit change) :=
  ⟨h.grammar, h.settings, h.holds.edit h.pointsToLast change, h.pointsToLast.edit change⟩

/-- After an execution the queue matches a list without changes, whatever was sent. -/
lemma clear (h : q.Matches grammar settings l) :
    q.clear.Matches grammar settings ChangeList.empty :=
  ⟨h.grammar, h.settings, ⟨rfl, rfl⟩, .empty⟩

/-- A blueprint that is edited as soon as it is queued is queued as edited. -/
lemma edit_push (h : q.Matches grammar settings l) (b : Blueprint)
    (change : Blueprint → Blueprint) :
    ((q.push b).edit change).Matches grammar settings (l.push (change b)) := by
  rw [ChangeQueue.edit_push]
  exact h.push (change b)

/-- A queue and a list that match give the same answer to a step, and match again. -/
theorem answer (h : q.Matches grammar settings l) (s : σ) (step : QueueStep σ) :
    ∃ shown q' l' s', ChangeQueue.answer (q, s) step = (shown, q', s') ∧
      ChangeList.answer grammar settings (l, s) step = (shown, l', s') ∧
      q'.Matches grammar settings l' := by
  cases step with
  | table name => exact ⟨_, _, _, _, rfl, rfl, h.push (.ofTable name)⟩
  | create name => exact ⟨_, _, _, _, rfl, rfl, h.edit_push (.ofTable name) Blueprint.create⟩
  | drop name => exact ⟨_, _, _, _, rfl, rfl, h.edit_push (.ofTable name) Blueprint.drop⟩
  | dropIfExists name =>
    exact ⟨_, _, _, _, rfl, rfl, h.edit_push (.ofTable name) Blueprint.dropIfExists⟩
  | rename oldName newName =>
    exact ⟨_, _, _, _, rfl, rfl, h.edit_push (.ofTable oldName) (Blueprint.rename · newName)⟩
  | push b => exact ⟨_, _, _, _, rfl, rfl, h.push b⟩
  | raw sql => exact ⟨_, _, _, _, rfl, rfl, h.raw sql⟩
  | edit change => exact ⟨_, _, _, _, rfl, rfl, h.edit change⟩
  | length =>
    have hlength : q.length = l.changes.length := h.holds.length_eq
    have hempty : q.isEmpty = l.changes.isEmpty := h.holds.isEmpty_eq
    refine ⟨.length q.length q.isEmpty, q, l, s, rfl, ?_, h⟩
    rw [ChangeList.answer, hlength, hempty]
  | toSql =>
    have hsql : q.toSql = toSqlAll grammar settings l.changes := by
      rw [h.holds.toSql_eq, h.grammar, h.settings]
    refine ⟨.statements q.toSql, q, l, s, rfl, ?_, h⟩
    rw [ChangeList.answer, hsql]
  | execute c =>
    have hsent : (q.execute c).1 =
        l.changes.foldlM (QueuedChange.send grammar settings c) 0 := by
      rw [h.holds.execute_eq, h.grammar, h.settings]
    refine ⟨.executed ((q.execute c).1 s).1, q.clear, .empty, ((q.execute c).1 s).2, rfl, ?_,
      h.clear⟩
    rw [hsent]
    rfl

/-- A queue and a list that match give the same answers to a history of steps, and match again. -/
theorem answers (h : q.Matches grammar settings l) (s : σ) (history : List (QueueStep σ)) :
    ∃ shown q' l' s', runSteps ChangeQueue.answer (q, s) history = (shown, q', s') ∧
      runSteps (ChangeList.answer grammar settings) (l, s) history = (shown, l', s') ∧
      q'.Matches grammar settings l' := by
  induction history generalizing q l s with
  | nil => exact ⟨[], q, l, s, rfl, rfl, h⟩
  | cons step history ih =>
    obtain ⟨first, q', l', s', hacted, hlisted, hnow⟩ := h.answer s step
    obtain ⟨rest, q'', l'', s'', hacted', hlisted', hlater⟩ := ih hnow s'
    refine ⟨first :: rest, q'', l'', s'', ?_, ?_, hlater⟩
    · rw [runSteps, hacted, hacted']
    · rw [runSteps, hlisted, hlisted']

end Matches

/-- A queue is one list of changes, whatever was done with it.  After every history of steps, its
entries name the positions of its blueprints in order, so that no entry names a position without a
blueprint and every blueprint has one entry, which is rendered as the blueprint.  The queue holds
the changes of the list, and it gave the answers of the list: the lengths, the statements, and the
results of the executions, which left the connections in the same state. -/
theorem answers_like_list (grammar : Grammar) (settings : Settings) (s : σ)
    (history : List (QueueStep σ)) :
    ∃ shown q l s',
      runSteps ChangeQueue.answer (ChangeQueue.empty grammar settings, s) history =
        (shown, q, s') ∧
      runSteps (ChangeList.answer grammar settings) (ChangeList.empty, s) history =
        (shown, l, s') ∧
      q.Holds l.changes ∧
      q.entries.filterMap QueueEntry.position? = List.range q.blueprints.length ∧
      (∀ position, .blueprint position ∈ q.entries → position < q.blueprints.length) ∧
      ∀ position b, q.blueprints[position]? = some b →
        q.entries.count (.blueprint position) = 1 ∧
          q.render (.blueprint position) = b.toSql grammar settings := by
  obtain ⟨shown, q, l, s', hacted, hlisted, h⟩ :=
    (Matches.empty grammar settings).answers s history
  have hcount (position : Nat) (b : Blueprint) (hb : q.blueprints[position]? = some b) :
      q.entries.count (.blueprint position) = 1 := by
    obtain ⟨hposition, -⟩ := List.getElem?_eq_some_iff.mp hb
    exact h.holds.count_blueprint hposition
  have hrender (position : Nat) (b : Blueprint) (hb : q.blueprints[position]? = some b) :
      q.render (.blueprint position) = b.toSql grammar settings := by
    rw [render, hb, h.grammar, h.settings]
  refine ⟨shown, q, l, s', hacted, hlisted, h.holds, h.holds.positions, ?_, ?_⟩
  · intro position hentry
    exact h.holds.lt_length hentry
  · intro position b hb
    exact ⟨hcount position b hb, hrender position b hb⟩

/-- Steps with an execution whose first statement is rejected, because the session is not open, and
with an edit behind a statement. -/
def rejectedSteps : List (QueueStep Memory) :=
  [.create "a", .drop "b", .execute (Memory.connection .empty (Grammar.mysql "" 255)), .table "c",
    .raw ⟨"SELECT 1"⟩, .edit (Blueprint.setComment · "d"), .dropIfExists "e"]

/-- The blueprints queued after the execution take the positions from zero on. -/
theorem answers_like_list_rejected :
    let acted := runSteps answer (empty (Grammar.mysql "" 255) .empty, Memory.fresh) rejectedSteps
    let b := (Blueprint.ofTable "c").setComment "d"
    acted.2.1.blueprints = [b, (Blueprint.ofTable "e").dropIfExists] ∧
      acted.2.1.entries.filterMap QueueEntry.position? = [0, 1] ∧
      acted.2.1.entries.count (.blueprint 0) = 1 ∧
      acted.2.1.render (.blueprint 0) = b.toSql (Grammar.mysql "" 255) .empty := by
  intro acted b
  obtain ⟨shown, q, l, s', hacted, -, -, hpositions, -, honce⟩ :=
    answers_like_list (Grammar.mysql "" 255) .empty Memory.fresh rejectedSteps
  have hq : acted.2.1 = q := congrArg (·.2.1) hacted
  have hblueprints : q.blueprints = [b, (Blueprint.ofTable "e").dropIfExists] := by
    rw [← hq]
    rfl
  have hfirst : q.blueprints[0]? = some b := by
    rw [hblueprints]
    rfl
  rw [hblueprints] at hpositions
  rw [hq]
  exact ⟨hblueprints, hpositions, honce 0 b hfirst⟩

end ChangeQueue

end SchemaLedger
