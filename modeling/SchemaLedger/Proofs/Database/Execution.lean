import SchemaLedger.Database.Connection
import Mathlib.Tactic.Lemma

/-!
# Execution of queues

A queue renders its entries in two ways.  `ChangeQueue.toSql` renders all of them before it gives a
statement, and `ChangeQueue.execute` renders an entry when the statements of the entries before it
were accepted.  The two differ on a queue with an entry that cannot be rendered: the first one gives
the error only, and the second one sends the statements before the error.

Entries that can be rendered one after another are sent like the list of their statements
(`executeEntries_append`), so an execution is the sending of one list that is perhaps followed by an
error.  Statements that are sent are all accepted (`Connection.Delivers`), or one of them is the
first rejected one (`Connection.StopsAt`).
-/

namespace SchemaLedger

variable {σ : Type} {c : Connection σ}

namespace Connection

/-- Statements are sent one at a time, without bindings, and all of them are accepted. -/
inductive Delivers (c : Connection σ) : List String → σ → σ → Prop
  | nil (s : σ) : Delivers c [] s s
  | cons {sql : String} {rest : List String} {rows : List Sql.Row} {s s' s'' : σ}
      (hquery : c.query sql [] s = (.ok rows, s')) (hrest : Delivers c rest s' s'') :
      Delivers c (sql :: rest) s s''

/-- Statements are sent one at a time, without bindings, up to the first rejected one: those before
it are accepted, and those after it are not sent. -/
def StopsAt (c : Connection σ) (statements : List String) (s : σ) (sql : String)
    (e : ConnectionError) (s' : σ) : Prop :=
  ∃ accepted rest between, statements = accepted ++ sql :: rest ∧
    c.Delivers accepted s between ∧ c.query sql [] between = (.error e, s')

/-- A statement that is accepted does not stop those after it from being sent. -/
lemma StopsAt.cons {sql sql' : String} {rest : List String} {rows : List Sql.Row} {s s' s'' : σ}
    {e : ConnectionError} (hquery : c.query sql [] s = (.ok rows, s'))
    (hrest : c.StopsAt rest s' sql' e s'') : c.StopsAt (sql :: rest) s sql' e s'' := by
  obtain ⟨accepted, more, between, rfl, hdelivers, hrejected⟩ := hrest
  exact ⟨sql :: accepted, more, between, rfl, .cons hquery hdelivers, hrejected⟩

end Connection

namespace ChangeQueue

/-! ## Sending statements -/

/-- Sending statements ends after all of them, or at the first rejected one. -/
theorem sendAll_cases (c : Connection σ) (statements : List String) (s : σ) :
    (∃ s', c.Delivers statements s s' ∧ sendAll c statements s = (.ok statements.length, s')) ∨
    ∃ sql e s', c.StopsAt statements s sql e s' ∧
      sendAll c statements s = (.error (.execution sql e), s') := by
  induction statements generalizing s with
  | nil => exact Or.inl ⟨s, .nil s, rfl⟩
  | cons sql rest ih =>
    rcases hquery : c.query sql [] s with ⟨e | rows, s'⟩
    · have hsend : send c sql [] s = (.error (.execution sql e), s') :=
        Action.mapError_of_error hquery
      exact Or.inr ⟨sql, e, s', ⟨[], rest, s, rfl, .nil s, hquery⟩, Action.bind_of_error hsend⟩
    · have hsend : send c sql [] s = (.ok rows, s') := Action.mapError_of_ok hquery
      have hall : sendAll c (sql :: rest) s =
          (sendAll c rest >>= fun count => pure (count + 1)) s' := Action.bind_of_ok hsend
      rw [hall]
      rcases ih s' with ⟨s'', hdelivers, hrest⟩ | ⟨sql', e, s'', hstops, hrest⟩
      · exact Or.inl ⟨s'', .cons hquery hdelivers, Action.bind_of_ok hrest⟩
      · exact Or.inr ⟨sql', e, s'', hstops.cons hquery, Action.bind_of_error hrest⟩

/-- Two lists of statements are sent one after the other. -/
lemma sendAll_append (c : Connection σ) (statements more : List String) :
    sendAll c (statements ++ more) =
      sendAll c statements >>= fun count => sendAll c more >>= fun rest => pure (count + rest) := by
  induction statements with
  | nil =>
    rw [List.nil_append, sendAll, Action.pure_bind]
    simp only [Nat.zero_add, Action.bind_pure]
  | cons sql rest ih =>
    rw [List.cons_append, sendAll, sendAll, ih]
    simp only [Action.bind_assoc, Action.pure_bind, Nat.add_right_comm]

/-! ## Rendering entries one by one -/

/-- All entries can be rendered, or there is a first one that cannot be. -/
lemma renderAll_cases (q : ChangeQueue) (entries : List QueueEntry) :
    (∃ statements, q.renderAll entries = .ok statements) ∨
    ∃ before entry after statements e, entries = before ++ entry :: after ∧
      q.renderAll before = .ok statements ∧ q.render entry = .error e ∧
      q.renderAll entries = .error e := by
  induction entries with
  | nil => exact Or.inl ⟨[], rfl⟩
  | cons entry entries ih =>
    cases hentry : q.render entry with
    | error e =>
      exact Or.inr ⟨[], entry, entries, [], e, rfl, rfl, hentry, by simp only [renderAll, hentry]⟩
    | ok statements =>
      rcases ih with ⟨more, hall⟩ | ⟨before, entry', after, more, e, rfl, hbefore, herror, hall⟩
      · exact Or.inl ⟨statements ++ more, by simp only [renderAll, hentry, hall]⟩
      · exact Or.inr ⟨entry :: before, entry', after, statements ++ more, e, rfl,
          by simp only [renderAll, hentry, hbefore], herror, by simp only [renderAll, hentry, hall]⟩

/-- Entries that can be rendered are sent like the list of their statements. -/
lemma executeEntries_append (q : ChangeQueue) (c : Connection σ) {before : List QueueEntry}
    {statements : List String} (h : q.renderAll before = .ok statements)
    (after : List QueueEntry) :
    q.executeEntries c (before ++ after) =
      sendAll c statements >>= fun count =>
        q.executeEntries c after >>= fun more => pure (count + more) := by
  induction before generalizing statements with
  | nil =>
    cases h
    rw [List.nil_append, sendAll, Action.pure_bind]
    simp only [Nat.zero_add, Action.bind_pure]
  | cons entry before ih =>
    rw [renderAll] at h
    split at h
    · cases h
    next first hentry =>
      split at h
      · cases h
      next more hbefore =>
        cases h
        -- The statements of the first entry are sent before those of the others in both forms; only
        -- the counts are added up in another order.
        rw [List.cons_append, executeEntries, hentry, Action.ofExcept_ok_bind, ih hbefore,
          sendAll_append]
        simp only [Action.bind_assoc, Action.pure_bind, Nat.add_assoc]

/-- Entries that can all be rendered are sent like the list of their statements. -/
lemma executeEntries_of_renderAll (q : ChangeQueue) (c : Connection σ) {entries : List QueueEntry}
    {statements : List String} (h : q.renderAll entries = .ok statements) :
    q.executeEntries c entries = sendAll c statements := by
  have happend := q.executeEntries_append c h []
  rw [List.append_nil] at happend
  rw [happend, executeEntries]
  simp only [Action.pure_bind, Nat.add_zero, Action.bind_pure]

/-- An entry that cannot be rendered is an error after the statements before it. -/
lemma executeEntries_of_render_error (q : ChangeQueue) (c : Connection σ)
    {before : List QueueEntry} {statements : List String}
    (hbefore : q.renderAll before = .ok statements) {entry : QueueEntry} {e : SchemaError}
    (hentry : q.render entry = .error e) (after : List QueueEntry) :
    q.executeEntries c (before ++ entry :: after) =
      sendAll c statements >>= fun _ => Action.fail e := by
  rw [q.executeEntries_append c hbefore, executeEntries, hentry]
  rfl

/-! ## Both ways of rendering -/

/-- For every queue and connection, the entries before the first one that cannot be rendered have
some statements, and these are what an execution sends: one at a time, without bindings, until one
is rejected.  When one is rejected, the error has that statement and the reason.  When none is, the
execution ends like the rendering of the whole queue: with the error of the entry that cannot be
rendered, or with the number of the statements.  The queue is as good as new afterwards, whatever
happened. -/
theorem execute_refines_toSql (q : ChangeQueue) (c : Connection σ) (s : σ) :
    (∃ before after statements, q.entries = before ++ after ∧
      q.renderAll before = .ok statements ∧
      ((after = [] ∧ q.toSql = .ok statements) ∨
        ∃ entry rest e, after = entry :: rest ∧ q.render entry = .error e ∧ q.toSql = .error e) ∧
      ((∃ s', c.Delivers statements s s' ∧
          (q.execute c).1 s = (q.toSql.map List.length, s')) ∨
        ∃ sql e s', c.StopsAt statements s sql e s' ∧
          (q.execute c).1 s = (.error (.execution sql e), s'))) ∧
    (q.execute c).2 = .empty q.grammar q.settings ∧ (q.execute c).2.toSql = .ok [] := by
  refine ⟨?_, rfl, rfl⟩
  rcases q.renderAll_cases q.entries with
    ⟨statements, hall⟩ | ⟨before, entry, after, statements, e, hentries, hbefore, hentry, hall⟩
  · refine ⟨q.entries, [], statements, (List.append_nil _).symm, hall, Or.inl ⟨rfl, hall⟩, ?_⟩
    have hexecute : (q.execute c).1 = sendAll c statements := q.executeEntries_of_renderAll c hall
    rw [hexecute, toSql, hall]
    exact sendAll_cases c statements s
  · refine ⟨before, entry :: after, statements, hentries, hbefore,
      Or.inr ⟨entry, after, e, rfl, hentry, hall⟩, ?_⟩
    have hexecute : (q.execute c).1 = sendAll c statements >>= fun _ => Action.fail e := by
      rw [execute, hentries]
      exact q.executeEntries_of_render_error c hbefore hentry after
    rw [hexecute, toSql, hall]
    rcases sendAll_cases c statements s with ⟨s', hdelivers, hsent⟩ | ⟨sql, e', s', hstops, hsent⟩
    · exact Or.inl ⟨s', hdelivers, Action.bind_of_ok hsent⟩
    · exact Or.inr ⟨sql, e', s', hstops, Action.bind_of_error hsent⟩

end ChangeQueue

end SchemaLedger
