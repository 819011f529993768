import SchemaLedger.Proofs.Database.Memory
import SchemaLedger.Proofs.Database.Within
import SchemaLedger.Proofs.Grammar.FirstWord

/-!
# Actions that leave the records

An action on a database in memory is quiet (`Memory.Quiet`) when it leaves the records, however many
of its queries fail.  A query is quiet unless it begins with the words of an insertion into the
ledger, and quiet actions compose, so what sends statements of blueprints only is quiet: above all
the creation of the ledger table (`Ledger.quiet_ensureTable`).
-/

namespace SchemaLedger

namespace Memory

/-- An action leaves the records and the canned responses. -/
def Quiet {ε α : Type} (a : Action Memory ε α) : Prop :=
  ∀ s, (a s).2.records = s.records ∧ (a s).2.responses = s.responses

/-- Two states have the same records and the same canned responses. -/
def SameRecords (s s' : Memory) : Prop := s'.records = s.records ∧ s'.responses = s.responses

instance : IsPreorder Memory SameRecords where
  refl _ := ⟨rfl, rfl⟩
  trans _ _ _ h h' := ⟨h'.1.trans h.1, h'.2.trans h.2⟩

namespace Quiet

variable {ε ε' α β : Type}

/-- An action is quiet exactly if it stays within states of the same records. -/
lemma iff_within {a : Action Memory ε α} : Quiet a ↔ a.Within SameRecords := Iff.rfl

/-- A value is quiet. -/
lemma result (value : α) : Quiet (pure value : Action Memory ε α) :=
  iff_within.mpr (.result value)

/-- A computation without a state is quiet. -/
lemma ofExcept (result : Except ε α) : Quiet (Action.ofExcept result) :=
  iff_within.mpr (.ofExcept result)

/-- Quiet actions one after another are quiet. -/
lemma bind {a : Action Memory ε α} {next : α → Action Memory ε β} (ha : Quiet a)
    (hnext : ∀ value, Quiet (next value)) : Quiet (a >>= next) :=
  iff_within.mpr (Action.Within.bind ha hnext)

/-- What follows a computation without a state needs to be quiet for its result only. -/
lemma bind_ofExcept {result : Except ε α} {next : α → Action Memory ε β}
    (hnext : ∀ value, result = .ok value → Quiet (next value)) :
    Quiet (Action.ofExcept result >>= next) := by
  cases result with
  | error e => exact fun _ => ⟨rfl, rfl⟩
  | ok value => exact hnext value rfl

/-- A quiet action is quiet with its errors seen as others. -/
lemma mapError {a : Action Memory ε α} (ha : Quiet a) (f : ε → ε') : Quiet (a.mapError f) :=
  iff_within.mpr ((iff_within.mp ha).mapError f)

variable {c : Connection Memory}

/-- A query is quiet unless it begins with the words of an insertion. -/
lemma query (hc : c.Unreliable) {sql : String}
    (hsql : Text.beginsWith sql (Ledger.insertWords c) = false) (bindings : List Sql.Value) :
    Quiet (c.query sql bindings) := fun s =>
  ⟨hc.records_query hsql bindings s, (hc.keeps_query sql bindings s).responses⟩

/-- A query that begins with words that differ from those of an insertion is quiet. -/
lemma query_of_differ (hc : c.Unreliable) {sql words : String}
    (hwords : Text.beginsWith sql words = true)
    (hdiffer : Text.differ words.toList "INSERT INTO ".toList = true)
    (bindings : List Sql.Value) : Quiet (c.query sql bindings) :=
  query hc (Text.beginsWith_append_eq_false hwords hdiffer _) bindings

/-- A statement with a first word is quiet. -/
lemma query_of_firstWord (hc : c.Unreliable) {sql : String} (hsql : MySql.HasFirstWord sql)
    (bindings : List Sql.Value) : Quiet (c.query sql bindings) :=
  query hc (hsql.not_insert _) bindings

end Quiet

end Memory

open Memory

variable {c : Connection Memory}

/-! ## Preparing the database -/

/-- Statements with first words are quiet when they are sent for a queue. -/
lemma ChangeQueue.quiet_sendAll (hc : c.Unreliable) {statements : List String}
    (h : ∀ sql ∈ statements, MySql.HasFirstWord sql) :
    Quiet (ChangeQueue.sendAll c statements) := by
  induction statements with
  | nil => exact Quiet.result 0
  | cons sql rest ih =>
    have hsql := Quiet.query_of_firstWord hc (h sql List.mem_cons_self) []
    refine (hsql.mapError _).bind fun _ => Quiet.bind (ih fun sql hsql => ?_) fun _ => .result _
    exact h sql (List.mem_cons_of_mem _ hsql)

/-- A queue of blueprints is quiet when it is executed. -/
lemma ChangeQueue.quiet_executeEntries (hc : c.Unreliable) {q : ChangeQueue}
    {tablePrefix : String} {stringLength : Nat}
    (hq : q.grammar = Grammar.mysql tablePrefix stringLength) {entries : List QueueEntry}
    (h : ∀ entry ∈ entries, ∃ position, entry = .blueprint position) :
    Quiet (q.executeEntries c entries) := by
  induction entries with
  | nil => exact Quiet.result 0
  | cons entry rest ih =>
    obtain ⟨position, rfl⟩ := h entry List.mem_cons_self
    have hrest := ih fun entry hentry => h entry (List.mem_cons_of_mem _ hentry)
    refine Quiet.bind_ofExcept fun statements hstatements => ?_
    refine Quiet.bind (quiet_sendAll hc ?_) fun _ => hrest.bind fun _ => .result _
    rw [render] at hstatements
    split at hstatements
    · rw [hq] at hstatements
      exact MySql.firstWord_toSql hstatements
    · cases hstatements
      intro sql hsql
      cases hsql

/-- The question whether a table exists is quiet. -/
lemma ChangeQueue.quiet_hasTable (hc : c.Unreliable) {q : ChangeQueue} {tablePrefix : String}
    {stringLength : Nat} (hq : q.grammar = Grammar.mysql tablePrefix stringLength)
    (table : String) : Quiet (q.hasTable c table) := by
  unfold hasTable
  refine Quiet.bind_ofExcept fun sql hsql => ?_
  rw [hq] at hsql
  cases hsql
  have hquery := Quiet.query_of_differ hc (Text.beginsWith_self
    "SELECT * FROM information_schema.tables WHERE table_schema = ? AND table_name = ?")
    (by decide) (q.tableBindings c table)
  exact (hquery.mapError _).bind fun _ => .result _

/-- The creation of the ledger table is quiet. -/
lemma Ledger.quiet_ensureTable (hc : c.Unreliable) {tablePrefix : String} {stringLength : Nat}
    (hgrammar : c.grammar = Grammar.mysql tablePrefix stringLength) :
    Quiet (Ledger.ensureTable c) := by
  have hq : c.queue.grammar = Grammar.mysql tablePrefix stringLength := hgrammar
  refine ((ChangeQueue.quiet_hasTable hc hq Ledger.tableName).mapError _).bind fun found => ?_
  split
  · exact .result ()
  · have hexecute : Quiet ((c.queue.push Ledger.blueprint).execute c).1 := by
      refine ChangeQueue.quiet_executeEntries hc hgrammar fun entry hentry => ?_
      exact ⟨_, List.mem_singleton.mp hentry⟩
    exact (hexecute.mapError _).bind fun _ => .result ()

end SchemaLedger
