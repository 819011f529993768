import SchemaLedger.Proofs.Database.Memory
import SchemaLedger.Proofs.Database.Within

/-!
# Exchanges with a database in memory

The log of a database tells which statements it received, but neither what it was like when it
received them nor which of them it accepted.  `Connection.observed` is a connection with a second
log that does: it does what a connection does and writes down each exchange.  An action observes
another one (`Memory.Observes`) when it does the same and what it writes down creates the ledger
table at most once (`Memory.CreatesOnce`).  The latter is said of the states before and after:  a
creation is sent only while there is no table, and an accepted one leaves a table that was not
there before.  So it holds of exchanges one after another if it holds of each.
-/

namespace SchemaLedger

/-- A statement that was sent, the database at that time, and whether the statement was accepted. -/
structure Exchange where
  sent : Received
  before : Memory
  accepted : Bool
  deriving DecidableEq, Repr

namespace Exchange

/-- Whether the statement creates a table. -/
def isCreation (x : Exchange) : Bool := Text.beginsWith x.sent.sql "CREATE TABLE"

/-- Whether the statement creates a table and was accepted. -/
def creates (x : Exchange) : Bool := x.isCreation && x.accepted

end Exchange

/-- A connection that does what another one does and writes down its exchanges, last one first. -/
def Connection.observed (c : Connection Memory) : Connection (Memory × List Exchange) where
  settings := c.settings
  grammar := c.grammar
  connect := fun (s, seen) => ((c.connect s).1, (c.connect s).2, seen)
  query := fun sql bindings (s, seen) =>
    ((c.query sql bindings s).1, (c.query sql bindings s).2,
      ⟨⟨sql, bindings⟩, s, (c.query sql bindings s).1.isOk⟩ :: seen)
  close := fun (s, seen) => ((c.close s).1, (c.close s).2, seen)

variable {c : Connection Memory} {s s' s'' : Memory}

namespace Memory

/-! ## The ledger table lasts -/

/-- The canned responses are kept, and so is the ledger table if there is one. -/
structure Lasts (s s' : Memory) : Prop where
  responses : s'.responses = s.responses
  table : s.tableCreated = true → s'.tableCreated = true

instance : IsPreorder Memory Lasts where
  refl _ := ⟨rfl, id⟩
  trans _ _ _ h h' := ⟨h'.responses.trans h.responses, fun htable => h'.table (h.table htable)⟩

/-- The table lasts where nothing changes that it depends on. -/
lemma Lasts.of_eq (hresponses : s'.responses = s.responses)
    (htable : s'.tableCreated = s.tableCreated) : s.Lasts s' :=
  ⟨hresponses, fun h => htable.trans h⟩

/-- No answer removes the table. -/
lemma lasts_respond (c : Connection Memory) (s : Memory) (sql : String)
    (bindings : List Sql.Value) : s.Lasts (respond c.settings c.grammar sql bindings s).2 := by
  rcases respond_cases c s sql bindings with h | ⟨-, -, h⟩ | ⟨-, h⟩ <;> rw [h]
  · exact refl_of Lasts s
  · exact ⟨rfl, fun _ => rfl⟩
  · exact ⟨rfl, id⟩

/-- Without canned responses, an answer creates the table exactly if the statement is a creation
that names it. -/
lemma tableCreated_respond (hs : s.responses = []) (sql : String) (bindings : List Sql.Value) :
    (respond c.settings c.grammar sql bindings s).2.tableCreated =
      (s.tableCreated || (Text.beginsWith sql "CREATE TABLE" &&
        Text.contains sql (Ledger.quotedTable c))) := by
  cases hcreate : Text.beginsWith sql "CREATE TABLE" &&
      Text.contains sql (Ledger.quotedTable c) with
  | false =>
    rcases respond_cases c s sql bindings with h | ⟨hbegins, hcontains, -⟩ | ⟨-, h⟩
    · rw [h, Bool.or_false]
    · rw [hbegins, hcontains] at hcreate
      cases hcreate
    · rw [h, Bool.or_false]
  | true =>
    -- Of the statements that are told apart, only the question for the table comes before it.
    obtain ⟨hbegins, -⟩ := Bool.and_eq_true_iff.mp hcreate
    have hexists : Text.beginsWith sql "SELECT * FROM information_schema.tables" = false :=
      Text.beginsWith_eq_false hbegins (by decide)
    have hnames : (Text.beginsWith sql "CREATE TABLE" &&
        Text.contains sql (c.grammar.naming.wrapTable Ledger.tableName)) = true := hcreate
    simp only [respond, hs, List.find?_nil, hexists, hnames, Bool.or_true]
    rfl

/-! ## Creations in exchanges -/

/-- What exchanges between two states have to do with the ledger table.  What they create is that
table, they try to create it only while it does not exist, and it exists once they did. -/
structure CreatesOnce (c : Connection Memory) (s : Memory) (exchanges : List Exchange)
    (s' : Memory) : Prop where
  /-- The canned responses are kept. -/
  responses : s'.responses = s.responses
  /-- What is sent to create a table names the ledger table. -/
  named : ∀ x ∈ exchanges, x.isCreation = true →
    Text.contains x.sent.sql (Ledger.quotedTable c) = true
  /-- It is sent while the table does not exist. -/
  absent : ∀ x ∈ exchanges, x.isCreation = true → x.before.tableCreated = false
  /-- The tables that were there before and those that were created are there afterwards, and there
  is at most one. -/
  once : exchanges.countP Exchange.creates + s.tableCreated.toNat ≤ s'.tableCreated.toNat

namespace CreatesOnce

variable {exchanges more : List Exchange}

/-- Where nothing is exchanged, the table only has to last. -/
lemma of_lasts (c : Connection Memory) (h : s.Lasts s') : CreatesOnce c s [] s' := by
  refine ⟨h.responses, List.forall_mem_nil _, List.forall_mem_nil _, ?_⟩
  rw [List.countP_nil, Nat.zero_add]
  cases htable : s.tableCreated with
  | false => exact Nat.zero_le _
  | true => exact Nat.le_of_eq (congrArg Bool.toNat (h.table htable)).symm

/-- One exchange creates the table at most once, if it does not try to create something else, does
not try it while the table exists, and succeeds only when the table exists afterwards. -/
lemma of_exchange {x : Exchange} (hlasts : x.before.Lasts s')
    (hcreation : x.isCreation = true →
      Text.contains x.sent.sql (Ledger.quotedTable c) = true ∧ x.before.tableCreated = false)
    (hcreates : x.creates = true → s'.tableCreated = true) :
    CreatesOnce c x.before [x] s' := by
  refine ⟨hlasts.responses, List.forall_mem_singleton.mpr fun h => (hcreation h).1,
    List.forall_mem_singleton.mpr fun h => (hcreation h).2, ?_⟩
  cases hx : x.creates with
  | false =>
    rw [List.countP_cons_of_neg (ne_true_of_eq_false hx)]
    exact (of_lasts c hlasts).once
  | true =>
    have habsent := (hcreation (Bool.and_eq_true_iff.mp hx).1).2
    rw [List.countP_cons_of_pos hx, List.countP_nil, habsent, hcreates hx]
    exact Nat.le_refl 1

/-- The table lasts while it is created at most once. -/
lemma lasts (h : CreatesOnce c s exchanges s') : s.Lasts s' := by
  refine ⟨h.responses, fun htable => ?_⟩
  have honce := h.once
  rw [htable] at honce
  cases htable' : s'.tableCreated with
  | true => rfl
  | false =>
    rw [htable'] at honce
    simp at honce

/-- Exchanges one after another create the table at most once if the first and the second ones
do. -/
lemma trans (h : CreatesOnce c s exchanges s') (h' : CreatesOnce c s' more s'') :
    CreatesOnce c s (more ++ exchanges) s'' := by
  refine ⟨h'.responses.trans h.responses, ?_, ?_, ?_⟩
  · exact List.forall_mem_append.mpr ⟨h'.named, h.named⟩
  · exact List.forall_mem_append.mpr ⟨h'.absent, h.absent⟩
  · have hfirst := h.once
    have hsecond := h'.once
    rw [List.countP_append]
    omega

/-- At most one creation is accepted. -/
lemma countP_creates_le_one (h : CreatesOnce c s exchanges s') :
    exchanges.countP Exchange.creates ≤ 1 := by
  have honce := h.once
  have hle := Bool.toNat_le s'.tableCreated
  omega

end CreatesOnce

/-! ## Observed actions -/

/-- An action on a database with a log of exchanges does what another one does.  What it writes down
creates the table at most once, and a value of it has a property together with the database. -/
def Observes {ε α : Type} (c : Connection Memory)
    (observed : Action (Memory × List Exchange) ε α) (a : Action Memory ε α) (s : Memory)
    (post : α → Memory → Prop) : Prop :=
  ∀ seen, ∃ exchanges, observed (s, seen) = ((a s).1, (a s).2, exchanges ++ seen) ∧
    CreatesOnce c s exchanges (a s).2 ∧ ∀ value, (a s).1 = .ok value → post value (a s).2

namespace Observes

variable {ε ε' α β : Type} {observed : Action (Memory × List Exchange) ε α}
  {a : Action Memory ε α} {post : α → Memory → Prop}

/-- A value is observed without exchanges. -/
lemma result {value : α} (h : post value s) : Observes c (pure value) (pure value : Action _ ε α)
    s post := by
  refine fun seen => ⟨[], rfl, .of_lasts c (refl_of Lasts s), ?_⟩
  rintro _ ⟨⟩
  exact h

/-- An action that is observed may be followed by one that is observed wherever it ends. -/
lemma bind {next' : α → Action (Memory × List Exchange) ε β} {next : α → Action Memory ε β}
    {post' : β → Memory → Prop} (ha : Observes c observed a s post)
    (hnext : ∀ value s', s'.responses = s.responses → post value s' →
      Observes c (next' value) (next value) s' post') :
    Observes c (observed >>= next') (a >>= next) s post' := by
  intro seen
  obtain ⟨exchanges, hobserved, honce, hpost⟩ := ha seen
  rcases h : a s with ⟨e | value, s'⟩ <;> rw [h] at hobserved honce hpost
  · refine ⟨exchanges, ?_, ?_, ?_⟩ <;> rw [Action.bind_of_error h]
    · exact Action.bind_of_error hobserved
    · exact honce
    · rintro _ ⟨⟩
  · obtain ⟨more, hmore, hmoreOnce, hpost'⟩ :=
      hnext value s' honce.responses (hpost value rfl) (exchanges ++ seen)
    refine ⟨more ++ exchanges, ?_, ?_, ?_⟩ <;> rw [Action.bind_of_ok h]
    · rw [Action.bind_of_ok hobserved, hmore, List.append_assoc]
    · exact honce.trans hmoreOnce
    · exact hpost'

/-- What follows a computation without a state has to be observed for its result only. -/
lemma bind_ofExcept {x : Except ε α} {next' : α → Action (Memory × List Exchange) ε β}
    {next : α → Action Memory ε β} {post' : β → Memory → Prop}
    (hnext : ∀ value, x = .ok value → Observes c (next' value) (next value) s post') :
    Observes c (Action.ofExcept x >>= next') (Action.ofExcept x >>= next) s post' := by
  cases x with
  | error e =>
    refine fun seen => ⟨[], rfl, .of_lasts c (refl_of Lasts s), ?_⟩
    rintro _ ⟨⟩
  | ok value => exact hnext value rfl

/-- An action is observed with its errors seen as others. -/
lemma mapError (ha : Observes c observed a s post) (f : ε → ε') :
    Observes c (observed.mapError f) (a.mapError f) s post := by
  intro seen
  obtain ⟨exchanges, hobserved, honce, hpost⟩ := ha seen
  rcases h : a s with ⟨e | value, s'⟩ <;> rw [h] at hobserved honce hpost
  · refine ⟨exchanges, ?_, ?_, ?_⟩ <;> rw [Action.mapError_of_error h]
    · exact Action.mapError_of_error hobserved
    · exact honce
    · rintro _ ⟨⟩
  · refine ⟨exchanges, ?_, ?_, ?_⟩ <;> rw [Action.mapError_of_ok h]
    · exact Action.mapError_of_ok hobserved
    · exact honce
    · rintro _ ⟨⟩
      exact hpost value rfl

/-- A property can be weakened. -/
lemma imp {post' : α → Memory → Prop} (ha : Observes c observed a s post)
    (h : ∀ value s', post value s' → post' value s') : Observes c observed a s post' := by
  intro seen
  obtain ⟨exchanges, hobserved, honce, hpost⟩ := ha seen
  exact ⟨exchanges, hobserved, honce, fun value hvalue => h value _ (hpost value hvalue)⟩

end Observes

end Memory

/-! ## Observed connections -/

open Memory

/-- A connection to a database in memory that can fail at any time, but not so that a table appears
or disappears: a query fails and leaves the tables, or it is answered by the database. -/
structure Connection.SparesTables (c : Connection Memory) : Prop where
  query : ∀ sql bindings s,
    (∃ e s', c.query sql bindings s = (.error e, s') ∧ s'.responses = s.responses ∧
      s'.tableCreated = s.tableCreated) ∨ c.Answers sql bindings s
  connect : c.connect.Within Lasts
  close : c.close.Within Lasts

namespace Connection.SparesTables

/-- A database in memory that also fails in other ways spares the tables. -/
lemma failing (settings : Settings) (grammar : Grammar)
    (fails : Received → Memory → Option ConnectionError) :
    ((Memory.connection settings grammar).failing fails).SparesTables := by
  have hmemory : (Memory.connection settings grammar).InMemory := ⟨_, _, rfl⟩
  refine ⟨fun sql bindings s => ?_, fun s => ?_, fun s => ?_⟩
  · rcases (Memory.connection settings grammar).query_failing fails sql bindings s with
      ⟨e, hquery⟩ | hquery
    · exact Or.inl ⟨e, _, hquery, rfl, rfl⟩
    · rw [Connection.Answers, hquery]
      rcases query_cases hmemory sql bindings s with ⟨e, s', h, rfl | rfl⟩ | h
      · exact Or.inl ⟨e, s', h, rfl, rfl⟩
      · exact Or.inl ⟨e, _, h, rfl, rfl⟩
      · exact Or.inr h
  · simp only [Connection.failing, Memory.connection, Memory.connect]
    split <;> exact .of_eq rfl rfl
  · simp only [Connection.failing, Memory.connection, Memory.close]
    split <;> exact .of_eq rfl rfl

/-- The ledger table lasts on a connection that spares the tables. -/
lemma within_lasts (hc : c.SparesTables) : c.Within Lasts := by
  refine ⟨hc.connect, fun sql bindings s => ?_, hc.close⟩
  rcases hc.query sql bindings s with ⟨e, s', h, hresponses, htable⟩ | h <;> rw [h]
  · exact .of_eq hresponses htable
  · have hreceive : s.Lasts (s.receive ⟨sql, bindings⟩) := .of_eq rfl rfl
    exact trans_of Lasts hreceive (lasts_respond c _ sql bindings)

/-- There is a table once a creation that names it was accepted. -/
lemma tableCreated_of_ok (hc : c.SparesTables) (hs : s.responses = []) {sql : String}
    (hcreation : Text.beginsWith sql "CREATE TABLE" = true)
    (hnamed : Text.contains sql (Ledger.quotedTable c) = true) (bindings : List Sql.Value)
    (hok : (c.query sql bindings s).1.isOk = true) :
    (c.query sql bindings s).2.tableCreated = true := by
  rcases hc.query sql bindings s with ⟨e, s', hquery, -⟩ | hquery
  · rw [hquery] at hok
    cases hok
  · have hreceived : (s.receive ⟨sql, bindings⟩).responses = [] := hs
    have htable := tableCreated_respond (c := c) hreceived sql bindings
    rw [hcreation, hnamed, Bool.and_self, Bool.or_true] at htable
    rw [hquery]
    exact htable

/-- Opening the session is observed. -/
lemma observes_connect (hc : c.SparesTables) (s : Memory) :
    Observes c c.observed.connect c.connect s fun _ _ => True :=
  fun _ => ⟨[], rfl, .of_lasts c (hc.connect s), fun _ _ => trivial⟩

/-- A query is observed if it is no creation, or if it names the ledger table and there is none.  It
gives the rows and the database of its answer. -/
lemma observes_query (hc : c.SparesTables) (hs : s.responses = []) {sql : String}
    (bindings : List Sql.Value)
    (h : Text.beginsWith sql "CREATE TABLE" = true →
      Text.contains sql (Ledger.quotedTable c) = true ∧ s.tableCreated = false) :
    Observes c (c.observed.query sql bindings) (c.query sql bindings) s fun rows s' =>
      (rows, s') = respond c.settings c.grammar sql bindings (s.receive ⟨sql, bindings⟩) := by
  intro seen
  let x : Exchange := ⟨⟨sql, bindings⟩, s, (c.query sql bindings s).1.isOk⟩
  refine ⟨[x], rfl, CreatesOnce.of_exchange (x := x) (hc.within_lasts.query sql bindings s) h
    fun hcreates => ?_, fun rows hrows => ?_⟩
  · obtain ⟨hcreation, hok⟩ := Bool.and_eq_true_iff.mp hcreates
    exact hc.tableCreated_of_ok hs hcreation (h hcreation).1 bindings hok
  · rcases hc.query sql bindings s with ⟨e, s', hquery, -⟩ | hquery <;> rw [hquery] at hrows ⊢ <;>
      cases hrows
    rfl

end Connection.SparesTables

end SchemaLedger
