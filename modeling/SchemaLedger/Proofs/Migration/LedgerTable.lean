import SchemaLedger.Proofs.Database.TableCreation
import SchemaLedger.Proofs.Migration.Bookkeeping

/-!
# One creation of the ledger table

In a history of operations the ledger table is created at most once.  A bootstrap asks whether the
table exists and creates it if it does not, so its exchanges create the table at most once
(`observes_bootstrap`).  All other operations are made of queries, and no query removes a table, so
the table lasts while they are performed (`lasts_perform`).  Each operation thus keeps what is said
of a whole history (`createsOnce_perform`, `createsOnce_performAll`), whichever of its queries
failed and whatever was rejected in between: a creation that failed is tried again by the next
bootstrap, and one that was accepted is never tried again.
-/

namespace SchemaLedger

open Memory

namespace Migrator

/-! ## What operations stay within -/

section Within

variable {σ : Type} {r : σ → σ → Prop} [IsPreorder σ r] {c : Connection σ} {m : Migrator σ}

/-- The question for names stays within what queries stay within. -/
lemma within_names (hc : c.Within r) : (Ledger.names c).Within r :=
  ((hc.query _ _).mapError _).bind fun _ => .result _

/-- The question for change-sets without a record stays within what queries stay within. -/
lemma within_pending (hm : m.connection.Within r) : m.pending.Within r :=
  (within_names hm).bind fun _ => (Action.Within.ofExcept _).bind fun _ => .result _

/-- A preview stays within what queries stay within. -/
lemma within_preview (hm : m.connection.Within r) (summary : Bool) :
    (m.preview summary).Within r :=
  (within_pending hm).bind fun _ => .ofExcept _

/-- The question for the latest records stays within what queries stay within. -/
lemma within_history (hm : m.connection.Within r) (limit : Nat) : (m.history limit).Within r :=
  ((hm.query _ _).mapError _).bind fun _ => .ofExcept _

/-- A recording stays within what queries stay within. -/
lemma within_mark (hm : m.connection.Within r) (p : Pending) (ran : Ran) :
    (m.mark p ran).Within r := by
  have hlookup : (Ledger.isRecorded m.connection p.file).Within r :=
    ((hm.query _ _).mapError _).bind fun _ => .result _
  have hrecord : (Ledger.record m.connection (m.entryOf p ran)).Within r :=
    ((hm.query _ _).mapError _).bind fun _ => .result _
  refine hlookup.bind fun recorded => ?_
  split
  · exact .fail _
  · exact hrecord

/-- The statements of a change-set stay within what queries stay within. -/
lemma within_runStatements (hc : c.Within r) (file : String) (completed : Nat)
    (statements : List String) : (runStatements c file completed statements).Within r := by
  induction statements generalizing completed with
  | nil => exact .result ()
  | cons sql rest ih => exact ((hc.query sql []).mapError _).bind fun _ => ih (completed + 1)

/-- A plan that is carried out stays within what queries stay within. -/
lemma within_carryOut (hm : m.connection.Within r) (skip : List String)
    (planned : List (Pending × List String)) : (m.carryOut skip planned).Within r := by
  induction planned with
  | nil => exact .result _
  | cons item rest ih =>
    obtain ⟨p, statements⟩ := item
    rw [carryOut]
    split
    · exact (within_mark hm p _).bind fun _ => ih.bind fun _ => .result _
    · refine (within_runStatements hm p.file 0 statements).bind fun _ => ?_
      exact (within_mark hm p _).bind fun _ => ih.bind fun _ => .result _

/-- A run stays within what queries stay within. -/
lemma within_run (hm : m.connection.Within r) (skip : List String) : (m.run skip).Within r :=
  (within_pending hm).bind fun _ => (Action.Within.ofExcept _).bind fun _ =>
    within_carryOut hm skip _

end Within

/-! ## Bootstraps -/

/-- The migrator on the observed connection. -/
def observed (m : Migrator Memory) : Migrator (Memory × List Exchange) where
  config := m.config
  connection := m.connection.observed
  loaders := m.loaders
  authors := m.authors
  files := m.files

variable {m : Migrator Memory} {c : Connection Memory} {s : Memory} {stringLength : Nat}

/-- Statements that are no creations are observed when they are sent. -/
lemma observes_sendAll (hc : c.SparesTables) (hs : s.responses = []) {statements : List String}
    (h : ∀ sql ∈ statements, Text.beginsWith sql "CREATE TABLE" = false) :
    Observes c (sendAll c.observed statements) (sendAll c statements) s fun _ _ => True := by
  induction statements generalizing s with
  | nil => exact Observes.result trivial
  | cons sql rest ih =>
    obtain ⟨hsql, hrest⟩ := List.forall_mem_cons.mp h
    have hquery := hc.observes_query hs [] fun hcreation =>
      absurd hcreation (ne_true_of_eq_false hsql)
    exact (hquery.mapError _).bind fun _ s' hkept _ => ih (hkept.trans hs) hrest

/-- The statements that prepare a database create no tables. -/
lemma initialSql_not_creation (tablePrefix : String) (stringLength : Nat) :
    ∀ sql ∈ (Grammar.mysql tablePrefix stringLength).initialSql,
      Text.beginsWith sql "CREATE TABLE" = false := by
  intro sql hsql
  have hmem : sql = MySql.dropAlterFunction ∨ sql = MySql.createAlterFunction := by
    simpa [Grammar.mysql] using hsql
  rcases hmem with rfl | rfl
  · decide
  · have hline : Text.beginsWith MySql.createAlterFunction
        "CREATE FUNCTION `TRAMP_ALTER_COLUMN`(" = true :=
      Text.beginsWith_append_right (Text.beginsWith_join (Text.beginsWith_self _) "\n" _) "\n"
    exact Text.beginsWith_eq_false hline (by decide)

/-- A bootstrap is observed: it creates the ledger table at most once, and there is one afterwards
if it does not fail. -/
theorem observes_bootstrap (hm : m.connection.FindsLedger) (hs : s.responses = []) :
    Observes m.connection m.observed.bootstrap m.bootstrap s
      fun _ s' => s'.tableCreated = true := by
  have hinitial : ∀ sql ∈ m.connection.grammar.initialSql,
      Text.beginsWith sql "CREATE TABLE" = false := by
    obtain ⟨stringLength, hgrammar⟩ := hm.grammar
    rw [hgrammar]
    exact initialSql_not_creation _ _
  refine ((hm.observes_connect s).mapError _).bind fun _ s' hopened _ => ?_
  have hsendAll := observes_sendAll hm.toSparesTables (hopened.trans hs) hinitial
  refine hsendAll.bind fun _ s'' hsent _ => ?_
  exact hm.observes_ensureTable (hsent.trans (hopened.trans hs))

/-- A bootstrap does not fail when the session can be opened and nothing is rejected. -/
theorem bootstrap_ok (hm : m.connection.InMemory) {tablePrefix : String}
    (hgrammar : m.connection.grammar = Grammar.mysql tablePrefix stringLength)
    (hfailConnect : s.failConnect = none) (hfailOn : s.failOn = none) :
    (m.bootstrap s).1 = .ok () := by
  have hsend : ∀ statements, Succeeds (sendAll m.connection statements) := by
    intro statements
    induction statements with
    | nil => exact .result ()
    | cons sql rest ih => exact ((Succeeds.query hm sql []).mapError _).bind fun _ => ih
  have hopened : m.connection.connect s = (.ok (), { s with connected := true }) := by
    obtain ⟨settings, grammar, h⟩ := hm
    simp [h, Memory.connection, Memory.connect, hfailConnect]
  have hrest := (hsend m.connection.grammar.initialSql).bind fun _ =>
    Ledger.succeeds_ensureTable hm hgrammar
  obtain ⟨value, s', h, -⟩ := hrest { s with connected := true } rfl hfailOn
  have hbootstrap : m.bootstrap s = (.ok value, s') :=
    (Action.bind_of_ok (Action.orMigrateError_of_ok hopened)).trans h
  rw [hbootstrap]

/-! ## Histories -/

/-- The exchanges of an operation if it is a bootstrap, last one first. -/
def bootstrapExchanges (m : Migrator Memory) (s : Memory) : Operation → List Exchange
  | .bootstrap => (m.observed.bootstrap (s, [])).2.2
  | _ => []

/-- The exchanges of all bootstraps in a history of operations, last one first. -/
def allBootstrapExchanges (m : Migrator Memory) : Memory → List Operation → List Exchange
  | _, [] => []
  | s, operation :: rest =>
    m.allBootstrapExchanges (m.perform s operation) rest ++ m.bootstrapExchanges s operation

/-- The ledger table lasts while an operation other than a bootstrap is performed. -/
lemma lasts_perform (hm : m.connection.SparesTables) {operation : Operation}
    (hoperation : operation ≠ .bootstrap) (s : Memory) : s.Lasts (m.perform s operation) := by
  have hwithin := hm.within_lasts
  cases operation with
  | bootstrap => exact absurd rfl hoperation
  | run skip => exact within_run hwithin skip s
  | mark p ran => exact within_mark hwithin p ran s
  | pending => exact within_pending hwithin s
  | preview summary => exact within_preview hwithin summary s
  | history limit => exact within_history hwithin limit s
  | close => exact hwithin.close.mapError _ s
  | disturb failOn failConnect failClose => exact .of_eq rfl rfl

/-- The bootstraps among operations create the ledger table at most once: one operation. -/
lemma createsOnce_perform (hm : m.connection.FindsLedger) (hs : s.responses = [])
    (operation : Operation) :
    CreatesOnce m.connection s (m.bootstrapExchanges s operation) (m.perform s operation) := by
  by_cases hoperation : operation = .bootstrap
  · subst hoperation
    obtain ⟨exchanges, hobserved, honce, -⟩ := observes_bootstrap hm hs []
    rw [List.append_nil] at hobserved
    rw [bootstrapExchanges, hobserved]
    exact honce
  · have hnone : m.bootstrapExchanges s operation = [] := by
      cases operation with
      | bootstrap => exact absurd rfl hoperation
      | _ => rfl
    rw [hnone]
    exact .of_lasts _ (lasts_perform hm.toSparesTables hoperation s)

/-- The bootstraps among operations create the ledger table at most once: a whole history. -/
theorem createsOnce_performAll (hm : m.connection.FindsLedger) (hs : s.responses = [])
    (operations : List Operation) :
    CreatesOnce m.connection s (m.allBootstrapExchanges s operations)
      (m.performAll s operations) := by
  induction operations generalizing s with
  | nil => exact .of_lasts _ (refl_of Lasts s)
  | cons operation rest ih =>
    have hstep := createsOnce_perform hm hs operation
    exact hstep.trans (ih (hstep.responses.trans hs))

/-- The ledger table is created at most once, whatever the table prefix is, and in every history of
operations on a database without canned responses, with queries that fail at any time.  A bootstrap
that is observed does what it does otherwise.  What the bootstraps send to create a table names the
ledger table, and the table does not exist when they send it; at most one such statement is
accepted; and after every bootstrap that does not fail the table exists, and goes on to exist. -/
theorem ledgerTable_created_once {settings : Settings} {database : String}
    {fails : Received → Memory → Option ConnectionError}
    (hm : m.connection = (Memory.connection settings
      (Grammar.mysql settings.tablePrefix stringLength)).failing fails)
    (hdatabase : settings.database = some database) (hs : s.responses = [])
    (operations : List Operation) :
    (∀ seen,
      (m.observed.bootstrap (m.performAll s operations, seen)).1 =
        (m.bootstrap (m.performAll s operations)).1 ∧
      (m.observed.bootstrap (m.performAll s operations, seen)).2.1 =
        (m.bootstrap (m.performAll s operations)).2) ∧
    (∀ x ∈ m.allBootstrapExchanges s operations, x.isCreation = true →
      Text.contains x.sent.sql (Ledger.quotedTable m.connection) = true ∧
      x.before.tableCreated = false) ∧
    (m.allBootstrapExchanges s operations).countP Exchange.creates ≤ 1 ∧
    ((m.bootstrap (m.performAll s operations)).1 = .ok () →
      (m.bootstrap (m.performAll s operations)).2.tableCreated = true ∧
      ∀ more, (m.performAll s (operations ++ .bootstrap :: more)).tableCreated = true) := by
  have hfinds : m.connection.FindsLedger := by
    rw [hm]
    exact ⟨.failing settings _ fails, ⟨stringLength, rfl⟩, ⟨database, hdatabase⟩⟩
  have honce := createsOnce_performAll hfinds hs operations
  have hresponses := honce.responses.trans hs
  have hbootstrap := observes_bootstrap hfinds hresponses
  refine ⟨fun seen => ?_, fun x hx hcreation => ?_, honce.countP_creates_le_one, fun hok => ?_⟩
  · obtain ⟨exchanges, hobserved, -⟩ := hbootstrap seen
    rw [hobserved]
    exact ⟨rfl, rfl⟩
  · exact ⟨honce.named x hx hcreation, honce.absent x hx hcreation⟩
  · obtain ⟨exchanges, -, hbootstrapOnce, hpost⟩ := hbootstrap []
    have htable := hpost () hok
    refine ⟨htable, fun more => ?_⟩
    have happend : m.performAll s (operations ++ .bootstrap :: more) =
        m.performAll (m.bootstrap (m.performAll s operations)).2 more := List.foldl_append
    rw [happend]
    have hmore := createsOnce_performAll hfinds (hbootstrapOnce.responses.trans hresponses) more
    exact hmore.lasts.table htable

/-- Settings with a table prefix in which there are a quote, a dot and an alias. -/
def settingsOfPrefix : Settings :=
  { Settings.empty with database := some "app", tablePrefix := "a`b.c as d_" }

/-- The sample with these settings. -/
def sampleOfPrefix : Migrator Memory :=
  { sampleOfThree with
    connection := (Memory.connection settingsOfPrefix
      (Grammar.mysql settingsOfPrefix.tablePrefix MySql.defaultStringLength)).failing
        fun _ _ => none }

/-- Operations after which nothing is rejected any more, but the creation of the table was. -/
def rejectedCreation : List Operation :=
  [.disturb (some "CREATE TABLE") none none, .bootstrap, .disturb none none none]

/-- The table of the sample is created by the bootstrap after a rejected creation, and is still
there after a run and another bootstrap; at most one creation was accepted, and none was tried while
there was a table. -/
theorem ledgerTable_created_once_rejection :
    let operations := rejectedCreation ++ [.bootstrap, .run ["2.json"], .close, .bootstrap]
    (sampleOfPrefix.performAll Memory.fresh operations).tableCreated = true ∧
    (sampleOfPrefix.allBootstrapExchanges Memory.fresh operations).countP Exchange.creates ≤ 1 ∧
    ∀ x ∈ sampleOfPrefix.allBootstrapExchanges Memory.fresh operations,
      x.isCreation = true → x.before.tableCreated = false := by
  intro operations
  have hm : sampleOfPrefix.connection = (Memory.connection settingsOfPrefix (Grammar.mysql
      settingsOfPrefix.tablePrefix MySql.defaultStringLength)).failing (fun _ _ => none) := rfl
  have hdatabase : settingsOfPrefix.database = some "app" := rfl
  have hresponses : Memory.fresh.responses = [] := rfl
  have honce := ledgerTable_created_once hm hdatabase hresponses operations
  refine ⟨?_, honce.2.2.1, fun x hx hcreation => (honce.2.1 x hx hcreation).2⟩
  have hok : (sampleOfPrefix.bootstrap
      (sampleOfPrefix.performAll Memory.fresh rejectedCreation)).1 = .ok () := by
    have hmemory : sampleOfPrefix.connection.InMemory := ⟨settingsOfPrefix, _, rfl⟩
    exact bootstrap_ok hmemory rfl rfl rfl
  have hcreated := ledgerTable_created_once hm hdatabase hresponses rejectedCreation
  exact (hcreated.2.2.2 hok).2 [.run ["2.json"], .close, .bootstrap]

end Migrator

end SchemaLedger
