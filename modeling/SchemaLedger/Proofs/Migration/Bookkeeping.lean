import SchemaLedger.Proofs.Database.Quiet
import SchemaLedger.Proofs.Migration.Progress

/-!
# Bookkeeping

What every history of operations keeps.  Most operations are quiet: they leave the records, because
each of their statements begins with words that are not those of an insertion.  Only a run and a
recording add records, at the end and with names that have no record yet, so every operation lets
the ledger grow (`Memory.Grows`, `grows_perform`), and so does every history (`grows_performAll`).
Any query can fail at any time, and the failures can change between two operations.
-/

namespace SchemaLedger

open Memory

variable {c : Connection Memory}

namespace Migrator

/-- Statements with first words are quiet when they are sent. -/
lemma quiet_sendAll (hc : c.Unreliable) {statements : List String}
    (h : ∀ sql ∈ statements, MySql.HasFirstWord sql) : Quiet (sendAll c statements) := by
  induction statements with
  | nil => exact Quiet.result ()
  | cons sql rest ih =>
    have hsql := Quiet.query_of_firstWord hc (h sql List.mem_cons_self) []
    refine (hsql.mapError _).bind fun _ => ih fun sql hsql => ?_
    exact h sql (List.mem_cons_of_mem _ hsql)

variable {m : Migrator Memory} {s s' : Memory}

/-- Opening the session and preparing the database is quiet. -/
lemma quiet_bootstrap (hm : m.connection.Unreliable) {tablePrefix : String} {stringLength : Nat}
    (hgrammar : m.connection.grammar = Grammar.mysql tablePrefix stringLength) :
    Quiet m.bootstrap := by
  have hconnect : Quiet m.connection.connect := hm.connect
  refine (hconnect.mapError _).bind fun _ => Quiet.bind (quiet_sendAll hm ?_) fun _ => ?_
  · rw [hgrammar]
    exact MySql.firstWord_initialSql tablePrefix stringLength
  · exact Ledger.quiet_ensureTable hm hgrammar

/-! ## Questions to the ledger -/

/-- The question for names is quiet. -/
lemma quiet_names (hc : c.Unreliable) : Quiet (Ledger.names c) := by
  have hwords : Text.beginsWith (Ledger.namesSql c) "SELECT migration FROM " = true :=
    Text.beginsWith_append _ _
  have hquery := Quiet.query_of_differ hc hwords (by decide) []
  exact (hquery.mapError _).bind fun _ => .result _

/-- The question for the latest records is quiet. -/
lemma quiet_history (hm : m.connection.Unreliable) (limit : Nat) : Quiet (m.history limit) := by
  have hwords : Text.beginsWith (Ledger.recentSql m.connection) "SELECT * FROM " = true :=
    Text.beginsWith_append_right (Text.beginsWith_append _ _) _
  have hquery := Quiet.query_of_differ hm hwords (by decide) [.int limit]
  exact (hquery.mapError _).bind fun _ => .ofExcept _

/-- The question for change-sets without a record is quiet. -/
lemma quiet_pending (hm : m.connection.Unreliable) : Quiet m.pending :=
  (quiet_names hm).bind fun _ => Quiet.bind (.ofExcept _) fun _ => .result _

/-- A preview is quiet. -/
lemma quiet_preview (hm : m.connection.Unreliable) (summary : Bool) :
    Quiet (m.preview summary) :=
  (quiet_pending hm).bind fun _ => .ofExcept _

/-! ## Operations -/

/-- What can happen to a migrator: an operation, or a change of what its database rejects. -/
inductive Operation where
  | bootstrap
  | run (skip : List String)
  | mark (p : Pending) (ran : Ran)
  | pending
  | preview (summary : Bool)
  | history (limit : Nat)
  | close
  | disturb (failOn failConnect failClose : Option String)
  deriving DecidableEq, Repr

/-- The database after an operation, whether it succeeded or not. -/
def perform (m : Migrator Memory) (s : Memory) : Operation → Memory
  | .bootstrap => (m.bootstrap s).2
  | .run skip => (m.run skip s).2
  | .mark p ran => (m.mark p ran s).2
  | .pending => (m.pending s).2
  | .preview summary => (m.preview summary s).2
  | .history limit => (m.history limit s).2
  | .close => (m.close s).2
  | .disturb failOn failConnect failClose =>
    { s with failOn := failOn, failConnect := failConnect, failClose := failClose }

/-- The database after operations one after another. -/
def performAll (m : Migrator Memory) (s : Memory) (operations : List Operation) : Memory :=
  operations.foldl m.perform s

end Migrator

namespace Memory

/-- The ledger grows: records are added at the end only, and no name twice. -/
structure Grows (s s' : Memory) : Prop where
  responses : s'.responses = s.responses
  records : s.records <+: s'.records
  nodup : s.names.Nodup → s'.names.Nodup

namespace Grows

variable {s s' s'' : Memory}

/-- A ledger grows when nothing is added. -/
lemma of_records_eq (hresponses : s'.responses = s.responses) (h : s'.records = s.records) :
    s.Grows s' := by
  refine ⟨hresponses, ⟨[], ?_⟩, fun hnodup => ?_⟩
  · rw [List.append_nil, h]
  · rwa [names, h]

/-- A ledger grows when records of new and distinct names are added. -/
lemma of_records_append {entries : List LedgerEntry} (hresponses : s'.responses = s.responses)
    (h : s'.records = s.records ++ entries)
    (hdistinct : (entries.map LedgerEntry.migration).Nodup)
    (hnew : ∀ entry ∈ entries, entry.migration ∉ s.names) : s.Grows s' := by
  refine ⟨hresponses, ?_, fun hnodup => ?_⟩
  · rw [h]
    exact List.prefix_append _ _
  · rw [names, h, List.map_append, List.nodup_append]
    refine ⟨hnodup, hdistinct, fun name hname other hother heq => ?_⟩
    obtain ⟨entry, hentry, rfl⟩ := List.mem_map.mp hother
    exact hnew entry hentry (heq ▸ hname)

/-- What grows twice in a row grows. -/
lemma trans (h : s.Grows s') (h' : s'.Grows s'') : s.Grows s'' :=
  ⟨h'.responses.trans h.responses, h.records.trans h'.records,
    fun hnodup => h'.nodup (h.nodup hnodup)⟩

end Grows

/-- A quiet action lets the ledger grow. -/
lemma Quiet.grows {ε α : Type} {a : Action Memory ε α} (ha : Quiet a) (s : Memory) :
    s.Grows (a s).2 :=
  .of_records_eq (ha s).2 (ha s).1

end Memory

namespace Migrator

variable {m : Migrator Memory} {s : Memory}

/-- A recording lets the ledger grow. -/
lemma grows_mark (hm : m.connection.Unreliable) (hs : s.responses = []) (p : Pending)
    (ran : Ran) : s.Grows (m.mark p ran s).2 := by
  obtain ⟨hkeeps, ⟨-, hp, hrecords⟩ | ⟨e, -, hrecords, -⟩⟩ := mark_cases hm hs p ran
  · refine .of_records_append hkeeps.responses hrecords (List.nodup_singleton _) ?_
    intro entry hentry
    obtain rfl := List.mem_singleton.mp hentry
    exact hp
  · exact .of_records_eq hkeeps.responses hrecords

/-- A run lets the ledger grow. -/
lemma grows_run (hm : m.connection.Unreliable) (hs : s.responses = []) (hspares : m.SparesLedger)
    (skip : List String) : s.Grows (m.run skip s).2 := by
  obtain ⟨hkeeps, ⟨e, -, hrecords⟩ | ⟨done, rest, hfound, -, hrecords, -⟩⟩ :=
    run_progress hm hs hspares skip
  · exact .of_records_eq hkeeps.responses hrecords
  · have hascending := pairwise_lt_of_unrecorded hfound
    rw [List.map_append] at hascending
    have hdone := List.pairwise_map.mp (List.pairwise_append.mp hascending).1
    refine .of_records_append hkeeps.responses hrecords ?_ ?_
    · rw [List.map_map]
      exact List.pairwise_map.mpr (hdone.imp ne_of_lt)
    · intro entry hentry
      obtain ⟨item, hitem, rfl⟩ := List.mem_map.mp hentry
      have hmem : item.1 ∈ (done ++ rest).map Prod.fst :=
        List.mem_map_of_mem (List.mem_append_left _ hitem)
      exact (file_fresh_of_unrecorded hfound hmem).2

/-- Every operation lets the ledger grow. -/
theorem grows_perform (hm : m.connection.Unreliable) {tablePrefix : String} {stringLength : Nat}
    (hgrammar : m.connection.grammar = Grammar.mysql tablePrefix stringLength)
    (hs : s.responses = []) (hspares : m.SparesLedger) (operation : Operation) :
    s.Grows (m.perform s operation) := by
  cases operation with
  | bootstrap => exact (quiet_bootstrap hm hgrammar).grows s
  | run skip => exact grows_run hm hs hspares skip
  | mark p ran => exact grows_mark hm hs p ran
  | pending => exact (quiet_pending hm).grows s
  | preview summary => exact (quiet_preview hm summary).grows s
  | history limit => exact (quiet_history hm limit).grows s
  | close =>
    have hclose : Quiet m.connection.close := hm.close
    exact (hclose.mapError _).grows s
  | disturb failOn failConnect failClose => exact .of_records_eq rfl rfl

/-- Every history lets the ledger grow. -/
theorem grows_performAll (hm : m.connection.Unreliable) {tablePrefix : String}
    {stringLength : Nat}
    (hgrammar : m.connection.grammar = Grammar.mysql tablePrefix stringLength)
    (hs : s.responses = []) (hspares : m.SparesLedger) (operations : List Operation) :
    s.Grows (m.performAll s operations) := by
  induction operations generalizing s with
  | nil => exact .of_records_eq rfl rfl
  | cons operation rest ih =>
    have hstep := grows_perform hm hgrammar hs hspares operation
    exact hstep.trans (ih (hstep.responses.trans hs))

/-! ## Histories -/

/-- The bookkeeping of a migrator is in order in some state. -/
structure InOrder (m : Migrator Memory) (s : Memory) : Prop where
  /-- No name is recorded twice. -/
  nodup : s.names.Nodup
  /-- The question for a name says whether a record has it, when it is accepted. -/
  isRecorded : ∀ name, m.connection.Accepts (Ledger.lookupSql m.connection) [.text name] s →
    (Ledger.isRecorded m.connection name s).1 = .ok (decide (name ∈ s.names))
  /-- The question for names gives the names of the records, when it is accepted. -/
  names : m.connection.Accepts (Ledger.namesSql m.connection) [] s →
    (Ledger.names m.connection s).1 = .ok s.names
  /-- The two questions agree. -/
  agree : ∀ name answer known, (Ledger.isRecorded m.connection name s).1 = .ok answer →
    (Ledger.names m.connection s).1 = .ok known → (answer = true ↔ name ∈ known)
  /-- Recording a change-set adds its record at the end, or fails and leaves the records; it fails
  because of a record exactly if the question for the name is accepted and there is one. -/
  mark : ∀ p ran,
    ((m.mark p ran s).1 = .ok () ∧
      (m.mark p ran s).2.records = s.records ++ [m.entryOf p ran]) ∨
    ∃ e, (m.mark p ran s).1 = .error e ∧ (m.mark p ran s).2.records = s.records ∧
      (e = .alreadyMigrated p.file ↔
        m.connection.Accepts (Ledger.lookupSql m.connection) [.text p.file] s ∧
          p.file ∈ s.names)

/-- The bookkeeping is in order when no name is recorded twice. -/
lemma inOrder_of_nodup (hm : m.connection.Unreliable) (hs : s.responses = [])
    (hnodup : s.names.Nodup) : m.InOrder s := by
  have hlookup := Ledger.isRecorded_cases hm hs
  have hnames := Ledger.names_cases hm hs
  refine ⟨hnodup, fun name haccepts => ?_, fun haccepts => ?_, ?_, fun p ran => ?_⟩
  · rcases hlookup name with ⟨e, s', -, -, -, hfails⟩ | ⟨h, -⟩
    · exact absurd haccepts hfails
    · rw [h]
  · rcases hnames with ⟨e, s', -, -, -, hfails⟩ | h
    · exact absurd haccepts hfails
    · rw [h]
  · intro name answer known hanswer hknown
    rcases hlookup name with ⟨e, s', h, -⟩ | ⟨h, -⟩ <;> rw [h] at hanswer <;> cases hanswer
    rcases hnames with ⟨e, s', h, -⟩ | h <;> rw [h] at hknown <;> cases hknown
    exact decide_eq_true_iff
  · obtain ⟨-, ⟨hok, -, hrecords⟩ | hfails⟩ := mark_cases hm hs p ran
    · exact Or.inl ⟨hok, hrecords⟩
    · exact Or.inr hfails

/-- The bookkeeping is in order after every history of operations that starts with distinct names,
in any order and whichever of their queries failed, and later operations never change, remove or
move a record: the records are the first ones of all later lists of records. -/
theorem inOrder_performAll {settings : Settings} {tablePrefix : String} {stringLength : Nat}
    {fails : Received → Memory → Option ConnectionError}
    (hm : m.connection =
      (Memory.connection settings (Grammar.mysql tablePrefix stringLength)).failing fails)
    (hs : s.responses = []) (hnames : s.names.Nodup) (hspares : m.SparesLedger)
    (operations : List Operation) :
    m.InOrder (m.performAll s operations) ∧
    ∀ more, (m.performAll s operations).records <+:
      (m.performAll s (operations ++ more)).records := by
  have hunreliable : m.connection.Unreliable := by
    rw [hm]
    exact Connection.Unreliable.failing (Connection.InMemory.unreliable ⟨_, _, rfl⟩) fails
  have hgrammar : m.connection.grammar = Grammar.mysql tablePrefix stringLength := by
    rw [hm]
    rfl
  have hgrows := grows_performAll hunreliable hgrammar hs hspares operations
  have hresponses := hgrows.responses.trans hs
  refine ⟨inOrder_of_nodup hunreliable hresponses (hgrows.nodup hnames), fun more => ?_⟩
  have happend : m.performAll s (operations ++ more) =
      m.performAll (m.performAll s operations) more := List.foldl_append
  rw [happend]
  exact (grows_performAll hunreliable hgrammar hresponses hspares more).records

/-- A history of the sample: a run that is interrupted, a recording, a run that is not interrupted,
and the same recording once more. -/
def sampleHistory : List Operation :=
  [.disturb (some "!") none none, .bootstrap, .run ["1.json"], .disturb none none none,
    .mark ⟨⟨"/m"⟩, "2.json"⟩ .skipped, .run [], .mark ⟨⟨"/m"⟩, "2.json"⟩ .skipped, .close]

/-- The bookkeeping is in order after the history of the sample, which starts with a record. -/
theorem inOrder_performAll_sample :
    sampleOfThree.InOrder
      (sampleOfThree.performAll (openMemory none [⟨"0.json", "", "", ""⟩]) sampleHistory) ∧
    ⟨"0.json", "", "", ""⟩ ∈
      (sampleOfThree.performAll (openMemory none [⟨"0.json", "", "", ""⟩])
        sampleHistory).records := by
  have hm : sampleOfThree.connection = (Memory.connection .empty
      (Grammar.mysql "" MySql.defaultStringLength)).failing (fun _ _ => none) := rfl
  have hinOrder := inOrder_performAll hm
    (ready_openMemory none [⟨"0.json", "", "", ""⟩]).responses (by decide)
    sparesLedger_sampleOfThree
  refine ⟨(hinOrder sampleHistory).1, ?_⟩
  exact ((hinOrder []).2 sampleHistory).subset List.mem_cons_self

end Migrator

end SchemaLedger
