import SchemaLedger.Proofs.Database.History
import SchemaLedger.Proofs.Migration.Bookkeeping
import SchemaLedger.Proofs.Migration.Trace

/-!
# Records of skipped change-sets

The ledger keeps what was done for a change-set as one text: its statements, or a word when it was
skipped.  The word is an ordinary text, so a change-set that runs the word itself leaves the same
record as one that was skipped.  It is the only one (`Ran.toText_eq_skippedText`): two statements or
more have a line feed between them, and the word has none.

`Migrator.run_accounts` follows the two texts through a run.  The change-sets that a run records are
a first part of its plan; those to skip sent no statement and the others sent all of theirs
(`carryOut_accounts`), and the record of each is read back as skipped exactly if it was to be
skipped or had the word as its only statement.
-/

namespace SchemaLedger

/-! ## The word for skipped change-sets -/

/-- Texts with blank lines between neighbours are a word exactly if the word is the only text. -/
lemma Text.join_eq_word_iff {word : String} (hword : word ≠ "") (hline : '\n' ∉ word.toList)
    {texts : List String} : Text.join "\n\n" texts = word ↔ texts = [word] := by
  constructor
  · intro h
    match texts with
    | [] => exact absurd h.symm hword
    | [text] => rw [← h, Text.join_singleton]
    | text :: next :: rest =>
      refine absurd ?_ hline
      rw [← h, Text.join]
      simp
  · rintro rfl
    exact Text.join_singleton _ _

/-- What is kept for a change-set is the word for skipped ones exactly if it was skipped, or ran the
word as its only statement. -/
theorem Ran.toText_eq_skippedText {ran : Ran} :
    ran.toText = Ran.skippedText ↔ ran = .skipped ∨ ran = .statements [Ran.skippedText] := by
  cases ran with
  | skipped => simp [Ran.toText]
  | statements sql =>
    rw [Ran.toText, Text.join_eq_word_iff (by decide) (by decide)]
    simp

/-! ## Records with a name -/

namespace Memory

/-- The records with a name, in order. -/
def named (s : Memory) : List LedgerEntry := s.records.filter fun r => r.migration ≠ ""

variable {c : Connection Memory} {s s' : Memory}

/-- The same records have the same names. -/
lemma named_of_records_eq (h : s'.records = s.records) : s'.named = s.named := by
  rw [named, h, named]

/-- A record with a name is added to those with a name. -/
lemma named_of_records_append {entry : LedgerEntry} (h : s'.records = s.records ++ [entry])
    (hname : entry.migration ≠ "") : s'.named = s.named ++ [entry] := by
  rw [named, h, List.filter_append, List.filter_singleton, named]
  simp [hname]

/-- A statement without bindings adds no record with a name. -/
lemma named_query_nil (hc : c.Unreliable) (sql : String) (s : Memory) :
    (c.query sql [] s).2.named = s.named := by
  rcases hc.query sql [] s with ⟨e, s', h, -, hrecords⟩ | h <;> rw [h]
  · exact named_of_records_eq hrecords
  · rcases respond_cases c (s.receive ⟨sql, []⟩) sql [] with h | ⟨-, -, h⟩ | ⟨-, h⟩ <;> rw [h]
    · rfl
    · rfl
    · simp [named, insertion_nil]

end Memory

namespace Migrator

/-! ## The statements of one change-set among those of a run -/

/-- The statements of a change-set among some queries. -/
def statementsOf (file : String) (queries : List RunQuery) : List String :=
  queries.filterMap fun
    | .statement file' _ sql => if file' = file then some sql else none
    | .ledger _ _ => none

section Queries

variable {σ : Type} {m : Migrator σ} {file : String}

/-- The statements among queries are those among a first part and then the others. -/
lemma statementsOf_append (queries more : List RunQuery) :
    statementsOf file (queries ++ more) = statementsOf file queries ++ statementsOf file more :=
  List.filterMap_append

/-- Queries without statements of a change-set do not send any. -/
lemma statementsOf_sent_eq_nil (s : Memory) {queries : List RunQuery}
    (h : statementsOf file queries = []) : statementsOf file (s.sent queries) = [] := by
  have hprefix : statementsOf file (s.sent queries) <+: statementsOf file queries :=
    (s.sent_prefix queries).filterMap _
  rw [h] at hprefix
  exact List.prefix_nil.mp hprefix

/-- The queries for the statements of a change-set are for none of another one. -/
lemma statementsOf_statementQueries (other : String) (completed : Nat) (statements : List String) :
    statementsOf file (statementQueries other completed statements) =
      if other = file then statements else [] := by
  induction statements generalizing completed with
  | nil => exact (ite_self []).symm
  | cons sql rest ih =>
    have hrest := ih (completed + 1)
    rw [statementQueries, statementsOf] at hrest ⊢
    rw [List.zipIdx_cons, List.map_cons, List.filterMap_cons, hrest]
    by_cases hfile : other = file
    · simp only [if_pos hfile]
    · simp only [if_neg hfile]

/-- A change-set sends the statements that it has, unless it is one to skip. -/
lemma statementsOf_stepQueries (skip : List String) (p : Pending) (statements : List String) :
    statementsOf file (m.stepQueries skip p statements) =
      if p.file = file ∧ p.file ∉ skip then statements else [] := by
  have hmark : ∀ ran, statementsOf file (m.markQueries p ran) = [] := fun _ => rfl
  by_cases hskip : p.file ∈ skip
  · rw [stepQueries, if_pos (List.contains_iff_mem.mpr hskip), hmark,
      if_neg fun h => h.2 hskip]
  · rw [stepQueries, if_neg fun h => hskip (List.contains_iff_mem.mp h), statementsOf_append,
      statementsOf_statementQueries, hmark, List.append_nil]
    simp only [hskip, not_false_eq_true, and_true]

/-- A plan is the queries of its first change-set and of the others. -/
lemma planQueries_cons (skip : List String) (item : Pending × List String)
    (rest : List (Pending × List String)) :
    m.planQueries skip (item :: rest) =
      m.stepQueries skip item.1 item.2 ++ m.planQueries skip rest := rfl

/-- A plan without a change-set sends none of its statements. -/
lemma statementsOf_planQueries_eq_nil (skip : List String)
    {planned : List (Pending × List String)} (h : ∀ item ∈ planned, item.1.file ≠ file) :
    statementsOf file (m.planQueries skip planned) = [] := by
  induction planned with
  | nil => rfl
  | cons item rest ih =>
    have hrest := ih fun other hother => h other (List.mem_cons_of_mem _ hother)
    have hitem := h item List.mem_cons_self
    rw [planQueries_cons, statementsOf_append, hrest, statementsOf_stepQueries,
      if_neg fun heq => hitem heq.1, List.append_nil]

/-- A plan of distinct change-sets sends the statements that each of them has, unless it is one to
skip. -/
lemma statementsOf_planQueries (skip : List String) {planned : List (Pending × List String)}
    (hdistinct : (planned.map fun item => item.1.file).Nodup) {item : Pending × List String}
    (hitem : item ∈ planned) :
    statementsOf item.1.file (m.planQueries skip planned) =
      if item.1.file ∈ skip then [] else item.2 := by
  induction planned with
  | nil => exact absurd hitem List.not_mem_nil
  | cons first rest ih =>
    rw [List.map_cons, List.nodup_cons] at hdistinct
    rw [planQueries_cons, statementsOf_append, statementsOf_stepQueries]
    rcases List.mem_cons.mp hitem with rfl | hitem
    · have hrest : ∀ other ∈ rest, other.1.file ≠ item.1.file := fun other hother heq =>
        hdistinct.1 (List.mem_map.mpr ⟨other, hother, heq⟩)
      rw [statementsOf_planQueries_eq_nil skip hrest, List.append_nil]
      by_cases hskip : item.1.file ∈ skip <;> simp [hskip]
    · have hfirst : first.1.file ≠ item.1.file := fun heq =>
        hdistinct.1 (List.mem_map.mpr ⟨item, hitem, heq.symm⟩)
      rw [if_neg fun h => hfirst h.1, ih hdistinct.2 hitem, List.nil_append]

end Queries

/-! ## The change-sets that a run records -/

variable {c : Connection Memory} {m : Migrator Memory} {s : Memory}

/-- The statements of a change-set add no record with a name. -/
lemma named_runStatements (hc : c.Unreliable) (file : String) (completed : Nat)
    (statements : List String) (s : Memory) :
    (runStatements c file completed statements s).2.named = s.named := by
  induction statements generalizing s completed with
  | nil => rfl
  | cons sql rest ih =>
    have hnamed := Memory.named_query_nil hc sql s
    rcases hquery : c.query sql [] s with ⟨e | rows, s'⟩ <;> rw [hquery] at hnamed
    · rw [runStatements_cons_of_error hquery]
      exact hnamed
    · rw [runStatements_cons_of_ok hquery, ih]
      exact hnamed

/-- Carrying out a change-set without a record adds its record and had all its queries accepted, or
it fails and adds no record with a name. -/
theorem step_accounts (hm : m.connection.InMemory) (hs : s.Ready) (skip : List String)
    {item : Pending × List String} (hname : item.1.file ≠ "") (hfree : item.1.file ∉ s.names) :
    ((m.step skip item.1 item.2 s).1 = .ok () ∧
        (∀ q ∈ m.stepQueries skip item.1 item.2, s.rejects q.sql = false) ∧
        (m.step skip item.1 item.2 s).2.named = s.named ++ [m.entryFor skip item]) ∨
      ∃ e, (m.step skip item.1 item.2 s).1 = .error e ∧
        (m.step skip item.1 item.2 s).2.named = s.named := by
  have hsends := sends_step hm hs skip hname hfree item.2
  obtain ⟨-, between, hbetween, hstep⟩ := step_records hm.unreliable hs.responses skip item
  have hnamed : between.named = s.named := by
    rcases hbetween with rfl | rfl
    · rfl
    · exact named_runStatements hm.unreliable item.1.file 0 item.2 s
  rcases hstep with ⟨hok, hrecords⟩ | ⟨e, herror, hrecords⟩
  · refine Or.inl ⟨hok, hsends.accepts_of_ok hok, ?_⟩
    rw [Memory.named_of_records_append hrecords hname, hnamed]
  · refine Or.inr ⟨e, herror, ?_⟩
    rw [Memory.named_of_records_eq hrecords, hnamed]

/-- Carrying out a plan of distinct change-sets without records adds the records of a first part of
it, which had all its queries accepted and is all of it unless it fails. -/
theorem carryOut_accounts (hm : m.connection.InMemory) (hs : s.Ready) (skip : List String)
    {planned : List (Pending × List String)}
    (hfresh : ∀ item ∈ planned, item.1.file ≠ "" ∧ item.1.file ∉ s.names)
    (hdistinct : (planned.map fun item => item.1.file).Nodup) :
    ∃ done rest, planned = done ++ rest ∧
      (∀ q ∈ m.planQueries skip done, s.rejects q.sql = false) ∧
      (m.carryOut skip planned s).2.named = s.named ++ done.map (m.entryFor skip) ∧
      ∀ summary, (m.carryOut skip planned s).1 = .ok summary → rest = [] := by
  induction planned generalizing s with
  | nil =>
    exact ⟨[], [], rfl, fun q hq => absurd hq List.not_mem_nil, (List.append_nil _).symm,
      fun _ _ => rfl⟩
  | cons item rest ih =>
    rw [List.map_cons, List.nodup_cons] at hdistinct
    obtain ⟨hname, hfree⟩ := hfresh item List.mem_cons_self
    have hkeeps := (sends_step hm hs skip hname hfree item.2).keeps
    have hstep := step_accounts hm hs skip hname hfree
    have hleft := fresh_step hm.unreliable hs.responses skip hfresh hdistinct.1
    rcases hresult : m.step skip item.1 item.2 s with ⟨result, s'⟩
    rw [hresult] at hkeeps hstep hleft
    rcases hstep with ⟨hok, haccepts, hnamed⟩ | ⟨e, herror, hnamed⟩
    · obtain rfl : result = .ok () := hok
      obtain ⟨done, left, rfl, hqueries, hadded, hend⟩ :=
        ih (hkeeps.ready hs) hleft hdistinct.2
      have hall : s'.named ++ done.map (m.entryFor skip) =
          s.named ++ (item :: done).map (m.entryFor skip) := by
        rw [show s'.named = s.named ++ [m.entryFor skip item] from hnamed]
        simp
      have hboth : ∀ q ∈ m.planQueries skip (item :: done), s.rejects q.sql = false := by
        intro q hq
        rw [planQueries_cons] at hq
        rcases List.mem_append.mp hq with hq | hq
        · exact haccepts q hq
        · rw [← hkeeps.rejects_eq]
          exact hqueries q hq
      rw [carryOut_cons_of_ok hresult]
      refine ⟨item :: done, left, rfl, hboth, hadded.trans hall, ?_⟩
      intro summary h
      cases hcarry : (m.carryOut skip (done ++ left) s').1 with
      | error e =>
        rw [hcarry] at h
        cases h
      | ok summary' => exact hend summary' hcarry
    · obtain rfl : result = .error e := herror
      rw [carryOut_cons_of_error hresult]
      exact ⟨[], item :: rest, rfl, fun q hq => absurd hq List.not_mem_nil,
        hnamed.trans (List.append_nil _).symm, fun summary h => by cases h⟩

/-! ## What the record of a change-set says -/

/-- A record has the entry of a change-set, and it says that the change-set was skipped exactly if
it was to be skipped or had the word for skipped ones as its only statement. -/
def IsRecordOf (m : Migrator Memory) (skip : List String) (item : Pending × List String)
    (r : LedgerRecord) : Prop :=
  r.toLedgerEntry = m.entryFor skip item ∧
    (r.isSkipped = true ↔ item.1.file ∈ skip ∨ item.2 = [Ran.skippedText])

/-- The entry of a change-set says by itself whether the change-set counts as skipped. -/
lemma isRecordOf_of_entry {skip : List String} {item : Pending × List String} {r : LedgerRecord}
    (h : r.toLedgerEntry = m.entryFor skip item) : m.IsRecordOf skip item r := by
  refine ⟨h, ?_⟩
  rw [LedgerRecord.isSkipped, h, beq_iff_eq, entryFor, entryOf, Ran.toText_eq_skippedText]
  by_cases hskip : item.1.file ∈ skip
  · simp [hskip]
  · simp [hskip]

/-- A record of the name of a change-set that was recorded last is its record. -/
lemma isRecordOf_of_mem {skip : List String} {done : List (Pending × List String)} {s s' : Memory}
    (hnamed : s'.named = s.named ++ done.map (m.entryFor skip))
    (hfresh : ∀ item ∈ done, item.1.file ≠ "" ∧ item.1.file ∉ s.names)
    (hdistinct : (done.map fun item => item.1.file).Nodup) {item : Pending × List String}
    (hitem : item ∈ done) {r : LedgerRecord} (hr : r.toLedgerEntry ∈ s'.records)
    (hname : r.migration = item.1.file) : m.IsRecordOf skip item r := by
  obtain ⟨hfile, hfree⟩ := hfresh item hitem
  have hmem : r.toLedgerEntry ∈ s'.named :=
    List.mem_filter.mpr ⟨hr, decide_eq_true (hname ▸ hfile)⟩
  rw [hnamed] at hmem
  rcases List.mem_append.mp hmem with hmem | hmem
  · exact absurd (List.mem_map.mpr ⟨_, List.mem_of_mem_filter hmem, hname⟩) hfree
  · obtain ⟨other, hother, heq⟩ := List.mem_map.mp hmem
    have hfiles : other.1.file = item.1.file := by
      rw [← hname, ← heq, migration_entryFor]
    obtain rfl := List.inj_on_of_nodup_map hdistinct hother hitem hfiles
    exact isRecordOf_of_entry heq.symm

/-- What is true of a change-set that a run recorded, with the queries that the run sent and the
database after it. -/
structure Accounted (m : Migrator Memory) (skip : List String) (item : Pending × List String)
    (queries : List RunQuery) (s : Memory) : Prop where
  /-- No statement of it was sent if it was to be skipped, and else all of them were. -/
  statements : statementsOf item.1.file queries = if item.1.file ∈ skip then [] else item.2
  /-- A row with its entry, a number and a time is read back as its record. -/
  row : ∀ row id time ranAt, (m.entryFor skip item).IsRow row → row.int? "id" = some id →
    row.get? "ran_at" = some (.text time) → Timestamp.ofText time = .ok ranAt →
    ∃ r, LedgerRecord.ofRow row = .ok r ∧ m.IsRecordOf skip item r
  /-- A record of its name in the history is its record. -/
  history : ∀ limit found, (m.history limit s).1 = .ok found → ∀ r ∈ found,
    r.migration = item.1.file → m.IsRecordOf skip item r

/-- The change-sets of a first part of a plan are accounted for, when none of their queries was
rejected and their records were added last. -/
lemma accounted_of_mem (hm : m.connection.InMemory) {skip : List String}
    {done rest : List (Pending × List String)} {s s' : Memory} (hs' : s'.responses = [])
    (haccepts : ∀ q ∈ m.planQueries skip done, s.rejects q.sql = false)
    (hnamed : s'.named = s.named ++ done.map (m.entryFor skip))
    (hfresh : ∀ item ∈ done, item.1.file ≠ "" ∧ item.1.file ∉ s.names)
    (hdistinct : ((done ++ rest).map fun item => item.1.file).Nodup)
    {item : Pending × List String} (hitem : item ∈ done) :
    m.Accounted skip item (s.sent (m.planQueries skip (done ++ rest))) s' := by
  rw [List.map_append, List.nodup_append] at hdistinct
  obtain ⟨hdone, -, hdisjoint⟩ := hdistinct
  refine ⟨?_, fun row id time ranAt hrow hid htime hranAt => ?_, fun limit found h r hr hname => ?_⟩
  · have hqueries : m.planQueries skip (done ++ rest) =
        m.planQueries skip done ++ m.planQueries skip rest := List.flatMap_append
    have hnone := Memory.firstRejected_eq_none.mpr haccepts
    have hothers : ∀ other ∈ rest, other.1.file ≠ item.1.file := fun other hother heq =>
      hdisjoint item.1.file (List.mem_map.mpr ⟨item, hitem, rfl⟩) other.1.file
        (List.mem_map.mpr ⟨other, hother, rfl⟩) heq.symm
    have hrest : statementsOf item.1.file (s.sent (m.planQueries skip rest)) = [] :=
      statementsOf_sent_eq_nil s (statementsOf_planQueries_eq_nil skip hothers)
    rw [hqueries, Memory.sent_of_none hnone, statementsOf_append, hrest, List.append_nil]
    exact statementsOf_planQueries skip hdone hitem
  · exact ⟨_, LedgerRecord.ofRow_eq_ok hrow hid htime hranAt, isRecordOf_of_entry rfl⟩
  · have hmem := Ledger.toLedgerEntry_mem_of_recent hm.unreliable hs' h hr
    exact isRecordOf_of_mem hnamed hfresh hdone hitem hmem hname

/-- A run fails and leaves the records, or it has a plan and adds the records of a first part of it,
which is all of it unless the run fails.  Then the change-sets of that part are accounted for: those
to skip sent no statement and the others sent all of theirs, and the records of a change-set are
read back as skipped exactly if it was to be skipped or its only statement is the word for skipped
ones.  Statements of change-sets can add records without a name, which are left out here. -/
theorem run_accounts (hm : m.connection.InMemory) (hs : s.responses = []) (skip : List String) :
    (∃ e, (m.run skip s).1 = .error e ∧ (m.run skip s).2.records = s.records) ∨
    ∃ done rest, m.unrecorded s.names = .ok ((done ++ rest).map Prod.fst) ∧
      m.plan ((done ++ rest).map Prod.fst) = .ok (done ++ rest) ∧
      (∀ summary, (m.run skip s).1 = .ok summary → rest = []) ∧
      (m.run skip s).2.named = s.named ++ done.map (m.entryFor skip) ∧
      (m.run skip s).2.log =
        ((s.sent (m.planQueries skip (done ++ rest))).map RunQuery.received).reverse ++
          ⟨Ledger.namesSql m.connection, []⟩ :: s.log ∧
      ∀ item ∈ done,
        m.Accounted skip item (s.sent (m.planQueries skip (done ++ rest))) (m.run skip s).2 := by
  rcases hpending : m.pending s with ⟨e | found, s'⟩
  · have hquiet := quiet_pending hm.unreliable s
    rw [hpending] at hquiet
    rw [run_of_pending_error hpending]
    exact Or.inl ⟨e, rfl, hquiet.1⟩
  obtain ⟨hready, haccepts, hfound⟩ := ready_of_pending hm hs (congrArg Prod.fst hpending)
  have hknown := pending_of_accepts hm hready haccepts
  rw [hfound] at hknown
  cases hplan : m.plan found with
  | error e =>
    rw [run_of_plan_error hknown hplan]
    exact Or.inl ⟨e, rfl, rfl⟩
  | ok planned =>
    obtain ⟨rfl, -⟩ := plan_eq_ok_iff.mp hplan
    have hkeeps := Memory.keeps_receive s ⟨Ledger.namesSql m.connection, []⟩
    have hstart := hkeeps.ready hready
    have hfresh : ∀ item ∈ planned, item.1.file ≠ "" ∧ item.1.file ∉ s.names :=
      fun item hitem => file_fresh_of_unrecorded hfound (List.mem_map_of_mem hitem)
    have hdistinct : (planned.map fun item => item.1.file).Nodup :=
      List.pairwise_map.mpr ((List.pairwise_map.mp (pairwise_lt_of_unrecorded hfound)).imp ne_of_lt)
    have hsends := sends_carryOut hm hstart skip hfresh hdistinct
    obtain ⟨done, rest, rfl, hqueries, hnamed, hend⟩ :=
      carryOut_accounts hm hstart skip hfresh hdistinct
    have hlog := hsends.log
    rw [hkeeps.sent_eq] at hlog
    have hresponses := hsends.keeps.responses.trans hstart.responses
    rw [run_of_plan_ok hknown hplan]
    refine Or.inr ⟨done, rest, hfound, hplan, hend, hnamed, hlog, fun item hitem => ?_⟩
    have hdone : ∀ item ∈ done, item.1.file ≠ "" ∧ item.1.file ∉ s.names :=
      fun item hitem => hfresh item (List.mem_append_left _ hitem)
    rw [← hkeeps.sent_eq]
    exact accounted_of_mem hm hresponses hqueries hnamed hdone hdistinct hitem

/-- Two change-sets; the only statement of the first one is the word for skipped ones. -/
def wordSample : Migrator Memory :=
  sample [("m", [("1.json", some ["skipped"]), ("2.json", some ["a"])])]

/-- The plan of the sample. -/
def planOfWord : List (Pending × List String) :=
  [(⟨⟨"/m"⟩, "1.json"⟩, ["skipped"]), (⟨⟨"/m"⟩, "2.json"⟩, ["a"])]

/-- The change-sets without a record are those of the plan. -/
lemma unrecorded_wordSample : wordSample.unrecorded [] = .ok (planOfWord.map Prod.fst) := by
  have haccepted : acceptedInAll wordSample.files wordSample.loaders wordSample.config.paths =
      .ok (planOfWord.map Prod.fst) := rfl
  exact unrecorded_of_changeSets (discover_of_pairwise_lt haccepted (by decide)) []

/-- The change-sets of the sample have the statements of the plan. -/
lemma plan_wordSample : wordSample.plan (planOfWord.map Prod.fst) = .ok planOfWord :=
  plan_eq_ok_iff.mpr ⟨rfl, by decide⟩

/-- A run of the sample carries out the plan. -/
lemma run_wordSample (skip : List String) :
    wordSample.run skip (openMemory none []) =
      wordSample.carryOut skip planOfWord
        ((openMemory none []).receive ⟨Ledger.namesSql wordSample.connection, []⟩) := by
  have hpending : wordSample.pending (openMemory none []) =
      (wordSample.unrecorded [],
        (openMemory none []).receive ⟨Ledger.namesSql wordSample.connection, []⟩) :=
    pending_of_accepts (inMemory_sample _) (ready_openMemory none []) (by decide)
  rw [unrecorded_wordSample] at hpending
  exact run_of_plan_ok hpending plan_wordSample skip

/-- Both change-sets of the sample are accounted for when the second one is to be skipped. -/
theorem run_accounts_wordSample :
    wordSample.Accounted ["2.json"] (⟨⟨"/m"⟩, "1.json"⟩, ["skipped"])
      ((openMemory none []).sent (wordSample.planQueries ["2.json"] planOfWord))
      (wordSample.run ["2.json"] (openMemory none [])).2 ∧
    wordSample.Accounted ["2.json"] (⟨⟨"/m"⟩, "2.json"⟩, ["a"])
      ((openMemory none []).sent (wordSample.planQueries ["2.json"] planOfWord))
      (wordSample.run ["2.json"] (openMemory none [])).2 := by
  have hok : (wordSample.run ["2.json"] (openMemory none [])).1 =
      .ok ⟨["1.json"], ["2.json"]⟩ := by
    rw [run_wordSample]
    decide
  rcases run_accounts (m := wordSample) (inMemory_sample _) (ready_openMemory none []).responses
    ["2.json"] with ⟨e, herror, -⟩ | ⟨done, rest, hfound, hplan, hend, -, -, haccounted⟩
  · rw [hok] at herror
    cases herror
  · obtain rfl := hend _ hok
    rw [List.append_nil] at hfound hplan haccounted
    have hfiles : planOfWord.map Prod.fst = done.map Prod.fst :=
      Except.ok.inj (unrecorded_wordSample.symm.trans hfound)
    rw [← hfiles, plan_wordSample] at hplan
    cases hplan
    exact ⟨haccounted _ List.mem_cons_self,
      haccounted _ (List.mem_cons_of_mem _ List.mem_cons_self)⟩

/-- The first change-set of the sample was not to be skipped and its statement was sent, and its
record in the history says that it was skipped. -/
theorem isSkipped_of_word :
    (wordSample.run [] (openMemory none [])).1 = .ok ⟨["1.json", "2.json"], []⟩ ∧
    ⟨"skipped", []⟩ ∈ (wordSample.run [] (openMemory none [])).2.log ∧
    ((wordSample.history 20 (wordSample.run [] (openMemory none [])).2).1.toOption.map
      fun found => found.map fun r => (r.migration, r.isSkipped)) =
      some [("2.json", false), ("1.json", true)] := by
  rw [run_wordSample]
  decide

end Migrator

end SchemaLedger
