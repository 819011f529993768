import SchemaLedger.Grammar.MySql
import SchemaLedger.Migration.Migrator
import SchemaLedger.Proofs.Database.Ledger
import SchemaLedger.Proofs.Migration.Discovery

/-!
# Planning a run

Before a run sends anything but the question for the names of the records, it has all statements of
all change-sets without a record.  `Migrator.unrecorded` are those change-sets, as a function of the
names; `Migrator.plan` gives a plan exactly when each of them has statements (`plan_eq_ok_iff`), and
else the error of the first one that has none (`plan_eq_error`).  So a failure before the first
change-set costs one question and changes nothing (`run_of_unplannable`).
-/

namespace SchemaLedger

namespace Migrator

variable {σ : Type}

/-- The change-sets with none of some names, in the order of their names. -/
def unrecorded (m : Migrator σ) (names : List String) : Except MigrateError (List Pending) :=
  m.changeSets.map fun found => found.filter fun p => !names.contains p.file

/-- The change-sets without a record among those that were found. -/
lemma unrecorded_of_changeSets {m : Migrator σ} {all : List Pending} (h : m.changeSets = .ok all)
    (names : List String) :
    m.unrecorded names = .ok (all.filter fun p => !names.contains p.file) := by
  rw [unrecorded, h]
  rfl

/-- The change-sets without a record are change-sets that were found, in the same order. -/
lemma sublist_of_unrecorded {m : Migrator σ} {names : List String} {found : List Pending}
    (h : m.unrecorded names = .ok found) :
    ∃ all, m.changeSets = .ok all ∧ found = all.filter fun p => !names.contains p.file := by
  unfold unrecorded at h
  cases hall : m.changeSets with
  | error e =>
    rw [hall] at h
    cases h
  | ok all =>
    rw [hall] at h
    cases h
    exact ⟨all, rfl, rfl⟩

/-- The change-sets without a record come in strictly ascending order of their names. -/
lemma pairwise_lt_of_unrecorded {m : Migrator σ} {names : List String} {found : List Pending}
    (h : m.unrecorded names = .ok found) : found.Pairwise fun a b => a.file < b.file := by
  obtain ⟨all, hall, rfl⟩ := sublist_of_unrecorded h
  exact (pairwise_lt_of_discover hall).filter _

/-- No change-set without a record has the empty name or one of the names. -/
lemma file_fresh_of_unrecorded {m : Migrator σ} {names : List String} {found : List Pending}
    (h : m.unrecorded names = .ok found) {p : Pending} (hp : p ∈ found) :
    p.file ≠ "" ∧ p.file ∉ names := by
  obtain ⟨all, hall, rfl⟩ := sublist_of_unrecorded h
  obtain ⟨hp, hnames⟩ := List.mem_filter.mp hp
  refine ⟨file_ne_of_discover hall p hp, ?_⟩
  simpa using hnames

/-! ## Plans -/

/-- A plan is the change-sets in order, each with its statements. -/
theorem plan_eq_ok_iff {m : Migrator σ} {found : List Pending}
    {planned : List (Pending × List String)} :
    m.plan found = .ok planned ↔
      planned.map Prod.fst = found ∧ ∀ item ∈ planned, m.sql item.1 .up = .ok item.2 := by
  induction found generalizing planned with
  | nil =>
    rw [plan, Except.ok.injEq, List.map_eq_nil_iff]
    constructor
    · rintro rfl
      exact ⟨rfl, fun item hitem => absurd hitem List.not_mem_nil⟩
    · rintro ⟨rfl, -⟩
      rfl
  | cons p rest ih =>
    rw [plan]
    constructor
    · intro h
      split at h
      · cases h
      · rename_i statements hsql
        split at h
        · cases h
        · rename_i planned' hplan
          cases h
          obtain ⟨rfl, hall⟩ := ih.mp hplan
          refine ⟨rfl, fun item hitem => ?_⟩
          rcases List.mem_cons.mp hitem with rfl | hitem
          · exact hsql
          · exact hall item hitem
    · rintro ⟨hmap, hall⟩
      obtain ⟨item, planned', rfl, rfl, hrest⟩ := List.map_eq_cons_iff.mp hmap
      have hsql := hall item List.mem_cons_self
      have hplan := ih.mpr ⟨hrest, fun q hq => hall q (List.mem_cons_of_mem _ hq)⟩
      simp only [hsql, hplan]

/-- Without a plan there is a first change-set without statements, and its error is the one. -/
theorem plan_eq_error {m : Migrator σ} {found : List Pending} {e : MigrateError}
    (h : m.plan found = .error e) :
    ∃ before p after, found = before ++ p :: after ∧
      (∀ q ∈ before, ∃ statements, m.sql q .up = .ok statements) ∧ m.sql p .up = .error e := by
  induction found with
  | nil => cases h
  | cons p rest ih =>
    rw [plan] at h
    split at h
    · rename_i e' hsql
      cases h
      exact ⟨[], p, rest, rfl, fun q hq => absurd hq List.not_mem_nil, hsql⟩
    · rename_i statements hsql
      split at h
      · rename_i e' hplan
        cases h
        obtain ⟨before, q, after, rfl, hbefore, hq⟩ := ih hplan
        refine ⟨p :: before, q, after, rfl, fun r hr => ?_, hq⟩
        rcases List.mem_cons.mp hr with rfl | hr
        · exact ⟨statements, hsql⟩
        · exact hbefore r hr
      · cases h

/-! ## The way from the records to a plan -/

/-- The change-sets without a record are those with none of the names that the ledger gives. -/
lemma pending_of_names {m : Migrator σ} {s s' : σ} {names : List String}
    (h : Ledger.names m.connection s = (.ok names, s')) :
    m.pending s = (m.unrecorded names, s') := by
  refine (Action.bind_of_ok h).trans ?_
  unfold unrecorded
  cases hall : m.changeSets with
  | error e => exact Action.bind_of_error rfl
  | ok all => exact Action.bind_of_ok rfl

variable {m : Migrator Memory} {s s' : Memory}

/-- When the question for names is accepted, the change-sets without a record are those with none of
the names of the records. -/
lemma pending_of_accepts (hm : m.connection.InMemory) (hs : s.Ready)
    (h : s.rejects (Ledger.namesSql m.connection) = false) :
    m.pending s = (m.unrecorded s.names, s.receive ⟨Ledger.namesSql m.connection, []⟩) :=
  pending_of_names (Ledger.names_of_accepts hm hs h)

/-- When the question for names is rejected, the change-sets without a record are not known. -/
lemma pending_of_rejects (hm : m.connection.InMemory) (hs : s.Ready)
    (h : s.rejects (Ledger.namesSql m.connection) = true) :
    m.pending s =
      (.error (.connection (Memory.rejection (Ledger.namesSql m.connection))),
        s.receive ⟨Ledger.namesSql m.connection, []⟩) :=
  Action.bind_of_error (Ledger.names_of_rejects hm hs h)

/-- When the session is closed, the change-sets without a record are not known. -/
lemma pending_of_closed (hm : m.connection.InMemory) (h : s.connected = false) :
    m.pending s = (.error (.connection .notConnected), s) :=
  Action.bind_of_error (Action.bind_of_error
    (Action.orMigrateError_of_error (Memory.query_of_closed hm h _ _)))

/-- The change-sets without a record are known only when the session is open and the question for
names is accepted. -/
lemma ready_of_pending (hm : m.connection.InMemory) (hs : s.responses = []) {found : List Pending}
    (h : (m.pending s).1 = .ok found) :
    s.Ready ∧ s.rejects (Ledger.namesSql m.connection) = false ∧
      m.unrecorded s.names = .ok found := by
  cases hconnected : s.connected with
  | false =>
    rw [pending_of_closed hm hconnected] at h
    cases h
  | true =>
    have hready : s.Ready := ⟨hconnected, hs⟩
    cases hrejects : s.rejects (Ledger.namesSql m.connection) with
    | true =>
      rw [pending_of_rejects hm hready hrejects] at h
      cases h
    | false =>
      rw [pending_of_accepts hm hready hrejects] at h
      exact ⟨hready, rfl, h⟩

/-- A run fails with the error of the search for change-sets. -/
lemma run_of_pending_error {e : MigrateError} (h : m.pending s = (.error e, s'))
    (skip : List String) : m.run skip s = (.error e, s') :=
  Action.bind_of_error h

/-- A run fails with the error of planning. -/
lemma run_of_plan_error {found : List Pending} {e : MigrateError}
    (h : m.pending s = (.ok found, s')) (hplan : m.plan found = .error e) (skip : List String) :
    m.run skip s = (.error e, s') := by
  refine (Action.bind_of_ok h).trans (Action.bind_of_error ?_)
  rw [Action.ofExcept_apply, hplan]

/-- A run carries out its plan. -/
lemma run_of_plan_ok {found : List Pending} {planned : List (Pending × List String)}
    (h : m.pending s = (.ok found, s')) (hplan : m.plan found = .ok planned)
    (skip : List String) : m.run skip s = m.carryOut skip planned s' := by
  refine (Action.bind_of_ok h).trans (Action.bind_of_ok ?_)
  rw [Action.ofExcept_apply, hplan]

/-- A run ends before its plan is carried out and leaves the records, or it carries out the plan of
the change-sets without a record. -/
theorem run_cases (hm : m.connection.Unreliable) (hs : s.responses = []) (skip : List String) :
    (∃ e, (m.run skip s).1 = .error e ∧ s.Keeps (m.run skip s).2 ∧
      (m.run skip s).2.records = s.records) ∨
    ∃ planned, m.unrecorded s.names = .ok (planned.map Prod.fst) ∧
      m.plan (planned.map Prod.fst) = .ok planned ∧
      m.run skip s =
        m.carryOut skip planned (s.receive ⟨Ledger.namesSql m.connection, []⟩) := by
  rcases Ledger.names_cases hm hs with ⟨e, s', hnames, hkeeps, hrecords, -⟩ | hnames
  · rw [run_of_pending_error (Action.bind_of_error hnames)]
    exact Or.inl ⟨_, rfl, hkeeps, hrecords⟩
  · have hpending := pending_of_names hnames
    have hkeeps := Memory.keeps_receive s ⟨Ledger.namesSql m.connection, []⟩
    cases hfound : m.unrecorded s.names with
    | error e =>
      rw [hfound] at hpending
      rw [run_of_pending_error hpending]
      exact Or.inl ⟨_, rfl, hkeeps, rfl⟩
    | ok found =>
      rw [hfound] at hpending
      cases hplan : m.plan found with
      | error e =>
        rw [run_of_plan_error hpending hplan]
        exact Or.inl ⟨_, rfl, hkeeps, rfl⟩
      | ok planned =>
        obtain ⟨rfl, -⟩ := plan_eq_ok_iff.mp hplan
        exact Or.inr ⟨planned, rfl, hplan, run_of_plan_ok hpending hplan skip⟩

/-! ## A migrator over a small tree -/

/-- A migrator on a database in memory whose directories lie below the root.  Each file has the
statements of its change-set, or is a change script that is no text. -/
def sample (dirs : List (String × List (String × Option (List String)))) : Migrator Memory where
  config := { Config.ofBase ⟨"/"⟩ with paths := dirs.map fun dir => ⟨"/" ++ dir.1⟩ }
  connection := Memory.connection .empty (Grammar.mysql "" MySql.defaultStringLength)
  loaders :=
    [Registry.loader ⟨dirs.flatMap fun dir => dir.2.filterMap fun (name, statements) =>
        statements.map fun statements =>
          (name, .upOnly fun q => statements.foldl (fun q sql => q.raw ⟨sql⟩) q)⟩,
      Loader.scripts]
  authors := fun _ => none
  files := FileTree.fileSystem (.directory (dirs.map fun dir =>
    (dir.1, .directory (dir.2.map fun file => (file.1, .file none))))) ⟨"/"⟩

/-- The database of the sample is one in memory. -/
lemma inMemory_sample (dirs : List (String × List (String × Option (List String)))) :
    (sample dirs).connection.InMemory := ⟨_, _, rfl⟩

/-- A database in memory with an open session, on which nothing happened yet. -/
def openMemory (failOn : Option String) (records : List LedgerEntry) : Memory :=
  { Memory.fresh with connected := true, failOn := failOn, records := records }

/-- The session is open. -/
lemma ready_openMemory (failOn : Option String) (records : List LedgerEntry) :
    (openMemory failOn records).Ready := ⟨rfl, rfl⟩

/-- Three change-sets, the second one of two statements. -/
def sampleOfThree : Migrator Memory :=
  sample [("m", [("1.json", some ["a"]), ("2.json", some ["b", "c!"]), ("3.json", some ["d"])])]

/-- The plan of the sample. -/
def planOfThree : List (Pending × List String) :=
  [(⟨⟨"/m"⟩, "1.json"⟩, ["a"]), (⟨⟨"/m"⟩, "2.json"⟩, ["b", "c!"]), (⟨⟨"/m"⟩, "3.json"⟩, ["d"])]

/-- The change-sets of the sample are those of its plan. -/
lemma changeSets_sampleOfThree : sampleOfThree.changeSets = .ok (planOfThree.map Prod.fst) := by
  have haccepted : acceptedInAll sampleOfThree.files sampleOfThree.loaders
      sampleOfThree.config.paths = .ok (planOfThree.map Prod.fst) := rfl
  exact discover_of_pairwise_lt haccepted (by decide)

/-- The change-sets of the sample have the statements of its plan. -/
lemma sql_sampleOfThree : ∀ item ∈ planOfThree, sampleOfThree.sql item.1 .up = .ok item.2 := by
  decide

/-! ## Runs that cannot be planned -/

/-- A run that accepts the question for names and cannot be planned sends nothing but that question
and changes nothing but the log.  If two accepted files share a name, the error has the least shared
name and two directories with a file of that name; else, if a change-set without a record has no
statements, the error is that of the first such change-set in the order of their names.  The list of
change-sets to skip does not matter.  A directory that cannot be listed fails in the same way. -/
theorem run_of_unplannable (hm : m.connection.InMemory) (hs : s.Ready)
    (haccepts : s.rejects (Ledger.namesSql m.connection) = false) (skip : List String) :
    (∀ accepted name, acceptedInAll m.files m.loaders m.config.paths = .ok accepted →
      2 ≤ (accepted.map Pending.file).count name →
      ∃ file first second,
        m.run skip s = (.error (.duplicate file first second),
          { s with log := ⟨Ledger.namesSql m.connection, []⟩ :: s.log }) ∧
        [⟨first, file⟩, ⟨second, file⟩].Subperm accepted ∧
        ∀ other, 2 ≤ (accepted.map Pending.file).count other → file ≤ other) ∧
    (∀ found p e, (m.pending s).1 = .ok found → p ∈ found → m.sql p .up = .error e →
      (found.Pairwise fun a b => a.file < b.file) ∧
      ∃ before first after e', found = before ++ first :: after ∧
        (∀ q ∈ before, ∃ statements, m.sql q .up = .ok statements) ∧
        m.sql first .up = .error e' ∧
        m.run skip s =
          (.error e', { s with log := ⟨Ledger.namesSql m.connection, []⟩ :: s.log })) ∧
    (∀ e, acceptedInAll m.files m.loaders m.config.paths = .error e →
      m.run skip s =
        (.error (.file e), { s with log := ⟨Ledger.namesSql m.connection, []⟩ :: s.log })) := by
  have hpending := pending_of_accepts hm hs haccepts
  refine ⟨?_, ?_, ?_⟩
  · intro accepted name haccepted hname
    obtain ⟨file, first, second, hdiscover, hpair, hleast⟩ :=
      discover_of_duplicate haccepted hname
    refine ⟨file, first, second, ?_, hpair, hleast⟩
    have herror : m.unrecorded s.names = .error (.duplicate file first second) := by
      rw [unrecorded, changeSets, hdiscover]
      rfl
    rw [herror] at hpending
    exact run_of_pending_error hpending skip
  · intro found p e hfound hp hsql
    rw [hpending] at hfound
    replace hfound : m.unrecorded s.names = .ok found := hfound
    rw [hfound] at hpending
    refine ⟨pairwise_lt_of_unrecorded hfound, ?_⟩
    cases hplan : m.plan found with
    | ok planned =>
      obtain ⟨rfl, hall⟩ := plan_eq_ok_iff.mp hplan
      obtain ⟨item, hitem, rfl⟩ := List.mem_map.mp hp
      rw [hall item hitem] at hsql
      cases hsql
    | error e' =>
      obtain ⟨before, first, after, heq, hbefore, hfirst⟩ := plan_eq_error hplan
      exact ⟨before, first, after, e', heq, hbefore, hfirst,
        run_of_plan_error hpending hplan skip⟩
  · intro e haccepted
    have herror : m.unrecorded s.names = .error (.file e) := by
      rw [unrecorded, changeSets, discover, haccepted]
      rfl
    rw [herror] at hpending
    exact run_of_pending_error hpending skip

/-- The second of two change scripts is no text. -/
def brokenSample : Migrator Memory := sample [("m", [("1.json", some ["A"]), ("2.json", none)])]

/-- Two directories have a change-set of the same name. -/
def twinSample : Migrator Memory :=
  sample [("a", [("1.json", some [])]), ("b", [("1.json", some [])])]

/-- Neither run sends a statement, though the first one would skip the broken file. -/
theorem run_of_unplannable_sample :
    (∃ before first after e,
      [(⟨⟨"/m"⟩, "1.json"⟩ : Pending), ⟨⟨"/m"⟩, "2.json"⟩] = before ++ first :: after ∧
      (∀ q ∈ before, ∃ statements, brokenSample.sql q .up = .ok statements) ∧
      brokenSample.sql first .up = .error e ∧
      brokenSample.run ["2.json"] (openMemory (some "A") []) =
        (.error e, { openMemory (some "A") [] with
          log := [⟨"SELECT migration FROM `tramp_migrations`", []⟩] })) ∧
    (∃ file first second,
      twinSample.run [] (openMemory (some "A") []) =
        (.error (.duplicate file first second), { openMemory (some "A") [] with
          log := [⟨"SELECT migration FROM `tramp_migrations`", []⟩] }) ∧
      [⟨first, file⟩, ⟨second, file⟩].Subperm
        [(⟨⟨"/a"⟩, "1.json"⟩ : Pending), ⟨⟨"/b"⟩, "1.json"⟩]) := by
  have hs := ready_openMemory (some "A") []
  constructor
  · have hm : brokenSample.connection.InMemory := inMemory_sample _
    have haccepts : (openMemory (some "A") []).rejects
        (Ledger.namesSql brokenSample.connection) = false := by decide
    have haccepted : acceptedInAll brokenSample.files brokenSample.loaders
        brokenSample.config.paths = .ok [⟨⟨"/m"⟩, "1.json"⟩, ⟨⟨"/m"⟩, "2.json"⟩] := rfl
    have hall : brokenSample.changeSets = .ok [⟨⟨"/m"⟩, "1.json"⟩, ⟨⟨"/m"⟩, "2.json"⟩] :=
      discover_of_pairwise_lt haccepted (by decide)
    have hpending : (brokenSample.pending (openMemory (some "A") [])).1 =
        .ok [⟨⟨"/m"⟩, "1.json"⟩, ⟨⟨"/m"⟩, "2.json"⟩] := by
      rw [pending_of_accepts hm hs haccepts]
      exact unrecorded_of_changeSets hall []
    have hbroken : brokenSample.sql ⟨⟨"/m"⟩, "2.json"⟩ .up =
        .error (.load ⟨"/m/2.json"⟩ (.file .notText)) := rfl
    exact ((run_of_unplannable hm hs haccepts ["2.json"]).2.1 _ _ _ hpending
      (by simp) hbroken).2
  · have haccepts : (openMemory (some "A") []).rejects
        (Ledger.namesSql twinSample.connection) = false := by decide
    have haccepted : acceptedInAll twinSample.files twinSample.loaders
        twinSample.config.paths = .ok [⟨⟨"/a"⟩, "1.json"⟩, ⟨⟨"/b"⟩, "1.json"⟩] := rfl
    obtain ⟨file, first, second, hrun, hpair, -⟩ :=
      (run_of_unplannable (inMemory_sample _) hs haccepts []).1 _ "1.json" haccepted (by decide)
    exact ⟨file, first, second, hrun, hpair⟩

end Migrator

end SchemaLedger
