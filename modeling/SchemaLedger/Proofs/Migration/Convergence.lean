import SchemaLedger.Proofs.Migration.Trace

/-!
# Interrupted runs

Runs that are interrupted at any query, and repeated until one of them succeeds, leave the records
of one run that is not interrupted (`records_of_interrupted_runs`).

The records that a database is to have in the end, its records and then those of its plan, are its
goal (`Migrator.goal`).  A run does not change the goal (`goal_run`): the change-sets that it
recorded are no longer among those without a record, and those after them are planned as before.  A
run that succeeds reaches the goal (`goal_of_run_ok`), and a database whose records are its own goal
has nothing left to do.
-/

namespace SchemaLedger

/-- The database with another text whose statements are rejected. -/
def Memory.rejecting (s : Memory) (failOn : Option String) : Memory := { s with failOn := failOn }

namespace Migrator

/-- The records of a database after all change-sets without a record were carried out. -/
def goal {σ : Type} (m : Migrator σ) (skip : List String) (records : List LedgerEntry) :
    Except MigrateError (List LedgerEntry) :=
  match m.unrecorded (records.map LedgerEntry.migration) with
  | .error e => .error e
  | .ok found =>
    match m.plan found with
    | .error e => .error e
    | .ok planned => .ok (records ++ planned.map (m.entryFor skip))

variable {m : Migrator Memory} {s : Memory} {skip : List String} {records : List LedgerEntry}

/-- The goal of a database that can be planned. -/
lemma goal_of_plan {planned : List (Pending × List String)}
    (hfound : m.unrecorded (records.map LedgerEntry.migration) = .ok (planned.map Prod.fst))
    (hplan : m.plan (planned.map Prod.fst) = .ok planned) :
    m.goal skip records = .ok (records ++ planned.map (m.entryFor skip)) := by
  simp only [goal, hfound, hplan]

/-- A database with a goal can be planned. -/
lemma plan_of_goal {after : List LedgerEntry} (h : m.goal skip records = .ok after) :
    ∃ planned, m.unrecorded (records.map LedgerEntry.migration) = .ok (planned.map Prod.fst) ∧
      m.plan (planned.map Prod.fst) = .ok planned ∧
      after = records ++ planned.map (m.entryFor skip) := by
  unfold goal at h
  split at h
  · cases h
  · rename_i found hfound
    split at h
    · cases h
    · rename_i planned hplan
      cases h
      obtain ⟨rfl, -⟩ := plan_eq_ok_iff.mp hplan
      exact ⟨planned, hfound, hplan, rfl⟩

/-! ## The goal of a run -/

/-- When a first part of the change-sets without a record is recorded, the others are left. -/
lemma unrecorded_append {names : List String} {done rest : List Pending}
    (h : m.unrecorded names = .ok (done ++ rest)) :
    m.unrecorded (names ++ done.map Pending.file) = .ok rest := by
  have hascending := pairwise_lt_of_unrecorded h
  obtain ⟨all, hall, heq⟩ := sublist_of_unrecorded h
  have hdone : done.filter (fun p => !(done.map Pending.file).contains p.file) = [] := by
    rw [List.filter_eq_nil_iff]
    intro p hp
    simpa using ⟨p, hp, rfl⟩
  have hrest : rest.filter (fun p => !(done.map Pending.file).contains p.file) = rest := by
    rw [List.filter_eq_self]
    intro p hp
    have hne : ∀ q ∈ done, ¬q.file = p.file := fun q hq =>
      ne_of_lt ((List.pairwise_append.mp hascending).2.2 q hq p hp)
    simpa using hne
  calc m.unrecorded (names ++ done.map Pending.file)
      = .ok (all.filter fun p => !(names ++ done.map Pending.file).contains p.file) :=
        unrecorded_of_changeSets hall _
    _ = .ok ((all.filter fun p => !names.contains p.file).filter
          fun p => !(done.map Pending.file).contains p.file) := by
        rw [List.filter_filter]
        congr 2
        funext p
        simp [Bool.and_comm]
    _ = .ok rest := by
        rw [← heq, List.filter_append, hdone, hrest, List.nil_append]

/-- The goal is the same after a first part of the plan was recorded. -/
lemma goal_append {done rest : List (Pending × List String)}
    (hfound : m.unrecorded (records.map LedgerEntry.migration) =
      .ok ((done ++ rest).map Prod.fst))
    (hplan : m.plan ((done ++ rest).map Prod.fst) = .ok (done ++ rest)) :
    m.goal skip (records ++ done.map (m.entryFor skip)) =
      .ok (records ++ (done ++ rest).map (m.entryFor skip)) := by
  have hnames : (records ++ done.map (m.entryFor skip)).map LedgerEntry.migration =
      records.map LedgerEntry.migration ++ (done.map Prod.fst).map Pending.file := by
    simp [Function.comp_def]
  have hleft : m.unrecorded ((records ++ done.map (m.entryFor skip)).map LedgerEntry.migration) =
      .ok (rest.map Prod.fst) := by
    rw [hnames]
    rw [List.map_append] at hfound
    exact unrecorded_append hfound
  have hsql := (plan_eq_ok_iff.mp hplan).2
  have hrest : m.plan (rest.map Prod.fst) = .ok rest :=
    plan_eq_ok_iff.mpr ⟨rfl, fun item hitem => hsql item (List.mem_append_right _ hitem)⟩
  rw [goal_of_plan hleft hrest, List.map_append, List.append_assoc]

/-- A run does not change the goal. -/
theorem goal_run (hm : m.connection.InMemory) (hs : s.responses = []) (hspares : m.SparesLedger)
    (skip : List String) : m.goal skip (m.run skip s).2.records = m.goal skip s.records := by
  obtain ⟨-, ⟨e, -, hrecords⟩ | ⟨done, rest, hfound, hplan, hrecords, -⟩⟩ :=
    run_progress hm.unreliable hs hspares skip
  · rw [hrecords]
  · rw [hrecords, goal_append hfound hplan, goal_of_plan hfound hplan]

/-- A run that succeeds reaches the goal. -/
theorem goal_of_run_ok (hm : m.connection.InMemory) (hs : s.responses = [])
    (hspares : m.SparesLedger) {summary : RunSummary} (h : (m.run skip s).1 = .ok summary) :
    m.goal skip s.records = .ok (m.run skip s).2.records := by
  obtain ⟨-, ⟨e, herror, -⟩ | ⟨done, rest, hfound, hplan, hrecords, hend⟩⟩ :=
    run_progress hm.unreliable hs hspares skip
  · rw [h] at herror
    cases herror
  · obtain rfl := hend summary h
    rw [List.append_nil] at hfound hplan
    rw [hrecords, goal_of_plan hfound hplan]

/-- A run succeeds only in an open session. -/
lemma ready_of_run_ok (hm : m.connection.InMemory) (hs : s.responses = []) {summary : RunSummary}
    (h : (m.run skip s).1 = .ok summary) : s.Ready := by
  cases hconnected : s.connected with
  | false =>
    rw [run_of_pending_error (pending_of_closed hm hconnected)] at h
    cases h
  | true => exact ⟨hconnected, hs⟩

/-- A run in which no query is rejected succeeds if there is a goal. -/
lemma run_ok_of_goal (hm : m.connection.InMemory) (hs : s.Ready) (hnone : s.failOn = none)
    {after : List LedgerEntry} (h : m.goal skip s.records = .ok after) :
    ∃ summary, (m.run skip s).1 = .ok summary := by
  have haccepts : ∀ sql, s.rejects sql = false := fun sql => by
    rw [Memory.rejects, hnone]
    rfl
  obtain ⟨planned, hfound, hplan, -⟩ := plan_of_goal h
  have hpending := pending_of_accepts hm hs (haccepts _)
  rw [show m.unrecorded s.names = .ok (planned.map Prod.fst) from hfound] at hpending
  have hkeeps := Memory.keeps_receive s ⟨Ledger.namesSql m.connection, []⟩
  have hsends := sends_plan hm (hkeeps.ready hs) skip hfound
  have houtcome := hsends.outcome
  rw [hkeeps.firstRejected_eq, Memory.firstRejected_eq_none.mpr fun q _ => haccepts q.sql]
    at houtcome
  rw [run_of_plan_ok hpending hplan]
  exact ⟨_, houtcome⟩

/-- Nothing is left to do for a database whose records are its own goal. -/
lemma unrecorded_of_goal_self (h : m.goal skip records = .ok records) :
    m.unrecorded (records.map LedgerEntry.migration) = .ok [] := by
  obtain ⟨planned, hfound, -, heq⟩ := plan_of_goal h
  have hnil : planned.map (m.entryFor skip) = [] := List.self_eq_append_right.mp heq
  rw [hfound, List.map_eq_nil_iff.mp hnil]
  rfl

/-! ## Interruptions -/

/-- The database after runs one after another, each with its own statements to be rejected. -/
def interrupted (m : Migrator Memory) (skip : List String) (s : Memory)
    (failures : List (Option String)) : Memory :=
  failures.foldl (fun s failOn => (m.run skip (s.rejecting failOn)).2) s

/-- Runs one after another change neither the session nor the goal. -/
theorem goal_interrupted (hm : m.connection.InMemory) (hs : s.responses = [])
    (hspares : m.SparesLedger) (skip : List String) (failures : List (Option String)) :
    (m.interrupted skip s failures).responses = [] ∧
    (m.interrupted skip s failures).connected = s.connected ∧
    m.goal skip (m.interrupted skip s failures).records = m.goal skip s.records := by
  induction failures generalizing s with
  | nil => exact ⟨hs, rfl, rfl⟩
  | cons failOn rest ih =>
    have hs' : (s.rejecting failOn).responses = [] := hs
    have hkeeps := (run_progress hm.unreliable hs' hspares skip).1
    obtain ⟨hresponses, hconnected, hgoal⟩ := ih (hkeeps.responses.trans hs)
    refine ⟨hresponses, hconnected.trans hkeeps.connected, hgoal.trans ?_⟩
    exact goal_run hm hs' hspares skip

/-- After runs that were interrupted, each at any query, a run that succeeds leaves the records that
one run without an interruption leaves, in the same order.  Nothing is left to do then: there are no
change-sets without a record, and another run sends only the question for names, does nothing and
changes nothing but the log. -/
theorem records_of_interrupted_runs (hm : m.connection.InMemory) (hs : s.responses = [])
    (hspares : m.SparesLedger) (skip : List String) (failures : List (Option String))
    (last : Option String) {summary : RunSummary} {final : Memory}
    (hlast : m.run skip ((m.interrupted skip s failures).rejecting last) =
      (.ok summary, final)) :
    (∃ total once, m.run skip (s.rejecting none) = (.ok total, once) ∧
      once.records = final.records) ∧
    ∀ failOn, (final.rejecting failOn).rejects (Ledger.namesSql m.connection) = false →
      m.pending (final.rejecting failOn) =
        (.ok [], (final.rejecting failOn).receive ⟨Ledger.namesSql m.connection, []⟩) ∧
      m.run skip (final.rejecting failOn) =
        (.ok .empty, (final.rejecting failOn).receive ⟨Ledger.namesSql m.connection, []⟩) := by
  obtain ⟨hresponses, hconnected, hgoal⟩ := goal_interrupted hm hs hspares skip failures
  set before := (m.interrupted skip s failures).rejecting last
  have hbefore : before.responses = [] := hresponses
  have hok : (m.run skip before).1 = .ok summary := by rw [hlast]
  have hready := ready_of_run_ok hm hbefore hok
  have hkeeps := (run_progress hm.unreliable hbefore hspares skip).1
  have hreached := goal_of_run_ok hm hbefore hspares hok
  have hkept := goal_run hm hbefore hspares skip
  rw [hlast] at hkeeps hreached hkept
  have hstart : m.goal skip s.records = .ok final.records := hgoal.symm.trans hreached
  constructor
  · have hready' : (s.rejecting none).Ready :=
      ⟨hconnected.symm.trans hready.connected, hs⟩
    obtain ⟨total, honce⟩ := run_ok_of_goal hm hready' rfl hstart
    refine ⟨total, (m.run skip (s.rejecting none)).2, Prod.ext honce rfl, ?_⟩
    have honcegoal := goal_of_run_ok hm hready'.responses hspares honce
    rw [show (s.rejecting none).records = s.records from rfl, hstart] at honcegoal
    exact (Except.ok.inj honcegoal).symm
  · intro failOn haccepts
    have hfinal : (final.rejecting failOn).Ready :=
      ⟨(hkeeps.ready hready).connected, (hkeeps.ready hready).responses⟩
    have hnothing : m.unrecorded (final.rejecting failOn).names = .ok [] :=
      unrecorded_of_goal_self (hkept.trans hreached)
    have hpending := pending_of_accepts hm hfinal haccepts
    rw [hnothing] at hpending
    exact ⟨hpending, run_of_plan_ok hpending rfl skip⟩

/-- A run over the sample is interrupted after the first statement of the second change-set, and
another one is not: the ledger is that of a single run. -/
theorem records_of_interrupted_runs_sample :
    ∃ summary final,
      sampleOfThree.run ["1.json"]
        ((sampleOfThree.interrupted ["1.json"] (openMemory none []) [some "!"]).rejecting none) =
          (.ok summary, final) ∧
      final.records = planOfThree.map (sampleOfThree.entryFor ["1.json"]) ∧
      (∃ total once, sampleOfThree.run ["1.json"] (openMemory none []) = (.ok total, once) ∧
        once.records = final.records) ∧
      sampleOfThree.pending (final.rejecting none) =
        (.ok [],
          (final.rejecting none).receive ⟨"SELECT migration FROM `tramp_migrations`", []⟩) := by
  have hm : sampleOfThree.connection.InMemory := inMemory_sample _
  have hs := ready_openMemory none []
  have hspares := sparesLedger_sampleOfThree
  have hstart : sampleOfThree.goal ["1.json"] [] =
      .ok (planOfThree.map (sampleOfThree.entryFor ["1.json"])) :=
    goal_of_plan (unrecorded_of_changeSets changeSets_sampleOfThree [])
      (plan_eq_ok_iff.mpr ⟨rfl, sql_sampleOfThree⟩)
  obtain ⟨hresponses, hconnected, hgoal⟩ :=
    goal_interrupted hm hs.responses hspares ["1.json"] [some "!"]
  have hready : ((sampleOfThree.interrupted ["1.json"] (openMemory none [])
      [some "!"]).rejecting none).Ready := ⟨hconnected, hresponses⟩
  obtain ⟨summary, hok⟩ := run_ok_of_goal hm hready rfl (hgoal.trans hstart)
  have hreached := goal_of_run_ok hm hready.responses hspares hok
  obtain ⟨honce, hafter⟩ := records_of_interrupted_runs hm hs.responses hspares ["1.json"]
    [some "!"] none (Prod.ext hok rfl)
  refine ⟨summary, _, Prod.ext hok rfl, ?_, honce, (hafter none rfl).1⟩
  exact Except.ok.inj (hreached.symm.trans (hgoal.trans hstart))

end Migrator

end SchemaLedger
