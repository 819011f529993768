import SchemaLedger.Proofs.Migration.Planning
import Mathlib.Data.List.Sort

/-!
# Which change-sets are without a record

A migrator looks for change-sets in directories that are listed one after another, each in the order
in which its file system gives the entries.  What it finds is a function of sets all the same: of
the directories, of the files in them, of the loaders, and of the names in the ledger.  The search
fails exactly if two directories hold an accepted file of the same name (`Migrator.Shares`), and it
names the least such name; else it gives each accepted file without a record once, in strictly
ascending order of the names (`Migrator.Selects`).  A list in that order is determined by its
members, so no other order of directories and entries gives another answer (`pending_selects`).
-/

namespace SchemaLedger

/-! ## Directories -/

namespace FileSystem

/-- A directory is missing, or it can be listed and holds no name twice. -/
def Listable (files : FileSystem) (dir : Path) : Prop :=
  files.list dir = .error .notFound ∨
    ∃ entries, files.list dir = .ok entries ∧ (entries.map DirectoryEntry.name).Nodup

/-- A directory holds a regular file of a name that some loader accepts. -/
def Holds (files : FileSystem) (loaders : List Loader) (dir : Path) (name : String) : Prop :=
  ∃ entries, files.list dir = .ok entries ∧
    ∃ entry ∈ entries, entry.name = name ∧ entry.isFile = true ∧
      ∃ loader ∈ loaders, loader.accepts (dir.join ⟨name⟩) = true

/-- Two file systems list the same entries of a directory, in whatever order, or fail alike. -/
def SameEntries (files files' : FileSystem) (dir : Path) : Prop :=
  files.list dir = files'.list dir ∨
    ∃ entries entries', files.list dir = .ok entries ∧ files'.list dir = .ok entries' ∧
      entries.Perm entries'

variable {files files' : FileSystem} {loaders loaders' : List Loader} {dir : Path} {name : String}

/-- File systems that list the same entries do so in both directions. -/
lemma SameEntries.symm (h : files.SameEntries files' dir) : files'.SameEntries files dir := by
  rcases h with h | ⟨entries, entries', h, h', hperm⟩
  · exact Or.inl h.symm
  · exact Or.inr ⟨entries', entries, h', h, hperm.symm⟩

/-- A directory can be listed in any order of its entries. -/
lemma Listable.of_sameEntries (h : files.Listable dir) (hsame : files.SameEntries files' dir) :
    files'.Listable dir := by
  rcases hsame with hsame | ⟨entries, entries', hlist, hlist', hperm⟩
  · unfold Listable at h ⊢
    rwa [hsame] at h
  · rcases h with h | ⟨listed, h, hnodup⟩ <;> rw [hlist] at h <;> cases h
    exact Or.inr ⟨entries', hlist', (hperm.map _).nodup_iff.mp hnodup⟩

/-- A directory holds the same files in any order of its entries and of the loaders. -/
lemma Holds.of_sameEntries (h : files.Holds loaders dir name)
    (hsame : files.SameEntries files' dir) (hloaders : loaders ⊆ loaders') :
    files'.Holds loaders' dir name := by
  obtain ⟨listed, hlisted, entry, hentry, hname, hfile, loader, hloader, haccepts⟩ := h
  have haccepted : ∃ loader ∈ loaders', loader.accepts (dir.join ⟨name⟩) = true :=
    ⟨loader, hloaders hloader, haccepts⟩
  rcases hsame with hsame | ⟨entries, entries', hlist, hlist', hperm⟩
  · exact ⟨listed, hsame ▸ hlisted, entry, hentry, hname, hfile, haccepted⟩
  · rw [hlist] at hlisted
    cases hlisted
    exact ⟨entries', hlist', entry, hperm.mem_iff.mp hentry, hname, hfile, haccepted⟩

end FileSystem

open FileSystem

variable {files : FileSystem} {loaders : List Loader} {dir : Path} {dirs : List Path}
  {found : List Pending}

/-- The accepted files of a directory that can be listed are those it holds, each once. -/
lemma acceptedFiles_of_listable (loaders : List Loader) (h : files.Listable dir) :
    ∃ found, acceptedFiles files loaders dir = .ok found ∧ (found.map Pending.file).Nodup ∧
      ∀ p, p ∈ found ↔ p.path = dir ∧ files.Holds loaders dir p.file := by
  rcases h with h | ⟨entries, h, hnodup⟩
  · refine ⟨[], by simp only [acceptedFiles, h], List.nodup_nil, fun p => ?_⟩
    constructor
    · intro hp
      cases hp
    · rintro ⟨-, entries, hentries, -⟩
      rw [h] at hentries
      cases hentries
  · have haccepted : acceptedFiles files loaders dir =
        .ok ((entries.filter fun entry =>
          entry.isFile && (loaderFor loaders (dir.join ⟨entry.name⟩)).isSome).map fun entry =>
            ⟨dir, entry.name⟩) := by
      simp only [acceptedFiles, h]
    refine ⟨_, haccepted, ?_, fun p => ?_⟩
    · rw [List.map_map]
      exact hnodup.sublist (List.filter_sublist.map DirectoryEntry.name)
    · rw [List.mem_map]
      constructor
      · rintro ⟨entry, hentry, rfl⟩
        rw [List.mem_filter, Bool.and_eq_true, loaderFor, List.find?_isSome] at hentry
        obtain ⟨hmem, hfile, haccepted⟩ := hentry
        exact ⟨rfl, entries, h, entry, hmem, rfl, hfile, haccepted⟩
      · rintro ⟨rfl, listed, hlisted, entry, hmem, hname, hfile, haccepted⟩
        rw [h] at hlisted
        cases hlisted
        refine ⟨entry, ?_, by rw [hname]⟩
        rw [List.mem_filter, Bool.and_eq_true, loaderFor, List.find?_isSome, hname]
        exact ⟨hmem, hfile, haccepted⟩

/-- The accepted files of directories that can be listed are those they hold. -/
lemma acceptedInAll_of_listable (loaders : List Loader) (h : ∀ dir ∈ dirs, files.Listable dir) :
    ∃ found, acceptedInAll files loaders dirs = .ok found ∧
      ∀ p, p ∈ found ↔ p.path ∈ dirs ∧ files.Holds loaders p.path p.file := by
  induction dirs with
  | nil => exact ⟨[], rfl, fun p => by simp⟩
  | cons dir dirs ih =>
    obtain ⟨first, hfirst, -, hmem⟩ :=
      acceptedFiles_of_listable loaders (h dir List.mem_cons_self)
    obtain ⟨more, hmore, hmem'⟩ := ih fun dir hdir => h dir (List.mem_cons_of_mem _ hdir)
    refine ⟨first ++ more, by simp only [acceptedInAll, hfirst, hmore], fun p => ?_⟩
    rw [List.mem_append, hmem, hmem', List.mem_cons]
    constructor
    · rintro (⟨rfl, hholds⟩ | ⟨hdir, hholds⟩)
      · exact ⟨Or.inl rfl, hholds⟩
      · exact ⟨Or.inr hdir, hholds⟩
    · rintro ⟨rfl | hdir, hholds⟩
      · exact Or.inl ⟨rfl, hholds⟩
      · exact Or.inr ⟨hdir, hholds⟩

open scoped Classical in
/-- A name is found as often as there are directories that hold it. -/
lemma count_acceptedInAll (h : ∀ dir ∈ dirs, files.Listable dir)
    (hfound : acceptedInAll files loaders dirs = .ok found) (name : String) :
    (found.map Pending.file).count name = dirs.countP fun dir => files.Holds loaders dir name := by
  induction dirs generalizing found with
  | nil =>
    cases hfound
    rfl
  | cons dir dirs ih =>
    obtain ⟨first, hfirst, hnodup, hmem⟩ :=
      acceptedFiles_of_listable loaders (h dir List.mem_cons_self)
    obtain ⟨more, hmore, -⟩ := acceptedInAll_of_listable loaders
      fun dir hdir => h dir (List.mem_cons_of_mem _ hdir)
    simp only [acceptedInAll, hfirst, hmore, Except.ok.injEq] at hfound
    subst hfound
    have hrest := ih (fun dir hdir => h dir (List.mem_cons_of_mem _ hdir)) hmore
    have hname : name ∈ first.map Pending.file ↔ files.Holds loaders dir name := by
      rw [List.mem_map]
      constructor
      · rintro ⟨p, hp, rfl⟩
        exact ((hmem p).mp hp).2
      · intro hholds
        exact ⟨⟨dir, name⟩, (hmem _).mpr ⟨rfl, hholds⟩, rfl⟩
    rw [List.map_append, List.count_append, hrest, hnodup.count, List.countP_cons]
    simp only [hname, decide_eq_true_eq, Nat.add_comm]

namespace Migrator

variable {σ τ : Type}

/-! ## Selections -/

/-- A directory holds a file of a name that some loader of the migrator accepts. -/
def Holds (m : Migrator σ) (dir : Path) (name : String) : Prop :=
  m.files.Holds m.loaders dir name

/-- Two directories of the configuration hold an accepted file of the same name. -/
def Shares (m : Migrator σ) (name : String) : Prop :=
  ∃ first second, [first, second].Subperm m.config.paths ∧
    m.Holds first name ∧ m.Holds second name

/-- What the search for the change-sets without a record among some names has to give. -/
structure Selects (m : Migrator σ) (names : List String)
    (outcome : Except MigrateError (List Pending)) : Prop where
  /-- The search fails because of a name exactly if two directories share one. -/
  duplicate_iff : (∃ file first second, outcome = .error (.duplicate file first second)) ↔
    ∃ name, m.Shares name
  /-- The error names the least shared name and two directories that hold it. -/
  least : ∀ file first second, outcome = .error (.duplicate file first second) →
    m.Shares file ∧ (∀ name, m.Shares name → file ≤ name) ∧
      first ∈ m.config.paths ∧ m.Holds first file ∧ second ∈ m.config.paths ∧ m.Holds second file
  /-- Without a shared name, all accepted files without a record are given, in strictly ascending
  order of their names and each with its directory. -/
  exact : (¬∃ name, m.Shares name) →
    ∃ found, outcome = .ok found ∧ (found.Pairwise fun a b => a.file < b.file) ∧
      ∀ p, p ∈ found ↔ p.path ∈ m.config.paths ∧ m.Holds p.path p.file ∧ p.file ∉ names

variable {m : Migrator σ} {found : List Pending} {name : String}

open scoped Classical in
/-- A name is shared exactly if at least two directories hold it. -/
lemma shares_iff_two_le :
    m.Shares name ↔ 2 ≤ m.config.paths.countP fun dir => m.Holds dir name := by
  constructor
  · rintro ⟨first, second, hpair, hfirst, hsecond⟩
    have hcount := hpair.countP_le fun dir => decide (m.Holds dir name)
    simpa [List.countP_cons, hfirst, hsecond] using hcount
  · intro hcount
    rw [List.countP_eq_length_filter] at hcount
    have hsub : (m.config.paths.filter fun dir => m.Holds dir name).Subperm m.config.paths :=
      List.filter_sublist.subperm
    have hholds : ∀ dir ∈ m.config.paths.filter fun dir => m.Holds dir name,
        m.Holds dir name := fun dir hdir => of_decide_eq_true (List.mem_filter.mp hdir).2
    match hfilter : m.config.paths.filter fun dir => decide (m.Holds dir name) with
    | first :: second :: rest =>
      rw [hfilter] at hsub hholds
      have hpair : [first, second].Subperm (first :: second :: rest) :=
        (List.prefix_append [first, second] rest).sublist.subperm
      exact ⟨first, second, hpair.trans hsub, hholds _ (by simp), hholds _ (by simp)⟩
    | [_] => simp [hfilter] at hcount
    | [] => simp [hfilter] at hcount

/-- A name is shared exactly if it is found twice. -/
lemma shares_iff_count (hlist : ∀ dir ∈ m.config.paths, m.files.Listable dir)
    (hfound : acceptedInAll m.files m.loaders m.config.paths = .ok found) :
    m.Shares name ↔ 2 ≤ (found.map Pending.file).count name := by
  rw [shares_iff_two_le, count_acceptedInAll hlist hfound]
  rfl

/-- The search among directories that can be listed gives what it has to. -/
lemma selects_unrecorded (hlist : ∀ dir ∈ m.config.paths, m.files.Listable dir)
    (names : List String) : m.Selects names (m.unrecorded names) := by
  obtain ⟨found, hfound, hmem⟩ := acceptedInAll_of_listable m.loaders hlist
  have hshares : ∀ name, m.Shares name ↔ 2 ≤ (found.map Pending.file).count name := fun name =>
    shares_iff_count hlist hfound
  by_cases hshared : ∃ name, m.Shares name
  · obtain ⟨name, hname⟩ := hshared
    obtain ⟨file, first, second, hdiscover, hpair, hleast⟩ :=
      discover_of_duplicate hfound ((hshares name).mp hname)
    have herror : m.unrecorded names = .error (.duplicate file first second) := by
      rw [unrecorded, changeSets, hdiscover]
      rfl
    have hfile : m.Shares file := by
      have hcount := hpair.countP_le fun p => p.file == file
      rw [hshares, List.count, List.countP_map]
      simpa [List.countP_cons, Function.comp_def] using hcount
    have hfirst := (hmem ⟨first, file⟩).mp (hpair.subset (by simp))
    have hsecond := (hmem ⟨second, file⟩).mp (hpair.subset (by simp))
    rw [herror]
    refine ⟨⟨fun _ => ⟨name, hname⟩, fun _ => ⟨file, first, second, rfl⟩⟩, ?_, ?_⟩
    · rintro _ _ _ ⟨rfl, rfl, rfl⟩
      exact ⟨hfile, fun other hother => hleast other ((hshares other).mp hother),
        hfirst.1, hfirst.2, hsecond.1, hsecond.2⟩
    · intro hnone
      exact absurd ⟨name, hname⟩ hnone
  · have hnodup : (found.map Pending.file).Nodup := by
      rw [List.nodup_iff_count_le_one]
      intro name
      by_contra hcount
      exact hshared ⟨name, (hshares name).mpr (by omega)⟩
    have hdiscover := discover_of_nodup hfound hnodup
    have hok := unrecorded_of_changeSets hdiscover names
    rw [hok]
    refine ⟨⟨?_, fun h => absurd h hshared⟩, ?_, fun _ => ⟨_, rfl, ?_, fun p => ?_⟩⟩
    · rintro ⟨_, _, _, h⟩
      cases h
    · rintro _ _ _ h
      cases h
    · exact (pairwise_lt_of_discover hdiscover).filter _
    · rw [List.mem_filter, List.mem_mergeSort, hmem]
      simp [Holds, and_assoc]

/-! ## Other orders -/

/-- Two migrators have the same directories, entries and loaders, in whatever order. -/
structure Reordered (m : Migrator σ) (m' : Migrator τ) : Prop where
  paths : m.config.paths.Perm m'.config.paths
  loaders : m.loaders.Perm m'.loaders
  entries : ∀ dir ∈ m.config.paths, m.files.SameEntries m'.files dir

variable {m' : Migrator τ} {names names' : List String}
  {outcome outcome' : Except MigrateError (List Pending)}

namespace Reordered

/-- The order of a migrator can be changed back. -/
lemma symm (h : m.Reordered m') : m'.Reordered m :=
  ⟨h.paths.symm, h.loaders.symm, fun dir hdir => (h.entries dir (h.paths.mem_iff.mpr hdir)).symm⟩

/-- The directories of both migrators can be listed. -/
lemma listable (h : m.Reordered m') (hlist : ∀ dir ∈ m.config.paths, m.files.Listable dir) :
    ∀ dir ∈ m'.config.paths, m'.files.Listable dir := by
  intro dir hdir
  have hdir' := h.paths.mem_iff.mpr hdir
  exact (hlist dir hdir').of_sameEntries (h.entries dir hdir')

/-- The directories hold the same files. -/
lemma holds (h : m.Reordered m') (hdir : dir ∈ m.config.paths) (hholds : m.Holds dir name) :
    m'.Holds dir name :=
  FileSystem.Holds.of_sameEntries hholds (h.entries dir hdir) h.loaders.subset

/-- The directories of a configuration share the same names. -/
lemma shares (h : m.Reordered m') (hname : m.Shares name) : m'.Shares name := by
  obtain ⟨first, second, hpair, hfirst, hsecond⟩ := hname
  refine ⟨first, second, hpair.trans h.paths.subperm, ?_, ?_⟩
  · exact h.holds (hpair.subset (by simp)) hfirst
  · exact h.holds (hpair.subset (by simp)) hsecond

/-- The same change-sets are to be given. -/
lemma mem_iff (h : m.Reordered m') (hnames : ∀ name, name ∈ names' ↔ name ∈ names) (p : Pending) :
    p.path ∈ m'.config.paths ∧ m'.Holds p.path p.file ∧ p.file ∉ names' ↔
      p.path ∈ m.config.paths ∧ m.Holds p.path p.file ∧ p.file ∉ names := by
  rw [hnames, h.paths.mem_iff]
  refine and_congr_right fun hdir => and_congr_left fun _ => ⟨?_, ?_⟩
  · exact h.symm.holds hdir
  · exact h.holds (h.paths.mem_iff.mpr hdir)

end Reordered

/-- Change-sets in strictly ascending order of their names are determined by their members. -/
lemma eq_of_mem_iff {found found' : List Pending}
    (hsorted : found.Pairwise fun a b => a.file < b.file)
    (hsorted' : found'.Pairwise fun a b => a.file < b.file) (h : ∀ p, p ∈ found ↔ p ∈ found') :
    found = found' := by
  have hanti : Std.Antisymm fun a b : Pending => a.file < b.file :=
    ⟨fun a b hab hba => absurd hba (lt_asymm hab)⟩
  have hirrefl : Std.Irrefl fun a b : Pending => a.file < b.file := ⟨fun a => lt_irrefl a.file⟩
  exact hsorted.eq_of_mem_iff hsorted' h

/-- What a search has to give does not depend on any order. -/
lemma Selects.agree (h : m.Selects names outcome) (h' : m'.Selects names' outcome')
    (hsame : m.Reordered m') (hnames : ∀ name, name ∈ names' ↔ name ∈ names) :
    (∃ found, outcome = .ok found ∧ outcome' = .ok found) ∨
    ∃ file first second first' second', outcome = .error (.duplicate file first second) ∧
      outcome' = .error (.duplicate file first' second') := by
  by_cases hshared : ∃ name, m.Shares name
  · have hshared' : ∃ name, m'.Shares name := hshared.imp fun _ hname => hsame.shares hname
    obtain ⟨file, first, second, herror⟩ := h.duplicate_iff.mpr hshared
    obtain ⟨file', first', second', herror'⟩ := h'.duplicate_iff.mpr hshared'
    obtain ⟨hfile, hleast, -⟩ := h.least _ _ _ herror
    obtain ⟨hfile', hleast', -⟩ := h'.least _ _ _ herror'
    obtain rfl : file = file' :=
      le_antisymm (hleast _ (hsame.symm.shares hfile')) (hleast' _ (hsame.shares hfile))
    exact Or.inr ⟨file, first, second, first', second', herror, herror'⟩
  · have hshared' : ¬∃ name, m'.Shares name := fun ⟨name, hname⟩ =>
      hshared ⟨name, hsame.symm.shares hname⟩
    obtain ⟨found, hok, hsorted, hmem⟩ := h.exact hshared
    obtain ⟨found', hok', hsorted', hmem'⟩ := h'.exact hshared'
    obtain rfl : found = found' := eq_of_mem_iff hsorted hsorted' fun p => by
      rw [hmem, hmem', hsame.mem_iff hnames]
    exact Or.inl ⟨found, hok, hok'⟩

/-! ## The search of a migrator -/

variable {s s' : σ}

/-- The question for the change-sets without a record, when every directory is missing or can be
listed and the ledger gives its names, fails exactly if two directories hold an accepted file of the
same name, and then names the least such name; else it gives all accepted files whose names are not
in the ledger, each once with its own directory and in strictly ascending order of the names.
Another order of directories, entries, loaders or recorded names, on whatever connection, does not
change the list, nor the name in the error. -/
theorem pending_selects (hlist : ∀ dir ∈ m.config.paths, m.files.Listable dir)
    (hnames : Ledger.names m.connection s = (.ok names, s')) :
    m.Selects names (m.pending s).1 ∧
    ∀ {τ : Type} (m' : Migrator τ) (t t' : τ) (names' : List String), m.Reordered m' →
      (∀ name, name ∈ names' ↔ name ∈ names) →
      Ledger.names m'.connection t = (.ok names', t') →
      (∀ found, (m'.pending t).1 = .ok found ↔ (m.pending s).1 = .ok found) ∧
      ∀ file, (∃ first second, (m'.pending t).1 = .error (.duplicate file first second)) ↔
        ∃ first second, (m.pending s).1 = .error (.duplicate file first second) := by
  have hselects : m.Selects names (m.pending s).1 := by
    rw [pending_of_names hnames]
    exact selects_unrecorded hlist names
  refine ⟨hselects, fun {τ} m' t t' names' hsame hsameNames hnames' => ?_⟩
  have hselects' : m'.Selects names' (m'.pending t).1 := by
    rw [pending_of_names hnames']
    exact selects_unrecorded (hsame.listable hlist) names'
  rcases hselects.agree hselects' hsame hsameNames with
    ⟨found, hok, hok'⟩ | ⟨file, first, second, first', second', herror, herror'⟩
  · rw [hok, hok']
    exact ⟨fun _ => Iff.rfl, fun _ => by simp⟩
  · rw [herror, herror']
    exact ⟨fun _ => by simp, fun _ => by simp⟩

/-- Two directories, and a third one that is missing between them. -/
def scatteredSample : Migrator Memory :=
  { sample [("a", [("2.json", some []), ("0.json", some [])]), ("b", [("1.json", some [])])] with
    config := { Config.ofBase ⟨"/"⟩ with paths := [⟨"/a"⟩, ⟨"/none"⟩, ⟨"/b"⟩] } }

/-- The same directories and loaders in another order, and the files of one directory too. -/
def gatheredSample : Migrator Memory :=
  { scatteredSample with
    config := { Config.ofBase ⟨"/"⟩ with paths := [⟨"/b"⟩, ⟨"/a"⟩, ⟨"/none"⟩] }
    loaders := scatteredSample.loaders.reverse
    files := (sample [("b", [("1.json", some [])]),
      ("a", [("0.json", some []), ("2.json", some [])])]).files }

/-- The samples differ in their orders only. -/
lemma reordered_scatteredSample : scatteredSample.Reordered gatheredSample := by
  refine ⟨by decide, (List.reverse_perm _).symm, fun dir hdir => ?_⟩
  have hdirs : dir = ⟨"/a"⟩ ∨ dir = ⟨"/none"⟩ ∨ dir = ⟨"/b"⟩ := by
    simpa [scatteredSample] using hdir
  rcases hdirs with rfl | rfl | rfl
  · exact Or.inr ⟨_, _, rfl, rfl, by decide⟩
  · exact Or.inl rfl
  · exact Or.inl rfl

/-- One of three files has a record, and both samples give the other two.  The twins share a name,
and the error has it. -/
theorem pending_selects_sample :
    (∃ found, (scatteredSample.pending (openMemory none [⟨"0.json", "", "", ""⟩])).1 = .ok found ∧
      (gatheredSample.pending (openMemory none [⟨"0.json", "", "", ""⟩])).1 = .ok found ∧
      ⟨⟨"/a"⟩, "2.json"⟩ ∈ found ∧ ⟨⟨"/b"⟩, "1.json"⟩ ∈ found ∧ ⟨⟨"/a"⟩, "0.json"⟩ ∉ found) ∧
    ∃ first second,
      (twinSample.pending (openMemory none [])).1 = .error (.duplicate "1.json" first second) := by
  constructor
  · have hs := ready_openMemory none [⟨"0.json", "", "", ""⟩]
    have hlist : ∀ dir ∈ scatteredSample.config.paths, scatteredSample.files.Listable dir := by
      intro dir hdir
      have hdirs : dir = ⟨"/a"⟩ ∨ dir = ⟨"/none"⟩ ∨ dir = ⟨"/b"⟩ := by
        simpa [scatteredSample] using hdir
      rcases hdirs with rfl | rfl | rfl
      · exact Or.inr ⟨_, rfl, by decide⟩
      · exact Or.inl rfl
      · exact Or.inr ⟨_, rfl, by decide⟩
    have haccepted : acceptedInAll scatteredSample.files scatteredSample.loaders
        scatteredSample.config.paths =
          .ok [⟨⟨"/a"⟩, "2.json"⟩, ⟨⟨"/a"⟩, "0.json"⟩, ⟨⟨"/b"⟩, "1.json"⟩] := rfl
    have hnone : ¬∃ name, scatteredSample.Shares name := by
      rintro ⟨name, hname⟩
      have hcount := (shares_iff_count hlist haccepted).mp hname
      have hnodup : (["2.json", "0.json", "1.json"] : List String).Nodup := by decide
      exact absurd hcount (Nat.not_le_of_lt
        (Nat.lt_succ_of_le (List.nodup_iff_count_le_one.mp hnodup name)))
    obtain ⟨all, hall, hheld⟩ :=
      acceptedInAll_of_listable scatteredSample.loaders hlist
    obtain rfl := Except.ok.inj (haccepted.symm.trans hall)
    have hm : scatteredSample.connection.InMemory := ⟨_, _, rfl⟩
    obtain ⟨hselects, hreordered⟩ := pending_selects hlist (Ledger.names_of_accepts hm hs rfl)
    obtain ⟨found, hok, -, hmem⟩ := hselects.exact hnone
    have hm' : gatheredSample.connection.InMemory := ⟨_, _, rfl⟩
    have hsame := (hreordered gatheredSample _ _ _ reordered_scatteredSample (fun _ => Iff.rfl)
      (Ledger.names_of_accepts hm' hs rfl)).1 found
    refine ⟨found, hok, hsame.mpr hok, ?_, ?_, fun h => ?_⟩
    · obtain ⟨hdir, hholds⟩ := (hheld ⟨⟨"/a"⟩, "2.json"⟩).mp (by simp)
      exact (hmem _).mpr ⟨hdir, hholds, by decide⟩
    · obtain ⟨hdir, hholds⟩ := (hheld ⟨⟨"/b"⟩, "1.json"⟩).mp (by simp)
      exact (hmem _).mpr ⟨hdir, hholds, by decide⟩
    · exact absurd ((hmem _).mp h).2.2 (by decide)
  · have hs := ready_openMemory none []
    have hlist : ∀ dir ∈ twinSample.config.paths, twinSample.files.Listable dir := by
      intro dir hdir
      have hdirs : dir = ⟨"/a"⟩ ∨ dir = ⟨"/b"⟩ := by simpa [twinSample, sample] using hdir
      rcases hdirs with rfl | rfl <;> exact Or.inr ⟨_, rfl, by decide⟩
    have haccepted : acceptedInAll twinSample.files twinSample.loaders twinSample.config.paths =
        .ok [⟨⟨"/a"⟩, "1.json"⟩, ⟨⟨"/b"⟩, "1.json"⟩] := rfl
    have hshares : ∀ name, twinSample.Shares name ↔ 2 ≤ ["1.json", "1.json"].count name :=
      fun name => shares_iff_count hlist haccepted
    obtain ⟨hselects, -⟩ := pending_selects hlist
      (Ledger.names_of_accepts (inMemory_sample _) hs rfl)
    obtain ⟨file, first, second, herror⟩ :=
      hselects.duplicate_iff.mpr ⟨"1.json", (hshares _).mpr (by decide)⟩
    have hcount := (hshares file).mp (hselects.least _ _ _ herror).1
    obtain rfl : file = "1.json" := by
      have hmem := List.count_pos_iff.mp (Nat.lt_of_lt_of_le Nat.two_pos hcount)
      simpa using hmem
    exact ⟨first, second, herror⟩

end Migrator

end SchemaLedger
