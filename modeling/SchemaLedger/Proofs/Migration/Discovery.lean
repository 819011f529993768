import SchemaLedger.Migration.Pending
import Mathlib.Data.List.Duplicate
import Mathlib.Data.List.Perm.Subperm
import Mathlib.Data.String.Basic
import Mathlib.Tactic.Common

/-!
# Change-sets in the order of their names

The files that `discover` finds are sorted by name, and it fails when two neighbours have the same
one.  Sorting puts equal names next to each other, so `discover` fails exactly on a repeated name
and names the least of them (`discover_of_duplicate`), and the change-sets it gives come in strictly
ascending order of their names (`pairwise_lt_of_discover`), none of which is empty.
-/

namespace SchemaLedger

namespace Pending

/-! ## Neighbours with the same name -/

/-- The order by names is transitive. -/
lemma nameLe_trans (a b c : Pending) (hab : nameLe a b = true) (hbc : nameLe b c = true) :
    nameLe a c = true := by
  rw [nameLe, decide_eq_true_eq] at hab hbc ⊢
  exact le_trans hab hbc

/-- Any two names are in order. -/
lemma nameLe_total (a b : Pending) : (nameLe a b || nameLe b a) = true := by
  rw [nameLe, nameLe, Bool.or_eq_true, decide_eq_true_eq, decide_eq_true_eq]
  exact le_total a.file b.file

/-- Sorting by names puts the names in ascending order. -/
lemma pairwise_le_mergeSort (found : List Pending) :
    (found.mergeSort nameLe).Pairwise fun a b => a.file ≤ b.file := by
  have hsorted := List.pairwise_mergeSort nameLe_trans nameLe_total found
  exact hsorted.imp fun h => of_decide_eq_true h

/-- In a sorted list without equal neighbours the names ascend strictly. -/
lemma pairwise_lt_of_firstDuplicate {sorted : List Pending}
    (hsorted : sorted.Pairwise fun a b => a.file ≤ b.file) (h : firstDuplicate sorted = none) :
    sorted.Pairwise fun a b => a.file < b.file := by
  induction sorted with
  | nil => exact List.Pairwise.nil
  | cons a rest ih =>
    cases rest with
    | nil => exact List.pairwise_singleton _ _
    | cons b rest =>
      rw [firstDuplicate] at h
      split_ifs at h with hname
      obtain ⟨hfirst, hrest⟩ := List.pairwise_cons.mp hsorted
      have hstrict := ih hrest h
      have hab : a.file < b.file := lt_of_le_of_ne (hfirst b List.mem_cons_self) hname
      refine List.pairwise_cons.mpr ⟨fun p hp => ?_, hstrict⟩
      rcases List.mem_cons.mp hp with rfl | hp
      · exact hab
      · exact lt_trans hab ((List.pairwise_cons.mp hstrict).1 p hp)

/-- The first equal neighbours of a sorted list have the least of the repeated names. -/
lemma firstDuplicate_eq_some {sorted : List Pending} {a b : Pending}
    (hsorted : sorted.Pairwise fun a b => a.file ≤ b.file)
    (h : firstDuplicate sorted = some (a, b)) :
    a.file = b.file ∧ [a, b].Sublist sorted ∧
      ∀ name, (sorted.map Pending.file).Duplicate name → a.file ≤ name := by
  induction sorted with
  | nil => simp [firstDuplicate] at h
  | cons c rest ih =>
    cases rest with
    | nil => simp [firstDuplicate] at h
    | cons d rest =>
      obtain ⟨hfirst, hrest⟩ := List.pairwise_cons.mp hsorted
      rw [firstDuplicate] at h
      split_ifs at h with hname
      · obtain ⟨rfl, rfl⟩ := Prod.mk.inj (Option.some.inj h)
        refine ⟨hname, ?_, fun name hrepeated => ?_⟩
        · exact ((List.nil_sublist rest).cons_cons d).cons_cons c
        · rcases List.mem_cons.mp hrepeated.mem with rfl | hmem
          · exact le_rfl
          · obtain ⟨p, hp, rfl⟩ := List.mem_map.mp hmem
            exact hfirst p hp
      · obtain ⟨heq, hsub, hleast⟩ := ih hrest h
        refine ⟨heq, hsub.cons c, fun name hrepeated => ?_⟩
        cases hrepeated with
        | cons_duplicate hrepeated => exact hleast name hrepeated
        | cons_mem hmem =>
          -- A sorted list that returns to its first name has it at its second place too.
          obtain ⟨p, hp, heqp⟩ := List.mem_map.mp hmem
          have hcd : c.file ≤ d.file := hfirst d List.mem_cons_self
          have hdc : d.file ≤ c.file := by
            rw [← heqp]
            rcases List.mem_cons.mp hp with rfl | hp
            · exact le_rfl
            · exact (List.pairwise_cons.mp hrest).1 p hp
          exact absurd (le_antisymm hcd hdc) hname

end Pending

/-! ## Accepted files -/

variable {files : FileSystem} {loaders : List Loader} {dirs : List Path} {found : List Pending}

/-- No accepted file of a directory is without a name. -/
lemma file_ne_of_acceptedFiles {dir : Path} (h : acceptedFiles files loaders dir = .ok found) :
    ∀ p ∈ found, p.file ≠ "" := by
  intro p hp
  unfold acceptedFiles at h
  split at h
  · cases h
    exact absurd hp List.not_mem_nil
  · cases h
  · cases h
    obtain ⟨entry, -, rfl⟩ := List.mem_map.mp hp
    exact entry.name_ne

/-- No accepted file is without a name. -/
lemma file_ne_of_acceptedInAll (h : acceptedInAll files loaders dirs = .ok found) :
    ∀ p ∈ found, p.file ≠ "" := by
  induction dirs generalizing found with
  | nil =>
    cases h
    exact fun p hp => absurd hp List.not_mem_nil
  | cons dir dirs ih =>
    unfold acceptedInAll at h
    split at h
    · cases h
    · rename_i first hfirst
      split at h
      · cases h
      · rename_i more hmore
        cases h
        intro p hp
        rcases List.mem_append.mp hp with hp | hp
        · exact file_ne_of_acceptedFiles hfirst p hp
        · exact ih hmore p hp

/-! ## Discovery -/

/-- What is found are the accepted files, sorted, if no two neighbours have the same name. -/
lemma discover_eq_ok (h : discover files loaders dirs = .ok found) :
    ∃ accepted, acceptedInAll files loaders dirs = .ok accepted ∧
      found = accepted.mergeSort Pending.nameLe ∧ Pending.firstDuplicate found = none := by
  unfold discover at h
  split at h
  · cases h
  · rename_i accepted haccepted
    dsimp only at h
    split at h
    · cases h
    · rename_i hnone
      cases h
      exact ⟨accepted, haccepted, rfl, hnone⟩

/-- Accepted files of distinct names are all found, in the order of their names. -/
lemma discover_of_nodup (h : acceptedInAll files loaders dirs = .ok found)
    (hnodup : (found.map Pending.file).Nodup) :
    discover files loaders dirs = .ok (found.mergeSort Pending.nameLe) := by
  have hnone : Pending.firstDuplicate (found.mergeSort Pending.nameLe) = none := by
    cases hfirst : Pending.firstDuplicate (found.mergeSort Pending.nameLe) with
    | none => rfl
    | some pair =>
      obtain ⟨heq, hsub, -⟩ :=
        Pending.firstDuplicate_eq_some (Pending.pairwise_le_mergeSort found) hfirst
      have hdistinct := ((List.mergeSort_perm found Pending.nameLe).map Pending.file).nodup_iff.mpr
        hnodup
      exact absurd heq (List.pairwise_pair.mp (hdistinct.sublist (hsub.map Pending.file)))
  simp only [discover, h, hnone]

/-- Accepted files that come in strictly ascending order of their names are found as they are. -/
lemma discover_of_pairwise_lt (h : acceptedInAll files loaders dirs = .ok found)
    (hsorted : found.Pairwise fun a b => a.file < b.file) :
    discover files loaders dirs = .ok found := by
  have hle : found.Pairwise fun a b => Pending.nameLe a b = true :=
    hsorted.imp fun h => decide_eq_true (le_of_lt h)
  have hnodup : (found.map Pending.file).Nodup :=
    List.pairwise_map.mpr (hsorted.imp fun h => ne_of_lt h)
  rw [discover_of_nodup h hnodup, List.mergeSort_of_pairwise hle]

/-- The change-sets that are found come in strictly ascending order of their names. -/
theorem pairwise_lt_of_discover (h : discover files loaders dirs = .ok found) :
    found.Pairwise fun a b => a.file < b.file := by
  obtain ⟨accepted, -, rfl, hnone⟩ := discover_eq_ok h
  exact Pending.pairwise_lt_of_firstDuplicate (Pending.pairwise_le_mergeSort accepted) hnone

/-- No change-set that is found is without a name. -/
theorem file_ne_of_discover (h : discover files loaders dirs = .ok found) :
    ∀ p ∈ found, p.file ≠ "" := by
  obtain ⟨accepted, haccepted, rfl, -⟩ := discover_eq_ok h
  intro p hp
  exact file_ne_of_acceptedInAll haccepted p (List.mem_mergeSort.mp hp)

/-- When a name is repeated among the accepted files, discovery fails with the least such name and
with the directories of two of its files. -/
theorem discover_of_duplicate (h : acceptedInAll files loaders dirs = .ok found) {name : String}
    (hname : 2 ≤ (found.map Pending.file).count name) :
    ∃ file first second,
      discover files loaders dirs = .error (.duplicate file first second) ∧
      [⟨first, file⟩, ⟨second, file⟩].Subperm found ∧
      ∀ other, 2 ≤ (found.map Pending.file).count other → file ≤ other := by
  have hperm := List.mergeSort_perm found Pending.nameLe
  have hsorted := Pending.pairwise_le_mergeSort found
  have hcount : ∀ other, 2 ≤ (found.map Pending.file).count other →
      ((found.mergeSort Pending.nameLe).map Pending.file).Duplicate other := by
    intro other hother
    rw [List.duplicate_iff_two_le_count, (hperm.map Pending.file).count_eq]
    exact hother
  cases hfirst : Pending.firstDuplicate (found.mergeSort Pending.nameLe) with
  | none =>
    have hnodup : ((found.mergeSort Pending.nameLe).map Pending.file).Nodup := by
      have hstrict := Pending.pairwise_lt_of_firstDuplicate hsorted hfirst
      exact List.pairwise_map.mpr (hstrict.imp fun h => ne_of_lt h)
    exact absurd hnodup (hcount name hname).not_nodup
  | some pair =>
    obtain ⟨a, b⟩ := pair
    obtain ⟨heq, hsub, hleast⟩ := Pending.firstDuplicate_eq_some hsorted hfirst
    refine ⟨a.file, a.path, b.path, ?_, ?_, fun other hother => hleast other (hcount other hother)⟩
    · simp only [discover, h, hfirst]
    · have hb : (⟨b.path, a.file⟩ : Pending) = b := by rw [heq]
      rw [hb]
      exact hsub.subperm.trans hperm.subperm

end SchemaLedger
