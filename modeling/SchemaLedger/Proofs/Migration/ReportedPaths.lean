import SchemaLedger.Migration.Config
import SchemaLedger.Proofs.Files.Components

/-!
# Reported paths

A configuration resolves paths against its base directory and reports them relative to it.  A
resolved path is absolute, and its components are told from those of the path and of the base
(`Config.components_absolutePath`).  The report of an absolute path is what is left of it below the
base, if its components begin with those of the base, and the path itself otherwise
(`Config.relativePath_of_append`, `Config.relativePath_of_beside`).  Either way the report is
resolved to the same components, so nothing is lost by reporting (`Config.reports_resolve_back`).
-/

namespace SchemaLedger.Config

open SchemaLedger.Path

variable {c : Config} {p : Path}

/-! ## Resolved paths -/

/-- A resolved path is absolute. -/
lemma isAbsolute_absolutePath (hbase : c.baseDir.isAbsolute = true) (p : Path) :
    (c.absolutePath p).isAbsolute = true := by
  unfold absolutePath
  cases hp : p.normal.isAbsolute with
  | true => exact hp
  | false => exact (join_of_isRelative hbase hp).1

/-- The components of a resolved path: those of an absolute one stay, and those of a relative one
other than the dot are put behind those of the base. -/
theorem components_absolutePath (hbase : c.baseDir.isAbsolute = true) (p : Path) :
    (c.absolutePath p).components =
      if p.isAbsolute then p.components
      else c.baseDir.components ++ p.components.filter (· ≠ .current) := by
  have hnormal : p.normal.isAbsolute = p.isAbsolute := isAbsolute_normal
  unfold absolutePath
  cases hp : p.isAbsolute with
  | true =>
    rw [hnormal, hp, if_pos rfl, if_pos rfl]
    exact components_normal hp
  | false =>
    rw [hp] at hnormal
    rw [hnormal, if_neg Bool.false_ne_true, if_neg Bool.false_ne_true,
      (join_of_isRelative hbase hnormal).2, isAbsolute_steps_normal.2, filter_components hp]

/-! ## Reports -/

/-- What is left of an absolute path below the base is reported. -/
lemma relativePath_of_append (hp : p.isAbsolute = true) {rest : List Component}
    (h : p.components = c.baseDir.components ++ rest) :
    c.relativePath p = (Path.ofComponents rest).text := by
  have hnormal : p.normal.components = c.baseDir.components ++ rest :=
    (components_normal hp).trans h
  rw [relativePath, below, hnormal, stripComponents_append]
  rfl

/-- An absolute path that does not lie below the base is reported itself. -/
lemma relativePath_of_beside (hp : p.isAbsolute = true)
    (h : ¬ c.baseDir.components <+: p.components) : c.relativePath p = p.normal.text := by
  rw [relativePath, below, components_normal hp, stripComponents_eq_none h]
  rfl

/-- What an absolute path has behind the base are steps. -/
lemma isStep_of_append (hbase : c.baseDir.isAbsolute = true) (hp : p.isAbsolute = true)
    {rest : List Component} (h : p.components = c.baseDir.components ++ rest) :
    ∀ component ∈ rest, component.IsStep := by
  rw [components_of_isAbsolute hp, components_of_isAbsolute hbase, List.cons_append,
    List.cons.injEq] at h
  intro component hcomponent
  exact isStep_of_mem_steps (h.2 ▸ List.mem_append_right _ hcomponent)

/-- The report of an absolute path is resolved to a path with the same components. -/
lemma same_absolutePath_relativePath (hbase : c.baseDir.isAbsolute = true)
    (hp : p.isAbsolute = true) : (c.absolutePath ⟨c.relativePath p⟩).same p = true := by
  rw [same, beq_iff_eq, components_absolutePath hbase]
  by_cases hprefix : c.baseDir.components <+: p.components
  · obtain ⟨rest, hrest⟩ := hprefix
    have hsteps := isStep_of_append hbase hp hrest.symm
    obtain ⟨hrelative, htaken⟩ := ofComponents_steps hsteps
    have hreport : (⟨c.relativePath p⟩ : Path) = Path.ofComponents rest := by
      rw [relativePath_of_append hp hrest.symm]
    rw [hreport, hrelative, if_neg Bool.false_ne_true, filter_components hrelative, htaken, hrest]
  · have hreport : (⟨c.relativePath p⟩ : Path) = p.normal := by
      rw [relativePath_of_beside hp hprefix]
    rw [hreport, isAbsolute_normal, hp, if_pos rfl, components_normal hp]

/-- A path that is resolved against an absolute base is reported as follows.  The report of a
relative path has its components other than the dot, with slashes between them.  The report of an
absolute path has the components behind those of the base, if its components begin with them;
otherwise it is the path without what its components leave out.  Resolving the report gives a path
with the components of the path that was reported. -/
theorem reports_resolve_back (hbase : c.baseDir.isAbsolute = true) (p : Path) :
    (p.isAbsolute = false → c.relativePath (c.absolutePath p) =
      Text.join "/" ((p.components.filter (· ≠ .current)).map Component.text)) ∧
    (p.isAbsolute = true →
      (∀ rest, p.components = c.baseDir.components ++ rest →
        c.relativePath (c.absolutePath p) = Text.join "/" (rest.map Component.text)) ∧
      (¬ c.baseDir.components <+: p.components →
        c.relativePath (c.absolutePath p) = p.normal.text)) ∧
    (c.absolutePath ⟨c.relativePath (c.absolutePath p)⟩).same (c.absolutePath p) = true := by
  have hresolved := isAbsolute_absolutePath hbase p
  have hcomponents := components_absolutePath hbase p
  have hreport : ∀ rest, (c.absolutePath p).components = c.baseDir.components ++ rest →
      c.relativePath (c.absolutePath p) = Text.join "/" (rest.map Component.text) := by
    intro rest hrest
    have hsteps := isStep_of_append hbase hresolved hrest
    rw [relativePath_of_append hresolved hrest]
    exact text_ofComponents fun component hcomponent => (hsteps component hcomponent).ne_root
  refine ⟨fun hp => ?_, fun hp => ⟨fun rest hrest => ?_, fun hprefix => ?_⟩, ?_⟩
  · rw [hp, if_neg Bool.false_ne_true] at hcomponents
    exact hreport _ hcomponents
  · rw [hp, if_pos rfl] at hcomponents
    exact hreport rest (hcomponents.trans hrest)
  · rw [hp, if_pos rfl] at hcomponents
    rw [← hcomponents] at hprefix
    rw [relativePath_of_beside hresolved hprefix, Path.normal, hcomponents, Path.normal]
  · exact same_absolutePath_relativePath hbase hresolved

/-- A configuration with dots and repeated slashes in its base. -/
def reportSample : Config := ofBase ⟨"/srv//app/."⟩

/-- A relative path loses its dot and its slashes, a path below the base loses the base, and a path
beside the base, whose name begins with that of the base, is reported itself. -/
theorem reports_resolve_back_siblings :
    reportSample.relativePath (reportSample.absolutePath ⟨"./a//../b/"⟩) = "a/../b" ∧
    reportSample.relativePath (reportSample.absolutePath ⟨"/srv/./app//m/"⟩) = "m" ∧
    reportSample.relativePath (reportSample.absolutePath ⟨"/srv/app2/"⟩) = "/srv/app2" ∧
    (reportSample.absolutePath ⟨reportSample.relativePath
      (reportSample.absolutePath ⟨"/srv/app2/"⟩)⟩).same
        (reportSample.absolutePath ⟨"/srv/app2/"⟩) = true := by
  have hbase : reportSample.baseDir.isAbsolute = true := by decide
  obtain ⟨hrelative, -, -⟩ := reports_resolve_back hbase ⟨"./a//../b/"⟩
  obtain ⟨-, hbelow, -⟩ := reports_resolve_back hbase ⟨"/srv/./app//m/"⟩
  obtain ⟨-, hbeside, hsame⟩ := reports_resolve_back hbase ⟨"/srv/app2/"⟩
  exact ⟨hrelative (by decide), (hbelow (by decide)).1 [.name "m"] (by decide),
    (hbeside (by decide)).2 (by decide), hsame⟩

end SchemaLedger.Config
