import SchemaLedger.Files.Path
import SchemaLedger.Proofs.Text.Pieces
import Mathlib.Data.List.Basic

/-!
# Components of paths

The components of a path are the one in front, which says where the path starts, and the steps
behind it, which are read from the parts between the slashes (`Path.steps`).  Steps that are written
with slashes between them are read back (`componentsOfParts_join`), so a path without what its
components leave out has the same components (`components_normal`).  A relative path that is put
behind an absolute one adds its steps (`join_of_isRelative`), and what is left of a path below
another one are the steps that it adds (`stripComponents_append`).
-/

namespace SchemaLedger.Path

/-! ## Steps -/

/-- A component that a part between slashes stands for. -/
def Component.IsStep (c : Component) : Prop :=
  '/' ∉ c.text.toList ∧ componentOfPart c.text.toList = some c

/-- The components that the parts of a path stand for: all but the one in front. -/
def steps (p : Path) : List Component := componentsOfParts (Text.splitOn '/' p.text.toList)

variable {p q : Path} {c : Component} {cs rest : List Component}

/-- A component is written as the part that it was read from. -/
lemma isStep_of_part {part : List Char} (hslash : '/' ∉ part)
    (h : componentOfPart part = some c) : c.IsStep := by
  have htext : c.text.toList = part := by
    unfold componentOfPart at h
    split_ifs at h with hleft hparent
    · cases h
      exact hparent.symm
    · cases h
      exact String.toList_ofList
  rw [Component.IsStep, htext]
  exact ⟨hslash, h⟩

lemma isStep_of_mem_steps (h : c ∈ p.steps) : c.IsStep := by
  obtain ⟨part, hpart, hc⟩ := List.mem_filterMap.mp h
  exact isStep_of_part (Text.not_mem_of_mem_splitOn hpart) hc

/-- A step is neither the root nor the dot in front of a path. -/
lemma Component.IsStep.ne_root (h : c.IsStep) : c ≠ .root := by
  rintro rfl
  exact h.1 (by decide)

lemma Component.IsStep.ne_current (h : c.IsStep) : c ≠ .current := by
  rintro rfl
  exact absurd h.2 (by decide)

/-- Nothing is left out of steps that has no effect. -/
lemma filter_steps : p.steps.filter (· ≠ .current) = p.steps :=
  List.filter_eq_self.mpr fun _ hc => decide_eq_true (isStep_of_mem_steps hc).ne_current

/-- Steps that are written with slashes between them are read back. -/
lemma componentsOfParts_join (h : ∀ c ∈ cs, c.IsStep) :
    componentsOfParts (Text.splitOn '/' (Text.join "/" (cs.map Component.text)).toList) = cs := by
  cases cs with
  | nil => rfl
  | cons first others =>
    have hpieces : Text.splitOn '/' (Text.join "/" ((first :: others).map Component.text)).toList =
        (first :: others).map fun c => c.text.toList := by
      have hslash : ∀ text ∈ (first :: others).map Component.text, '/' ∉ text.toList := by
        intro text htext
        obtain ⟨c, hc, rfl⟩ := List.mem_map.mp htext
        exact (h c hc).1
      have hsplit := Text.split_join (List.cons_ne_nil _ _) hslash
      have hchars := congrArg (List.map String.toList) hsplit
      rw [Text.split, List.map_map] at hchars
      simpa [Function.comp_def] using hchars
    rw [hpieces, componentsOfParts, List.filterMap_map]
    calc (first :: others).filterMap (componentOfPart ∘ fun c => c.text.toList)
      _ = (first :: others).filterMap some := List.filterMap_congr fun c hc => (h c hc).2
      _ = first :: others := List.filterMap_some

/-- The parts on both sides of a slash have their own components. -/
lemma componentsOfParts_slash (front rest : List Char) :
    componentsOfParts (Text.splitOn '/' (front ++ '/' :: rest)) =
      componentsOfParts (Text.splitOn '/' front) ++ componentsOfParts (Text.splitOn '/' rest) := by
  rw [Text.splitOn_append, componentsOfParts, List.filterMap_append]
  rfl

/-- A slash puts the steps of what follows it behind the steps in front of it. -/
lemma steps_slash (s t : String) : steps ⟨s ++ "/" ++ t⟩ = steps ⟨s⟩ ++ steps ⟨t⟩ := by
  have htext : (s ++ "/" ++ t).toList = s.toList ++ '/' :: t.toList := by simp
  rw [steps, htext, componentsOfParts_slash]
  rfl

/-! ## The component in front -/

/-- Whether a path is absolute is told from its first character. -/
lemma isAbsolute_append (h : p.text ≠ "") (s : String) :
    isAbsolute ⟨p.text ++ s⟩ = p.isAbsolute := by
  cases htext : p.text.toList with
  | nil => exact absurd (String.toList_injective htext) h
  | cons c rest =>
    have happend : (p.text ++ s).toList = c :: (rest ++ s.toList) := by simp [htext]
    by_cases hc : c = '/' <;> simp [isAbsolute, htext, happend, hc]

/-- An absolute path starts at the root. -/
lemma components_of_isAbsolute (h : p.isAbsolute = true) : p.components = .root :: p.steps := by
  unfold isAbsolute at h
  split at h
  · rename_i rest htext
    obtain ⟨piece, pieces, hpieces⟩ := List.exists_cons_of_ne_nil (Text.splitOn_ne_nil '/' rest)
    have hparts : Text.splitOn '/' p.text.toList = [] :: piece :: pieces := by
      rw [htext, Text.splitOn, if_pos rfl, hpieces]
    rw [components, steps, hparts]
    rfl
  · cases h

/-- A relative path starts with its first step or with a dot. -/
lemma components_of_isRelative (h : p.isAbsolute = false) :
    p.components = p.steps ∨ p.components = .current :: p.steps := by
  have hne : ∀ piece pieces, Text.splitOn '/' p.text.toList ≠ [] :: piece :: pieces := by
    intro piece pieces hparts
    cases htext : p.text.toList with
    | nil =>
      rw [htext] at hparts
      cases hparts
    | cons c rest =>
      have hc : c ≠ '/' := by
        rintro rfl
        simp [isAbsolute, htext] at h
      obtain ⟨first, others, hfirst⟩ := List.exists_cons_of_ne_nil (Text.splitOn_ne_nil '/' rest)
      rw [htext, Text.splitOn, if_neg hc, hfirst] at hparts
      cases hparts
  rw [components]
  unfold leadingComponent
  split
  · rename_i hparts
    exact absurd hparts (hne _ _)
  · exact .inr rfl
  · exact .inl rfl

/-- The steps of a relative path are its components other than the dot. -/
lemma filter_components (h : p.isAbsolute = false) :
    p.components.filter (· ≠ .current) = p.steps := by
  rcases components_of_isRelative h with hp | hp
  · rw [hp, filter_steps]
  · rw [hp, List.filter_cons_of_neg (by decide), filter_steps]

/-! ## Paths of components -/

/-- The root and steps behind it are an absolute path. -/
lemma ofComponents_root (h : ∀ c ∈ cs, c.IsStep) :
    (ofComponents (.root :: cs)).isAbsolute = true ∧ (ofComponents (.root :: cs)).steps = cs := by
  have htext : (ofComponents (.root :: cs)).text.toList =
      '/' :: (Text.join "/" (cs.map Component.text)).toList := by
    simp [ofComponents]
  refine ⟨by simp only [isAbsolute, htext], ?_⟩
  rw [steps, htext, Text.splitOn, if_pos rfl, componentsOfParts, List.filterMap_cons]
  exact componentsOfParts_join h

/-- The text of components behind something else than the root. -/
lemma text_ofComponents (h : ∀ c ∈ cs, c ≠ .root) :
    (ofComponents cs).text = Text.join "/" (cs.map Component.text) := by
  cases cs with
  | nil => rfl
  | cons c cs =>
    cases c with
    | root => exact absurd rfl (h _ List.mem_cons_self)
    | _ => rfl

/-- Steps are a relative path. -/
lemma ofComponents_steps (h : ∀ c ∈ cs, c.IsStep) :
    (ofComponents cs).isAbsolute = false ∧ (ofComponents cs).steps = cs := by
  have htext := text_ofComponents fun c hc => (h c hc).ne_root
  refine ⟨?_, by rw [steps, htext, componentsOfParts_join h]⟩
  cases cs with
  | nil => rfl
  | cons c others =>
    obtain ⟨hslash, hpart⟩ := h c List.mem_cons_self
    cases hchars : c.text.toList with
    | nil => simp [hchars, componentOfPart] at hpart
    | cons first more =>
      have hfirst : first ≠ '/' := by
        rintro rfl
        exact hslash (hchars ▸ List.mem_cons_self)
      have hhead : (Text.join "/" ((c :: others).map Component.text)).toList.head? =
          some first := by
        cases others <;> simp [Text.join, hchars]
      rw [isAbsolute, htext]
      split
      · rename_i hroot
        rw [hroot] at hhead
        exact absurd (Option.some.inj hhead).symm hfirst
      · rfl

/-- A dot and steps behind it are a relative path of these steps. -/
lemma ofComponents_current (h : ∀ c ∈ cs, c.IsStep) :
    (ofComponents (.current :: cs)).isAbsolute = false ∧
      (ofComponents (.current :: cs)).steps = cs := by
  have htext : (ofComponents (.current :: cs)).text =
      Text.join "/" ("." :: cs.map Component.text) := rfl
  cases cs with
  | nil => exact ⟨rfl, rfl⟩
  | cons c others =>
    have hchars : (ofComponents (.current :: c :: others)).text.toList =
        '.' :: '/' :: (Text.join "/" ((c :: others).map Component.text)).toList := by
      rw [htext, List.map_cons, Text.join]
      simp
    have hparts := componentsOfParts_slash ['.']
      (Text.join "/" ((c :: others).map Component.text)).toList
    rw [List.singleton_append, componentsOfParts_join h] at hparts
    refine ⟨by simp [isAbsolute, hchars], ?_⟩
    rw [steps, hchars, hparts]
    rfl

/-! ## Paths without what their components leave out -/

/-- A normal path starts where the path does and takes the same steps. -/
lemma isAbsolute_steps_normal : p.normal.isAbsolute = p.isAbsolute ∧ p.normal.steps = p.steps := by
  have hsteps : ∀ c ∈ p.steps, c.IsStep := fun _ => isStep_of_mem_steps
  cases hp : p.isAbsolute with
  | true =>
    rw [normal, components_of_isAbsolute hp]
    exact ofComponents_root hsteps
  | false =>
    rcases components_of_isRelative hp with hcomponents | hcomponents <;> rw [normal, hcomponents]
    · exact ofComponents_steps hsteps
    · exact ofComponents_current hsteps

lemma isAbsolute_normal : p.normal.isAbsolute = p.isAbsolute := isAbsolute_steps_normal.1

/-- A normal absolute path has the components of the path. -/
lemma components_normal (h : p.isAbsolute = true) : p.normal.components = p.components := by
  rw [components_of_isAbsolute h, components_of_isAbsolute (isAbsolute_normal.trans h),
    isAbsolute_steps_normal.2]

/-! ## Paths behind and below others -/

/-- A relative path behind an absolute one adds its steps. -/
lemma join_of_isRelative (hp : p.isAbsolute = true) (hq : q.isAbsolute = false) :
    (p.join q).isAbsolute = true ∧ (p.join q).components = p.components ++ q.steps := by
  obtain ⟨front, htext⟩ : ∃ front, (p.join q).text.toList = front ++ '/' :: q.text.toList ∧
      (p.text.toList = front ∨ p.text.toList = front ++ ['/']) := by
    rw [join, if_neg (ne_true_of_eq_false hq)]
    split
    · rename_i hlast
      rw [List.getLast?_eq_none_iff] at hlast
      simp [isAbsolute, hlast] at hp
    · rename_i hlast
      obtain ⟨front, hfront⟩ := List.getLast?_eq_some_iff.mp hlast
      exact ⟨front, by simp [hfront], .inr hfront⟩
    · exact ⟨p.text.toList, by simp, .inl rfl⟩
  obtain ⟨hjoined, hbase⟩ := htext
  have hfront : p.steps = componentsOfParts (Text.splitOn '/' front) := by
    rcases hbase with hbase | hbase
    · rw [steps, hbase]
    · rw [steps, hbase, componentsOfParts_slash]
      exact List.append_nil _
  have hsteps : (p.join q).steps = p.steps ++ q.steps := by
    rw [hfront, steps, hjoined, componentsOfParts_slash]
    rfl
  have habsolute : (p.join q).isAbsolute = true := by
    unfold isAbsolute at hp
    split at hp
    · rename_i rest hroot
      rw [isAbsolute, hjoined]
      cases front with
      | nil => rfl
      | cons c front =>
        have hc : c = '/' := by
          rcases hbase with hbase | hbase <;> rw [hbase] at hroot <;> cases hroot <;> rfl
        rw [hc]
        rfl
    · cases hp
  refine ⟨habsolute, ?_⟩
  rw [components_of_isAbsolute habsolute, components_of_isAbsolute hp, hsteps]
  rfl

/-- What is left of components behind others are the components that were added. -/
lemma stripComponents_append (base rest : List Component) :
    stripComponents (base ++ rest) base = some rest := by
  induction base with
  | nil => exact stripComponents.eq_1 rest
  | cons c base ih =>
    rw [List.cons_append, stripComponents, if_pos rfl]
    exact ih

/-- Nothing is left of components that do not begin with others. -/
lemma stripComponents_eq_none {base : List Component} (h : ¬ base <+: cs) :
    stripComponents cs base = none := by
  induction base generalizing cs with
  | nil => exact absurd List.nil_prefix h
  | cons d base ih =>
    cases cs with
    | nil => rfl
    | cons c cs =>
      rw [stripComponents]
      split
      · rename_i hc
        exact ih fun hprefix => h (List.cons_prefix_cons.mpr ⟨hc.symm, hprefix⟩)
      · rfl

end SchemaLedger.Path
