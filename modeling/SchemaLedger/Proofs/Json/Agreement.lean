import SchemaLedger.Json.Decode
import Mathlib.Tactic.Common

/-!
# Agreement of decoders

Two results of decoding agree if both are errors, whichever ones, or both are values in a relation
(`Agree`).  This is what it takes for two documents to be accepted alike and to mean the same.

A value is readable if no flaw is met in using it, and passable if none is met in passing over it.
Both are told from the parts of a value one by one, so the order of members does not matter.
-/

namespace SchemaLedger.Json

/-- Two results agree: both are values in a relation, or both are errors, which may differ. -/
inductive Agree {ε α β : Type} (R : α → β → Prop) : Except ε α → Except ε β → Prop
  | ok {a : α} {b : β} (h : R a b) : Agree R (.ok a) (.ok b)
  | error (e f : ε) : Agree R (.error e) (.error f)

namespace Agree

variable {ε α β γ δ : Type} {R : α → β → Prop} {S : γ → δ → Prop} {x : Except ε α} {y : Except ε β}

lemma refl (x : Except ε α) : Agree Eq x x := by
  cases x with
  | error e => exact .error e e
  | ok a => exact .ok rfl

lemma symm (h : Agree R x y) : Agree (fun b a => R a b) y x := by
  cases h with
  | error e f => exact .error f e
  | ok h => exact .ok h

lemma mono {Q : α → β → Prop} (h : Agree R x y) (hRQ : ∀ a b, R a b → Q a b) : Agree Q x y := by
  cases h with
  | error e f => exact .error e f
  | ok h => exact .ok (hRQ _ _ h)

/-- Agreement is handed on from one pair of results to the next. -/
lemma trans {Q : β → γ → Prop} {P : α → γ → Prop} {z : Except ε γ} (hxy : Agree R x y)
    (hyz : Agree Q y z) (h : ∀ a b c, R a b → Q b c → P a c) : Agree P x z := by
  cases hxy with
  | error e f =>
    cases hyz with
    | error f g => exact .error e g
  | ok hab =>
    cases hyz with
    | ok hbc => exact .ok (h _ _ _ hab hbc)

/-- Continuations that agree on related values agree behind results that do. -/
lemma bind {f : α → Except ε γ} {g : β → Except ε δ} (h : Agree R x y)
    (hfg : ∀ a b, R a b → Agree S (f a) (g b)) : Agree S (x >>= f) (y >>= g) := by
  cases h with
  | error e f => exact .error e f
  | ok h => exact hfg _ _ h

lemma map {f : α → γ} {g : β → δ} (h : Agree R x y) (hfg : ∀ a b, R a b → S (f a) (g b)) :
    Agree S (x.map f) (y.map g) := by
  cases h with
  | error e f => exact .error e f
  | ok h => exact .ok (hfg _ _ h)

/-- Results that agree do so under a function of their values. -/
lemma congr_map {x y : Except ε α} (h : Agree Eq x y) (f : α → γ) :
    Agree Eq (x.map f) (y.map f) :=
  h.map fun _ _ heq => congrArg f heq

/-- Results that agree are both errors, or they are both values. -/
lemma cases_of (h : Agree R x y) :
    (∃ e f, x = .error e ∧ y = .error f) ∨ ∃ a b, x = .ok a ∧ y = .ok b ∧ R a b := by
  cases h with
  | error e f => exact .inl ⟨e, f, rfl, rfl⟩
  | ok hab => exact .inr ⟨_, _, rfl, rfl, hab⟩

end Agree

/-! ## Values without flaws -/

/-- No flaw is met in using the whole value. -/
def IsReadable (value : Json) : Prop := value.check = .ok ()

/-- No flaw is met in passing over the value. -/
def IsPassable (value : Json) : Prop := value.skip = .ok ()

variable {value : Json} {items : List Json} {members : List (Key × Json)}

/-- A list is readable if its items are. -/
lemma isReadable_array : IsReadable (.array items) ↔ ∀ item ∈ items, IsReadable item := by
  rw [IsReadable, check]
  induction items with
  | nil => exact iff_of_true rfl (List.forall_mem_nil _)
  | cons item items ih =>
    rw [checkItems, List.forall_mem_cons, IsReadable, ← ih]
    cases check item with
    | error e => simp
    | ok _ => simp

/-- An object is readable if its keys and values are. -/
lemma isReadable_object : IsReadable (.object members) ↔
    ∀ member ∈ members, member.1.check = .ok () ∧ IsReadable member.2 := by
  rw [IsReadable, check]
  induction members with
  | nil => exact iff_of_true rfl (List.forall_mem_nil _)
  | cons member members ih =>
    obtain ⟨key, value⟩ := member
    rw [checkMembers, List.forall_mem_cons, IsReadable, ← ih]
    cases key.check with
    | error e => simp
    | ok _ =>
      cases check value with
      | error e => simp
      | ok _ => simp

/-- A list is passable if its items are. -/
lemma isPassable_array : IsPassable (.array items) ↔ ∀ item ∈ items, IsPassable item := by
  rw [IsPassable, skip]
  induction items with
  | nil => exact iff_of_true rfl (List.forall_mem_nil _)
  | cons item items ih =>
    rw [skipItems, List.forall_mem_cons, IsPassable, ← ih]
    cases skip item with
    | error e => simp
    | ok _ => simp

/-- An object is passable if its keys and values are. -/
lemma isPassable_object : IsPassable (.object members) ↔
    ∀ member ∈ members, member.1.skip = .ok () ∧ IsPassable member.2 := by
  rw [IsPassable, skip]
  induction members with
  | nil => exact iff_of_true rfl (List.forall_mem_nil _)
  | cons member members ih =>
    obtain ⟨key, value⟩ := member
    rw [skipMembers, List.forall_mem_cons, IsPassable, ← ih]
    cases key.skip with
    | error e => simp
    | ok _ =>
      cases skip value with
      | error e => simp
      | ok _ => simp

/-- What can be used can be passed over. -/
theorem IsReadable.isPassable : ∀ {value : Json}, IsReadable value → IsPassable value
  | .null, _ | .bool _, _ | .number _, _ | .string _, _ => rfl
  | .array items, h => by
    rw [isReadable_array] at h
    rw [isPassable_array]
    exact fun item hitem => (h item hitem).isPassable
  | .object members, h => by
    rw [isReadable_object] at h
    rw [isPassable_object]
    intro member hmember
    obtain ⟨hkey, hvalue⟩ := h member hmember
    refine ⟨?_, hvalue.isPassable⟩
    cases hname : member.1 with
    | name key => rfl
    | flawed flaw =>
      rw [hname] at hkey
      cases hkey
  | .flawed _, h => nomatch h
termination_by value => sizeOf value
decreasing_by
  · have := List.sizeOf_lt_of_mem hitem
    simp
    omega
  · have := List.sizeOf_lt_of_mem hmember
    obtain ⟨key, value⟩ := member
    simp at *
    omega

lemma hold_eq_ok_iff : hold value = .ok () ↔ IsReadable value := by
  rw [hold, IsReadable]
  cases check value with
  | error e => simp [orMalformed]
  | ok _ => simp [orMalformed]

lemma ignore_eq_ok_iff : ignore value = .ok () ↔ IsPassable value := by
  rw [ignore, IsPassable]
  cases skip value with
  | error e => simp [orMalformed]
  | ok _ => simp [orMalformed]

/-- Results without a value agree if one is an error whenever the other is. -/
lemma agree_of_ok_iff {ε : Type} {x y : Except ε Unit} (h : x = .ok () ↔ y = .ok ()) :
    Agree Eq x y := by
  cases x with
  | error e =>
    cases y with
    | error f => exact .error e f
    | ok _ => exact absurd (h.mpr rfl) (fun heq => nomatch heq)
  | ok _ => rw [h.mp rfl]; exact .ok rfl

end SchemaLedger.Json
