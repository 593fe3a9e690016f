import AgentCanvas.Proofs.Json.Finite
import AgentCanvas.Proofs.Schema.Checked

/-!
# Checks and lost numbers

What a check makes of a value whose infinite numbers and NaN have become null. A check that asks
for no number accepts such a value as it accepted the original one: it has looked at the lost
numbers only to ignore them.

## Key definitions

- `Checked.Tolerant`: a check that accepts a value with lost numbers as it accepted the value.
- `Members.Loses`: members whose values have lost numbers.

## Key results

- `Checked.Tolerant.optional`, `Checked.Tolerant.optionalEither`, `Checked.Tolerant.required`:
  fields of records.
- `Checked.Tolerant.list`: lists of values.
-/

namespace AgentCanvas

namespace Checked

variable {α β : Type}

/-- A second outcome has the value that the first one has, if that has one. -/
def Entails (x y : Checked α) : Prop :=
  ∀ a, x = valid a → y = valid a

theorem Entails.refl (x : Checked α) : x.Entails x :=
  fun _ h => h

/-- Independent checks are replaced one by one. -/
theorem Entails.also {f g : Checked (α → β)} {x y : Checked α} (hf : f.Entails g)
    (hx : x.Entails y) : (f.also x).Entails (g.also y) := by
  intro b h
  obtain ⟨build, a, hbuild, ha, rfl⟩ := also_eq_valid_iff.mp h
  exact also_eq_valid_iff.mpr ⟨build, a, hf _ hbuild, hx _ ha, rfl⟩

/-- A check that accepts a value as before when numbers in it have become null. A value that it
accepts is no lost number itself. -/
structure Tolerant (check : Json → Checked α) : Prop where
  entails : ∀ value, (check value).Entails (check value.finiteOnly)
  isNull : ∀ value a, check value = valid a → value.finiteOnly.isNull → value.isNull

end Checked

/-- Members of an object and what is left of them when numbers have become null: a value is kept
unless it is such a number itself, and no key is added. -/
structure Members.Loses (members kept : Members) : Prop where
  absent : ∀ key, members.get? key = none → kept.get? key = none
  present : ∀ key value, members.get? key = some value →
    (value.finiteOnly.isNull → value.isNull) → kept.get? key = some value.finiteOnly

namespace Members

theorem loses_finiteMembers (members : Members) : Loses members (Json.finiteMembers members) where
  absent key h := by rw [Json.get?_finiteMembers, h, Option.map_none]
  present key value h _ := by rw [Json.get?_finiteMembers, h, Option.map_some]

end Members

namespace Checked

variable {α β : Type} {check : Json → Checked α}

/-! ## Fields -/

section Fields

variable {members kept : Members}

/-- A field that is accepted is still there and still accepted. -/
private theorem Tolerant.field (h : Tolerant check) (hloses : members.Loses kept) {key : String}
    {value : Json} {a : α} (hvalue : members.get? key = some value)
    (ha : (check value).under (.key key) = valid a) :
    kept.get? key = some value.finiteOnly ∧
      (check value.finiteOnly).under (.key key) = valid a := by
  have hchecked : check value = valid a := under_eq_valid_iff.mp ha
  exact ⟨hloses.present key value hvalue (h.isNull value a hchecked),
    under_eq_valid_iff.mpr (h.entails value a hchecked)⟩

theorem Tolerant.required (h : Tolerant check) (hloses : members.Loses kept) (key : String) :
    (required members key check).Entails (required kept key check) := by
  intro a ha
  unfold Checked.required at ha ⊢
  split at ha
  next value hvalue =>
    obtain ⟨hkept, hchecked⟩ := h.field hloses hvalue ha
    rw [hkept]
    exact hchecked
  next => cases ha

theorem Tolerant.optional (h : Tolerant check) (hloses : members.Loses kept) (key : String)
    (default : α) :
    (optional members key default check).Entails (optional kept key default check) := by
  intro a ha
  unfold Checked.optional at ha ⊢
  split at ha
  next value hvalue =>
    obtain ⟨hkept, hchecked⟩ := h.field hloses hvalue ha
    rw [hkept]
    exact hchecked
  next habsent =>
    rw [hloses.absent key habsent]
    exact ha

theorem Tolerant.optionalEither (h : Tolerant check) (hloses : members.Loses kept)
    (key other : String) (default : α) :
    (optionalEither members key other default check).Entails
      (optionalEither kept key other default check) := by
  intro a ha
  unfold Checked.optionalEither at ha ⊢
  split at ha
  next value hvalue =>
    obtain ⟨hkept, hchecked⟩ := h.field hloses hvalue ha
    rw [hkept]
    exact hchecked
  next habsent =>
    rw [hloses.absent key habsent]
    exact h.optional hloses other default a ha

end Fields

/-! ## Values -/

/-- A check that accepts only values without lost numbers is tolerant. -/
theorem Tolerant.of_kept (h : ∀ value a, check value = valid a → value.finiteOnly = value) :
    Tolerant check where
  entails value a ha := by rw [h value a ha, ha]
  isNull value a ha hnull := by rwa [h value a ha] at hnull

theorem Tolerant.map (h : Tolerant check) (f : α → β) : Tolerant fun v => (check v).map f where
  entails value b hb := by
    obtain ⟨a, ha, rfl⟩ := map_eq_valid_iff.mp hb
    exact map_eq_valid_iff.mpr ⟨a, h.entails value a ha, rfl⟩
  isNull value b hb := by
    obtain ⟨a, ha, rfl⟩ := map_eq_valid_iff.mp hb
    exact h.isNull value a ha

theorem tolerant_text : Tolerant text :=
  .of_kept fun value s h => by
    rw [text_eq_valid_iff.mp h]
    rfl

theorem tolerant_choice (reason : List String → Reason) (choices : List (String × α)) :
    Tolerant (choice reason choices) :=
  .of_kept fun value a h => by
    obtain ⟨s, rfl, -⟩ := choice_eq_valid_iff.mp h
    rfl

/-- The numbers that count as flags are integers, so they are finite. -/
theorem tolerant_flag : Tolerant flag :=
  .of_kept fun value b h => by
    cases value with
    | float x =>
      cases x with
      | finite negative significand exponent => rfl
      | nan | infinite => cases h
    | arr items => cases h
    | obj members => cases h
    | _ => rfl

theorem tolerant_list {item : Json → Checked α} (h : Tolerant item) : Tolerant (list item) where
  entails value as has := by
    obtain ⟨items, rfl, hitems⟩ := list_eq_valid_iff.mp has
    rw [Json.finiteOnly, Json.finiteItems_eq_map]
    refine list_eq_valid_iff.mpr ⟨_, rfl, ?_⟩
    rw [List.forall₂_map_left_iff]
    exact hitems.imp h.entails
  isNull value as has hnull := by
    obtain ⟨items, rfl, -⟩ := list_eq_valid_iff.mp has
    rw [Json.finiteOnly] at hnull
    cases hnull

/-- A record whose fields are read alike from members with lost numbers is tolerant. -/
theorem tolerant_record (shape : Shape) {fields : Members → Checked α}
    (h : ∀ members, (fields members).Entails (fields (Json.finiteMembers members))) :
    Tolerant (record shape fields) where
  entails value a ha := by
    obtain ⟨members, rfl, hfields⟩ := record_eq_valid_iff.mp ha
    rw [Json.finiteOnly]
    exact h members a hfields
  isNull value a ha hnull := by
    obtain ⟨members, rfl, -⟩ := record_eq_valid_iff.mp ha
    rw [Json.finiteOnly] at hnull
    cases hnull

end Checked

end AgentCanvas
