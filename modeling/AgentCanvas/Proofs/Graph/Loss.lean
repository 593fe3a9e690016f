import AgentCanvas.Graph.Attributes
import AgentCanvas.Proofs.Schema.Loss

/-!
# Attributes and lost numbers

No attribute is a number, so attributes survive when the infinite numbers and NaN among the stored
members become null: members that no attribute asks for may be lost, and one that an attribute asks
for under a second key counts as little as before.

## Key results

- `Members.loses_withoutNulls`: lost numbers are dropped with the nulls.
- `Attributes.check_finiteOnly`: attributes that can be read are read alike from what is saved.
-/

namespace AgentCanvas

open Checked

/-- A null member is passed over, any other one counts for its key. -/
theorem Entries.get?_withoutNulls_cons (key : String) (value : Json) (rest : Members)
    (other : String) :
    Entries.get? (Entries.withoutNulls ((key, value) :: rest)) other =
      if value.isNull then rest.withoutNulls.get? other
      else if key = other then some value else rest.withoutNulls.get? other := by
  unfold Entries.withoutNulls
  cases hnull : value.isNull <;> simp [hnull, Entries.get?_cons]

/-- A value that is null stays null. -/
theorem Json.isNull_finiteOnly_of_isNull {value : Json} (h : value.isNull) :
    value.finiteOnly.isNull := by
  cases value with
  | null => rfl
  | _ => cases h

/-- Lost numbers are dropped with the nulls. -/
theorem Members.loses_withoutNulls (members : Members) :
    Loses members.withoutNulls (Entries.withoutNulls (Json.finiteMembers members)) where
  absent other h := by
    rw [Json.finiteMembers_eq_map]
    -- a null member stays null, and one under another key does not matter
    induction members with
    | nil => rfl
    | cons member rest ih =>
      obtain ⟨key, value⟩ := member
      rw [Entries.get?_withoutNulls_cons] at h
      rw [List.map_cons, Entries.get?_withoutNulls_cons]
      split at h
      next hnull => rw [if_pos (Json.isNull_finiteOnly_of_isNull hnull), ih h]
      next =>
        split at h
        next => cases h
        next hkey => simp only [if_neg hkey, ih h, ite_self]
  present other found h hkept := by
    rw [Json.finiteMembers_eq_map]
    induction members with
    | nil => cases h
    | cons member rest ih =>
      obtain ⟨key, value⟩ := member
      rw [Entries.get?_withoutNulls_cons] at h
      rw [List.map_cons, Entries.get?_withoutNulls_cons]
      split at h
      next hnull => rw [if_pos (Json.isNull_finiteOnly_of_isNull hnull), ih h]
      next hnull =>
        split at h
        next hkey =>
          cases h
          -- this is the member that counts; it is no lost number, so it is not dropped
          rw [if_neg fun hlost => hnull (hkept hlost), if_pos hkey]
        next hkey => simp only [if_neg hkey, ih h, ite_self]

/-! ## Records of attributes -/

theorem Agent.tolerant_check : Tolerant Agent.check := by
  refine tolerant_record .agent fun members => ?_
  have hloses := Members.loses_withoutNulls members
  exact (((((Entails.refl _).also (tolerant_text.optional hloses _ _)).also
    (tolerant_text.optional hloses _ _)).also (tolerant_text.optional hloses _ _)).also
    ((tolerant_choice _ _).optional hloses _ _)).also
    ((tolerant_text.map some).optionalEither hloses _ _ _)

theorem Runner.tolerant_check : Tolerant Runner.check := by
  refine tolerant_record .runner fun members => ?_
  have hloses := Members.loses_withoutNulls members
  exact ((((Entails.refl _).also (tolerant_text.optional hloses _ _)).also
    (tolerant_text.optional hloses _ _)).also (tolerant_text.optional hloses _ _)).also
    ((tolerant_choice _ _).optional hloses _ _)

/-- A description that is accepted is null or a text. -/
theorem Parameter.tolerant_description :
    Tolerant fun value => if value.isNull then valid none else (text value).map some :=
  .of_kept fun value description h => by
    cases value with
    | null => rfl
    | str s => rfl
    | _ => cases h

theorem Parameter.tolerant_check : Tolerant Parameter.check := by
  refine tolerant_record .parameter fun members => ?_
  have hloses := Members.loses_finiteMembers members
  exact ((((Entails.refl _).also (tolerant_text.required hloses _)).also
    (tolerant_text.optional hloses _ _)).also
    (Parameter.tolerant_description.optional hloses _ _)).also
    (tolerant_flag.optional hloses _ _)

theorem Tool.tolerant_check : Tolerant Tool.check := by
  refine tolerant_record .tool fun members => ?_
  have hloses := Members.loses_withoutNulls members
  exact ((((Entails.refl _).also (tolerant_text.optional hloses _ _)).also
    ((tolerant_list Parameter.tolerant_check).optional hloses _ _)).also
    (tolerant_text.optionalEither hloses _ _ _)).also (tolerant_text.optional hloses _ _)

/-- Attributes that can be read are read alike from what is saved of them. -/
theorem Attributes.check_finiteOnly {kind : NodeKind} {stored : Json} {attributes : Attributes}
    (h : Attributes.check kind stored = valid attributes) :
    Attributes.check kind stored.finiteOnly = valid attributes := by
  cases kind with
  | agent => exact (Agent.tolerant_check.map Attributes.agent).entails stored attributes h
  | runner => exact (Runner.tolerant_check.map Attributes.runner).entails stored attributes h
  | tool => exact (Tool.tolerant_check.map Attributes.tool).entails stored attributes h

end AgentCanvas
