import AgentCanvas.Json.Basic

/-!
# Values with finite numbers only

What becomes of a value when the numbers that JSON text cannot express are replaced by null: it
keeps its shape and its keys, and nothing changes where there is no such number.

## Key definitions

- `Json.Within`: one value stands inside another, at any depth.

## Key results

- `Json.finiteOnly_eq_self_iff`: which values are left as they are.
- `Json.finiteOnly_finiteOnly`: a second replacement changes nothing.
- `Json.get?_finiteMembers`: what look-up finds after the replacement.
-/

namespace AgentCanvas.Json

/-- The value `part` stands inside another one, at any depth. -/
inductive Within (part : Json) : Json → Prop
  | self : Within part part
  | item {items : List Json} {item : Json} :
      item ∈ items → Within part item → Within part (.arr items)
  | member {members : Members} {key : String} {value : Json} :
      (key, value) ∈ members → Within part value → Within part (.obj members)

/-- No infinite number and no NaN stands inside a value. -/
def Finite (value : Json) : Prop :=
  ∀ x, Within (.float x) value → x.isFinite

/-! ## Shape -/

theorem finiteItems_eq_map (items : List Json) : finiteItems items = items.map finiteOnly := by
  induction items with
  | nil => rfl
  | cons item rest ih => simp [finiteItems, ih]

theorem finiteMembers_eq_map (members : Members) :
    finiteMembers members = members.map fun member => (member.1, member.2.finiteOnly) := by
  induction members with
  | nil => rfl
  | cons member rest ih => simp [finiteMembers, ih]

/-- The replacement keeps all keys. -/
theorem get?_finiteMembers (members : Members) (key : String) :
    Entries.get? (finiteMembers members) key = (members.get? key).map finiteOnly := by
  rw [finiteMembers_eq_map]
  induction members with
  | nil => rfl
  | cons member rest ih =>
    rw [List.map_cons, Entries.get?_cons, Entries.get?_cons, ih]
    split <;> rfl

/-! ## Values that are left as they are -/

/-- A number stands inside a number only as that number itself. -/
theorem within_float_iff {x y : Binary64} : Within (.float x) (.float y) ↔ x = y := by
  constructor
  · intro h
    cases h
    rfl
  · rintro rfl
    exact .self

theorem finite_arr_iff {items : List Json} : Finite (.arr items) ↔ ∀ item ∈ items, Finite item := by
  constructor
  · exact fun h item hitem x hx => h x (.item hitem hx)
  · intro h x hx
    cases hx with
    | item hitem hx => exact h _ hitem x hx

theorem finite_obj_iff {members : Members} :
    Finite (.obj members) ↔ ∀ member ∈ members, Finite member.2 := by
  constructor
  · exact fun h member hmember x hx => h x (.member hmember hx)
  · intro h x hx
    cases hx with
    | member hmember hx => exact h _ hmember x hx

mutual

/-- Exactly the finite values are left as they are. -/
theorem finiteOnly_eq_self_iff : ∀ value : Json, value.finiteOnly = value ↔ value.Finite
  | .float x => by
    unfold finiteOnly
    simp only [Finite, within_float_iff, forall_eq]
    split <;> simp_all
  | .arr items => by
    rw [finiteOnly, finite_arr_iff, ← finiteItems_eq_self_iff items]
    simp
  | .obj members => by
    rw [finiteOnly, finite_obj_iff, ← finiteMembers_eq_self_iff members]
    simp
  | .null | .bool _ | .int _ | .str _ => by
    simp only [finiteOnly, Finite, true_iff]
    intro x hx
    cases hx

theorem finiteItems_eq_self_iff :
    ∀ items : List Json, finiteItems items = items ↔ ∀ item ∈ items, item.Finite
  | [] => by simp [finiteItems]
  | item :: rest => by
    simp [finiteItems, finiteOnly_eq_self_iff item, finiteItems_eq_self_iff rest]

theorem finiteMembers_eq_self_iff :
    ∀ members : List (String × Json),
      finiteMembers members = members ↔ ∀ member ∈ members, member.2.Finite
  | [] => by simp [finiteMembers]
  | (key, value) :: rest => by
    simp [finiteMembers, finiteOnly_eq_self_iff value, finiteMembers_eq_self_iff rest]

end

mutual

/-- The replacement leaves finite numbers only. -/
theorem finite_finiteOnly : ∀ value : Json, value.finiteOnly.Finite
  | .float y => by
    intro x hx
    unfold finiteOnly at hx
    split at hx
    next hfinite =>
      rw [within_float_iff.mp hx]
      exact hfinite
    next => cases hx
  | .arr items => by
    rw [finiteOnly]
    exact finite_arr_iff.mpr (finite_finiteItems items)
  | .obj members => by
    rw [finiteOnly]
    exact finite_obj_iff.mpr (finite_finiteMembers members)
  | .null | .bool _ | .int _ | .str _ => by
    intro x hx
    cases hx

theorem finite_finiteItems : ∀ items : List Json, ∀ item ∈ finiteItems items, item.Finite
  | [] => by simp [finiteItems]
  | item :: rest => List.forall_mem_cons.mpr ⟨finite_finiteOnly item, finite_finiteItems rest⟩

theorem finite_finiteMembers :
    ∀ members : List (String × Json), ∀ member ∈ finiteMembers members, member.2.Finite
  | [] => by simp [finiteMembers]
  | (_, value) :: rest =>
    List.forall_mem_cons.mpr ⟨finite_finiteOnly value, finite_finiteMembers rest⟩

end

/-- A second replacement changes nothing. -/
theorem finiteOnly_finiteOnly (value : Json) : value.finiteOnly.finiteOnly = value.finiteOnly :=
  (finiteOnly_eq_self_iff _).mpr (finite_finiteOnly value)

end AgentCanvas.Json
