import AgentCanvas.Proofs.ForStd.Except
import AgentCanvas.Schema.Field

/-!
# Values that pass their checks

When a check built from others passes, and with which value.

## Key results

- `Checked.andThen_eq_valid_iff`, `Checked.each_eq_valid_iff`: checks in turn and item by item.
- `Checked.issues_eachFrom`: the issues of a list are those of its items.
- `Checked.optional_eq_valid_iff`: a field with a default.
-/

namespace AgentCanvas.Checked

variable {α β : Type}

@[simp] theorem map_eq_valid_iff {f : α → β} {x : Checked α} {b : β} :
    x.map f = valid b ↔ ∃ a, x = valid a ∧ f a = b := by
  cases x <;> simp [map]

@[simp] theorem under_eq_valid_iff {step : PathStep} {x : Checked α} {a : α} :
    x.under step = valid a ↔ x = valid a := by
  cases x <;> simp [under]

/-- Checks in turn pass exactly when each does. -/
theorem andThen_eq_valid_iff {x : Checked α} {next : α → Checked β} {b : β} :
    x.andThen next = valid b ↔ ∃ a, x = valid a ∧ next a = valid b := by
  cases x <;> simp [andThen]

/-- A list passes exactly item by item, wherever its items are counted from. -/
theorem eachFrom_eq_valid_iff {check : α → Checked β} {start : Nat} {as : List α} {bs : List β} :
    eachFrom check start as = valid bs ↔ List.Forall₂ (fun a b => check a = valid b) as bs := by
  induction as generalizing start bs with
  | nil => cases bs <;> simp [eachFrom]
  | cons a rest ih =>
    rw [eachFrom, also_eq_valid_iff, List.forall₂_cons_left_iff]
    simp only [map_eq_valid_iff, under_eq_valid_iff, ih]
    constructor
    · rintro ⟨_, tail, ⟨b, hb, rfl⟩, htail, rfl⟩
      exact ⟨b, tail, hb, htail, rfl⟩
    · rintro ⟨b, tail, hb, htail, rfl⟩
      exact ⟨_, tail, ⟨b, hb, rfl⟩, htail, rfl⟩

/-- A list passes exactly item by item. -/
theorem each_eq_valid_iff {check : α → Checked β} {as : List α} {bs : List β} :
    each check as = valid bs ↔ List.Forall₂ (fun a b => check a = valid b) as bs :=
  eachFrom_eq_valid_iff

/-- The issues of a list are those of its items, each seen from the place where the item stands. -/
theorem issues_eachFrom (check : α → Checked β) (start : Nat) (as : List α) :
    (eachFrom check start as).issues = (as.zipIdx start).flatMap fun item =>
      (check item.1).issues.map (Issue.under (.index item.2)) := by
  induction as generalizing start with
  | nil => rfl
  | cons a rest ih =>
    rw [eachFrom, issues_also, issues_map, issues_under, ih, List.zipIdx_cons, List.flatMap_cons]

/-- What does not pass is its issues. -/
theorem eq_invalid_issues {x : Checked α} (h : ∀ a, x ≠ valid a) : x = invalid x.issues := by
  cases x with
  | valid a => exact absurd rfl (h a)
  | invalid issues => rfl

@[simp] theorem orReject_eq_ok_iff {shape : Shape} {x : Checked α} {a : α} :
    x.orReject shape = .ok a ↔ x = valid a := by
  cases x <;> simp [orReject]

/-! ## Values -/

theorem text_eq_valid_iff {value : Json} {s : String} : text value = valid s ↔ value = .str s := by
  cases value <;> simp [text, refuse]

/-- A choice passes if it is the text of one of the names. -/
theorem choice_eq_valid_iff {reason : List String → Reason} {choices : List (String × α)}
    {value : Json} {a : α} :
    choice reason choices value = valid a ↔ ∃ s, value = .str s ∧ choices.lookup s = some a := by
  cases value with
  | str s =>
    simp only [choice, Json.str.injEq, exists_eq_left']
    cases choices.lookup s <;> simp [refuse]
  | _ => simp [choice, refuse]

/-- A list passes if it is an array whose items do. -/
theorem list_eq_valid_iff {item : Json → Checked α} {value : Json} {as : List α} :
    list item value = valid as ↔ ∃ items, value = .arr items ∧
      List.Forall₂ (fun v a => item v = valid a) items as := by
  cases value <;> simp [list, refuse, each_eq_valid_iff]

/-! ## Fields -/

/-- A record that passes is an object whose fields do. -/
theorem record_eq_valid_iff {shape : Shape} {fields : Members → Checked α} {value : Json} {a : α} :
    record shape fields value = valid a ↔ ∃ members, value = .obj members ∧
      fields members = valid a := by
  cases value <;> simp [record, refuse]

/-- A field without a default passes if it is there and its value passes. -/
theorem required_eq_valid_iff {members : Members} {key : String} {check : Json → Checked α}
    {a : α} : required members key check = valid a ↔
      ∃ value, members.get? key = some value ∧ check value = valid a := by
  unfold required
  cases members.get? key <;> simp

/-- A field with a default passes if it is absent or its value passes. -/
theorem optional_eq_valid_iff {members : Members} {key : String} {default : α}
    {check : Json → Checked α} {a : α} :
    optional members key default check = valid a ↔
      members.get? key = none ∧ default = a ∨
        ∃ value, members.get? key = some value ∧ check value = valid a := by
  unfold optional
  cases members.get? key <;> simp

/-- An object passes and is kept as it is. -/
theorem object_eq_valid_iff {value data : Json} :
    object value = valid data ↔ ∃ members, value = .obj members ∧ data = .obj members := by
  cases value <;> simp [object, refuse, eq_comm]

end AgentCanvas.Checked
