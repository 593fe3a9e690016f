import AgentCanvas.Schema.Issue

/-!
# Checked values

The outcome of checking a value: the value it stands for, or its issues. Independent checks are
combined so that the issues of all of them come together in order.

## Key definitions

- `Checked`: a value or issues.
- `Checked.also`: one more independent check.
- `Checked.each`: a check of every item of a list.

## Key results

- `Checked.also_eq_valid_iff`, `Checked.issues_also`: a combined check passes when both of its sides
  do, and its issues are those of both.
-/

namespace AgentCanvas

/-- A value that passed its checks, or the issues found. -/
inductive Checked (α : Type) where
  | valid (value : α)
  | invalid (issues : List Issue)

namespace Checked

variable {α β : Type}

/-- The issues of an outcome. -/
def issues : Checked α → List Issue
  | valid _ => []
  | invalid issues => issues

/-- Refuses a value at the place where it stands. -/
def refuse (reason : Reason) : Checked α :=
  invalid [⟨[], reason⟩]

/-- Applies a function to a checked value. -/
def map (f : α → β) : Checked α → Checked β
  | valid value => valid (f value)
  | invalid issues => invalid issues

/-- Hands a function one more checked value; the issues of both sides come together. -/
def also (f : Checked (α → β)) (x : Checked α) : Checked β :=
  match f, x with
  | valid f, valid a => valid (f a)
  | f, x => invalid (f.issues ++ x.issues)

/-- Goes on with a check that needs the value of the one before. -/
def andThen (x : Checked α) (next : α → Checked β) : Checked β :=
  match x with
  | valid value => next value
  | invalid issues => invalid issues

/-- An outcome seen from one step further out. -/
def under (step : PathStep) : Checked α → Checked α
  | valid value => valid value
  | invalid issues => invalid (issues.map (Issue.under step))

/-- Checks the items of a list, which stand at the positions from `start` on. -/
def eachFrom (check : α → Checked β) (start : Nat) : List α → Checked (List β)
  | [] => valid []
  | a :: rest =>
    ((check a).under (.index start) |>.map List.cons).also (eachFrom check (start + 1) rest)

/-- Checks every item of a list. -/
def each (check : α → Checked β) (as : List α) : Checked (List β) :=
  eachFrom check 0 as

/-- An outcome as a result, its issues as the rejection of a shape. -/
def orReject (shape : Shape) : Checked α → Except Rejection α
  | valid value => .ok value
  | invalid issues => .error ⟨shape, issues⟩

/-! ## Issues of combined checks -/

@[simp]
theorem issues_valid (value : α) : (valid value).issues = [] :=
  rfl

@[simp]
theorem issues_invalid (found : List Issue) : (invalid found : Checked α).issues = found :=
  rfl

/-- A combined check passes exactly when both of its sides do. -/
theorem also_eq_valid_iff {f : Checked (α → β)} {x : Checked α} {b : β} :
    f.also x = valid b ↔ ∃ g a, f = valid g ∧ x = valid a ∧ g a = b := by
  cases f <;> cases x <;> simp [also]

/-- The issues of a combined check are those of its sides, in order. -/
theorem issues_also (f : Checked (α → β)) (x : Checked α) :
    (f.also x).issues = f.issues ++ x.issues := by
  cases f <;> cases x <;> simp [also]

/-- Applying a function finds no further issues. -/
theorem issues_map (f : α → β) (x : Checked α) : (x.map f).issues = x.issues := by
  cases x <;> rfl

/-- Seen from further out, all issues are. -/
theorem issues_under (step : PathStep) (x : Checked α) :
    (x.under step).issues = x.issues.map (Issue.under step) := by
  cases x <;> rfl

end Checked

end AgentCanvas
