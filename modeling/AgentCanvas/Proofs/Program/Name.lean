import AgentCanvas.Program.Name
import AgentCanvas.Proofs.Text.Mentions

/-!
# What names in programs are made of

Slugs are made of lower-case ASCII letters, digits and underscores. The names of agents and of
tools, whatever they are made from, hold no character but those of names.

## Key results

- `mem_slug`, `mem_nameOfSlug`: the characters of slugs and of names made from them.
- `nameOfSlug_eq_iff`: which slugs are names as they are.
- `Agent.isNameText_identifier`, `Tool.isNameText_functionName`: the names of agents and tools.
-/

namespace AgentCanvas

open Text (IsNameText isNameChar)

/-- Cutting underscores adds no character. -/
theorem mem_of_mem_cutUnderscores {cs : List Char} {c : Char} (h : c ∈ cutUnderscores cs) :
    c ∈ cs := by
  simp only [cutUnderscores] at h
  split at h
  · exact h
  · exact List.mem_reverse.mp ((List.dropWhile_sublist _).mem (List.mem_reverse.mp h))

/-- A slug holds no other characters than lower-case ASCII letters, digits and underscores. -/
theorem mem_slug {name : String} {c : Char} (h : c ∈ (slug name).toList) :
    isSlugChar c ∨ c = '_' := by
  rw [slug, String.toList_ofList] at h
  obtain ⟨old, -, rfl⟩ := List.mem_map.mp (mem_of_mem_cutUnderscores h)
  split
  next hold => exact .inl hold
  next => exact .inr rfl

/-- The characters that stay themselves in a slug, by their codes. -/
theorem isSlugChar_iff {c : Char} : isSlugChar c ↔
    97 ≤ c.toNat ∧ c.toNat ≤ 122 ∨ 48 ≤ c.toNat ∧ c.toNat ≤ 57 := by
  simp only [isSlugChar, Bool.or_eq_true, Bool.and_eq_true, decide_eq_true_eq]
  exact Iff.rfl

theorem isAlphanum_of_isSlugChar {c : Char} (h : isSlugChar c) : c.isAlphanum := by
  rcases Bool.or_eq_true_iff.mp h with hlower | hdigit
  · have hletter : c.isAlpha := Bool.or_eq_true_iff.mpr (.inr hlower)
    simp [Char.isAlphanum, hletter]
  · have hdigit : c.isDigit := hdigit
    simp [Char.isAlphanum, hdigit]

theorem isNameChar_of_isSlugChar {c : Char} (h : isSlugChar c) : isNameChar c := by
  simp [isNameChar, isAlphanum_of_isSlugChar h]

theorem isBlank_of_isSlugChar {c : Char} (h : isSlugChar c) : Text.isBlank c = false := by
  rw [isSlugChar_iff] at h
  simp only [Text.isBlank, Text.inRanges, Text.blankRanges, List.any_cons, List.any_nil,
    Bool.or_false, Bool.or_eq_false_iff, Bool.and_eq_false_iff, decide_eq_false_iff_not]
  omega

/-- Whether all characters are those of slugs. -/
def isSlug (cs : List Char) : Bool :=
  cs.all fun c => isSlugChar c || c == '_'

theorem isSlug_iff {cs : List Char} : isSlug cs ↔ ∀ c ∈ cs, isSlugChar c ∨ c = '_' := by
  simp [isSlug]

section

variable {s : String} (h : isSlug s.toList)
include h

theorem isNameText_of_isSlug : IsNameText s := by
  intro c hc
  rcases isSlug_iff.mp h c hc with hc | rfl
  · exact isNameChar_of_isSlugChar hc
  · decide

theorem isBlank_of_isSlug : ∀ c ∈ s.toList, Text.isBlank c = false := by
  intro c hc
  rcases isSlug_iff.mp h c hc with hc | rfl
  · exact isBlank_of_isSlugChar hc
  · decide

end

/-! ## Names made from slugs -/

theorem guardDigit_eq_self {cs : List Char} (h : ∀ c ∈ cs.head?, c.isDigit = false) :
    guardDigit cs = cs := by
  cases cs with
  | nil => rfl
  | cons c rest => rw [guardDigit, if_neg (by simp [h c rfl])]

/-- The guard of a leading digit is an underscore. -/
theorem guardDigit_eq_self_or (cs : List Char) :
    guardDigit cs = cs ∨ guardDigit cs = '_' :: cs := by
  cases cs with
  | nil => exact .inl rfl
  | cons c rest =>
    rw [guardDigit]
    split
    · exact .inr rfl
    · exact .inl rfl

/-- A name made from a slug holds besides the characters of the slug only underscores. -/
theorem mem_nameOfSlug {s : String} {c : Char} (h : c ∈ (nameOfSlug s).toList) :
    c ∈ s.toList ∨ c = '_' := by
  have hguard (hc : c ∈ guardDigit s.toList) : c ∈ s.toList ∨ c = '_' := by
    rcases guardDigit_eq_self_or s.toList with heq | heq
    · exact .inl (heq ▸ hc)
    · rw [heq] at hc
      exact (List.mem_cons.mp hc).symm
  unfold nameOfSlug at h
  simp only at h
  split at h
  next =>
    rw [String.toList_append, String.toList_ofList] at h
    rcases List.mem_append.mp h with hc | hc
    · exact hguard hc
    · exact .inr (List.mem_singleton.mp hc)
  next =>
    rw [String.toList_ofList] at h
    exact hguard h

theorem isSlug_nameOfSlug {s : String} (h : isSlug s.toList) : isSlug (nameOfSlug s).toList :=
  isSlug_iff.mpr fun c hc => (mem_nameOfSlug hc).elim (isSlug_iff.mp h c) .inr

/-- A name that needs no underscore put to it is made from no other slug than itself. -/
theorem nameOfSlug_eq_iff {s name : String} (hreserved : Text.isReserved name = false)
    (hfirst : name.toList.head?.all fun c => !c.isDigit && c != '_')
    (hlast : name.toList.getLast? ≠ some '_') : nameOfSlug s = name ↔ s = name := by
  constructor
  · intro h
    unfold nameOfSlug at h
    simp only at h
    split at h
    next =>
      -- a reserved word would have made the name end with an underscore
      rw [← h, String.toList_append] at hlast
      exact absurd List.getLast?_concat hlast
    next =>
      rcases guardDigit_eq_self_or s.toList with heq | heq
      · rw [← h, heq, String.ofList_toList]
      · rw [← h, heq, String.toList_ofList] at hfirst
        cases hfirst
  · rintro rfl
    have hdigit : ∀ c ∈ s.toList.head?, c.isDigit = false := by
      intro c hc
      rw [Option.mem_def.mp hc, Option.all_some, Bool.and_eq_true, Bool.not_eq_true'] at hfirst
      exact hfirst.1
    rw [nameOfSlug, guardDigit_eq_self hdigit, String.ofList_toList]
    simp [hreserved]

/-! ## Names of agents and tools -/

theorem isSlug_slug (name : String) : isSlug (slug name).toList :=
  isSlug_iff.mpr fun _ => mem_slug

/-- Variables of agents are made of the characters of slugs. -/
theorem Agent.isSlug_identifier (d : Defaults) (a : Agent) : isSlug (a.identifier d).toList :=
  isSlug_nameOfSlug (isSlug_slug _)

theorem Agent.isNameText_identifier (d : Defaults) (a : Agent) : IsNameText (a.identifier d) :=
  isNameText_of_isSlug (a.isSlug_identifier d)

theorem isNameChar_of_isIdentifierContinue {c : Char} (h : Text.isIdentifierContinue c) :
    isNameChar c := by
  unfold Text.isIdentifierContinue at h
  split at h
  next => rw [isNameChar, h, Bool.true_or]
  next hlarge => simp [isNameChar, Nat.not_lt.mp hlarge]

theorem isNameChar_of_isIdentifierStart {c : Char} (h : Text.isIdentifierStart c) :
    isNameChar c := by
  unfold Text.isIdentifierStart at h
  split at h
  next =>
    have hcontinue : c.isAlphanum || c == '_' := by
      rw [Char.isAlphanum, Bool.or_right_comm, h, Bool.true_or]
    rw [isNameChar, hcontinue, Bool.true_or]
  next hlarge => simp [isNameChar, Nat.not_lt.mp hlarge]

/-- An identifier is made of the characters of names. -/
theorem isNameText_of_isIdentifier {s : String} (h : Text.isIdentifier s) : IsNameText s := by
  unfold Text.isIdentifier at h
  intro c hc
  split at h
  next hnil =>
    rw [hnil] at hc
    cases hc
  next first rest hcons =>
    obtain ⟨hfirst, hrest⟩ := Bool.and_eq_true_iff.mp h
    rw [hcons] at hc
    rcases List.mem_cons.mp hc with rfl | hc
    · exact isNameChar_of_isIdentifierStart hfirst
    · exact isNameChar_of_isIdentifierContinue (List.all_eq_true.mp hrest c hc)

theorem isNameText_of_isName {s : String} (h : Text.isName s) : IsNameText s :=
  isNameText_of_isIdentifier (Bool.and_eq_true_iff.mp h).1

theorem Tool.isNameText_functionName (d : Defaults) (t : Tool) :
    IsNameText (t.functionName d) := by
  unfold functionName
  split
  next h => exact isNameText_of_isName h
  next => exact isNameText_of_isSlug (isSlug_nameOfSlug (isSlug_slug _))

end AgentCanvas
