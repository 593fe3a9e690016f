import AgentCanvas.Text.Blank
import Mathlib.Data.List.DropRight

/-!
# Trimmed text

Trimming a text takes away what is blank at its two ends and nothing else. What is left begins and
ends with characters that are not blank, so trimming it again changes nothing.

## Key definitions

- `Text.Unpadded`: no character of a class stands at either end.

## Key results

- `Text.trimWhile_append`: what is put around a text is taken away again.
- `Text.exists_eq_append_trimWhile`: a text is its trimmed text between what was taken away.
- `Text.unpadded_trimWhile`, `Text.trimWhile_eq_self_iff`: the texts that trimming leads to.
-/

namespace AgentCanvas.Text

/-- Neither the first nor the last character belongs to the class `p`. -/
def Unpadded (p : Char → Bool) (cs : List Char) : Prop :=
  (∀ c ∈ cs.head?, p c = false) ∧ ∀ c ∈ cs.getLast?, p c = false

section

variable {p : Char → Bool} {cs front back : List Char}

theorem dropEndWhile_append_of_forall (h : ∀ c ∈ back, p c) (cs : List Char) :
    dropEndWhile p (cs ++ back) = dropEndWhile p cs := by
  have hreverse : ∀ c ∈ back.reverse, p c := by simpa using h
  rw [dropEndWhile, dropEndWhile, List.reverse_append, List.dropWhile_append_of_pos hreverse]

/-- What is put around a text is taken away again. -/
theorem trimWhile_append (hfront : ∀ c ∈ front, p c) (hback : ∀ c ∈ back, p c) (cs : List Char) :
    trimWhile p (front ++ cs ++ back) = trimWhile p cs := by
  rw [trimWhile, trimWhile, List.append_assoc, List.dropWhile_append_of_pos hfront,
    List.dropWhile_append]
  split
  next hempty =>
    -- nothing is left in front of `back`, so all of it is taken away from the left
    have hnil : back.dropWhile p = [] := List.dropWhile_eq_nil_iff.mpr hback
    rw [hnil, List.isEmpty_iff.mp hempty]
  next => exact dropEndWhile_append_of_forall hback _

/-- A text is its trimmed text between what was taken away. -/
theorem exists_eq_append_trimWhile (p : Char → Bool) (cs : List Char) : ∃ front back,
    (∀ c ∈ front, p c) ∧ (∀ c ∈ back, p c) ∧ cs = front ++ trimWhile p cs ++ back := by
  refine ⟨cs.takeWhile p, (cs.dropWhile p).rtakeWhile p, fun c => List.mem_takeWhile_imp,
    fun c => List.mem_rtakeWhile_imp, ?_⟩
  have hright : trimWhile p cs ++ (cs.dropWhile p).rtakeWhile p = cs.dropWhile p :=
    List.rdropWhile_append_rtakeWhile
  rw [List.append_assoc, hright, List.takeWhile_append_dropWhile]

/-- Trimming leaves nothing at the ends that it would take away. -/
theorem unpadded_trimWhile (p : Char → Bool) (cs : List Char) : Unpadded p (trimWhile p cs) := by
  constructor
  · intro c hc
    -- the trimmed text begins where the characters taken away on the left end
    obtain ⟨rest, hrest⟩ : trimWhile p cs <+: cs.dropWhile p := List.rdropWhile_prefix p _
    have hhead : (cs.dropWhile p).head? = some c := by
      rw [← hrest, List.head?_append, Option.mem_def.mp hc, Option.some_or]
    have hnot := List.head?_dropWhile_not p cs
    rwa [hhead] at hnot
  · intro c hc
    obtain ⟨hne, hlast⟩ := List.mem_getLast?_eq_getLast hc
    rw [hlast]
    exact Bool.eq_false_iff.mpr (List.rdropWhile_last_not p (cs.dropWhile p) hne)

/-- Trimming keeps exactly the texts that have nothing to take away at their ends. -/
theorem trimWhile_eq_self_iff : trimWhile p cs = cs ↔ Unpadded p cs := by
  constructor
  · intro h
    rw [← h]
    exact unpadded_trimWhile p cs
  · rintro ⟨hfirst, hlast⟩
    have hleft : cs.dropWhile p = cs := by
      rw [List.dropWhile_eq_self_iff]
      intro hpos
      have hhead : cs[0] ∈ cs.head? := by simp [List.head?_eq_getElem?, hpos]
      simp [hfirst _ hhead]
    have hright : cs.rdropWhile p = cs := by
      rw [List.rdropWhile_eq_self_iff]
      intro hne
      simp [hlast _ (List.getLast_mem_getLast? hne)]
    rw [trimWhile, hleft]
    exact hright

theorem trimWhile_eq_nil_iff : trimWhile p cs = [] ↔ ∀ c ∈ cs, p c := by
  constructor
  · intro h
    obtain ⟨front, back, hfront, hback, heq⟩ := exists_eq_append_trimWhile p cs
    rw [heq, h, List.append_nil]
    exact List.forall_mem_append.mpr ⟨hfront, hback⟩
  · intro h
    have hnil : trimWhile p [] = [] := rfl
    have happend := trimWhile_append h (List.forall_mem_nil _) []
    rwa [hnil, List.append_nil, List.append_nil] at happend

end

/-! ## Texts -/

variable {s front back : String}

theorem isBlankText_iff : isBlankText s ↔ ∀ c ∈ s.toList, isBlank c :=
  List.all_eq_true

theorem toList_trim (s : String) : (trim s).toList = trimWhile isBlank s.toList := by
  rw [trim, String.toList_ofList]

/-- Blanks around a text do not count. -/
theorem trim_append (hfront : isBlankText front) (hback : isBlankText back) (s : String) :
    trim (front ++ s ++ back) = trim s := by
  rw [trim, trim, String.toList_append, String.toList_append,
    trimWhile_append (isBlankText_iff.mp hfront) (isBlankText_iff.mp hback)]

/-- A text is its trimmed text between blanks. -/
theorem exists_eq_append_trim (s : String) : ∃ front back,
    isBlankText front ∧ isBlankText back ∧ s = front ++ trim s ++ back := by
  obtain ⟨front, back, hfront, hback, heq⟩ := exists_eq_append_trimWhile isBlank s.toList
  refine ⟨String.ofList front, String.ofList back, ?_, ?_, ?_⟩
  · rwa [isBlankText_iff, String.toList_ofList]
  · rwa [isBlankText_iff, String.toList_ofList]
  · apply String.toList_injective
    simpa [toList_trim] using heq

/-- Of blank texts nothing is left. -/
theorem trim_eq_empty_iff : trim s = "" ↔ isBlankText s := by
  rw [isBlankText_iff, ← trimWhile_eq_nil_iff, ← toList_trim, String.toList_eq_nil_iff]

theorem trim_eq_self_iff : trim s = s ↔ Unpadded isBlank s.toList := by
  rw [← trimWhile_eq_self_iff, ← toList_trim, String.toList_inj]

end AgentCanvas.Text
