import AgentCanvas.Text.Blank
import AgentCanvas.Text.Quoted
import Mathlib.Tactic.SplitIfs

/-!
# Quoted text stays on its line

The literal of a text is never blank and holds no line ending and no tab, whatever the text is.

## Key results

- `Text.newline_not_mem_quote`, `Text.return_not_mem_quote`, `Text.tab_not_mem_quote`: a literal
  holds no line ending and no tab.
- `Text.isBlankText_quote`: a literal is not blank.
-/

namespace AgentCanvas.Text

/-- A character is written without newlines, carriage returns and tabs. -/
theorem ne_of_mem_escape {c d : Char} (h : d ∈ escape c) : d ≠ '\n' ∧ d ≠ '\r' ∧ d ≠ '\t' := by
  unfold escape at h
  split_ifs at h with hslash hquote hnewline hreturn htab <;>
    simp only [List.mem_cons, List.not_mem_nil, or_false] at h
  · rcases h with rfl | rfl <;> decide
  · rcases h with rfl | rfl <;> decide
  · rcases h with rfl | rfl <;> decide
  · rcases h with rfl | rfl <;> decide
  · rcases h with rfl | rfl <;> decide
  · subst h
    exact ⟨hnewline, hreturn, htab⟩

theorem toList_quote (s : String) :
    (quote s).toList = '"' :: (s.toList.flatMap escape ++ ['"']) := by
  rw [quote, String.toList_ofList]

theorem ne_of_mem_quote {s : String} {d : Char} (h : d ∈ (quote s).toList) :
    d ≠ '\n' ∧ d ≠ '\r' ∧ d ≠ '\t' := by
  rw [toList_quote] at h
  simp only [List.mem_cons, List.mem_append, List.mem_flatMap, List.not_mem_nil, or_false] at h
  rcases h with rfl | ⟨c, -, hc⟩ | rfl
  · decide
  · exact ne_of_mem_escape hc
  · decide

/-- A literal does not span lines. -/
theorem newline_not_mem_quote (s : String) : '\n' ∉ (quote s).toList :=
  fun h => (ne_of_mem_quote h).1 rfl

theorem return_not_mem_quote (s : String) : '\r' ∉ (quote s).toList :=
  fun h => (ne_of_mem_quote h).2.1 rfl

theorem tab_not_mem_quote (s : String) : '\t' ∉ (quote s).toList :=
  fun h => (ne_of_mem_quote h).2.2 rfl

theorem quote_ne_empty (s : String) : quote s ≠ "" := by
  intro h
  have hlist := congrArg String.toList h
  rw [toList_quote] at hlist
  cases hlist

/-- The quotation mark in front of a literal is not blank. -/
theorem isBlankText_quote (s : String) : isBlankText (quote s) = false := by
  rw [isBlankText, toList_quote, List.all_cons]
  rfl

end AgentCanvas.Text
