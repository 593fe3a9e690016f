import AgentCanvas.Proofs.Text.Lines
import Mathlib.Data.List.Chain

/-!
# Empty lines in texts

Texts in which empty lines only separate others. They begin and end with a line that is not empty
and hold no two empty lines in a row, so at most two newlines follow each other, and joining such
texts with an empty line leads to another one.

## Key definitions

- `Text.Spaced`: lines of this form.

## Key results

- `Text.Spaced.append`: lines of this form with an empty line between them.
- `Text.Spaced.not_newlines_isInfix`: newlines in a text with such lines.
-/

namespace AgentCanvas.Text

/-- Empty lines only separate others. -/
structure Spaced (lines : List String) : Prop where
  nonempty : lines ≠ []
  first : lines.head? ≠ some ""
  last : lines.getLast? ≠ some ""
  apart : lines.IsChain fun line next => line ≠ "" ∨ next ≠ ""

namespace Spaced

variable {lines others : List String} {s : String}

/-- Where no line is empty there is nothing to separate. -/
theorem of_forall_ne (hne : lines ≠ []) (h : ∀ line ∈ lines, line ≠ "") : Spaced lines where
  nonempty := hne
  first hhead := h "" (List.mem_of_head? hhead) rfl
  last hlast := h "" (List.mem_of_getLast? hlast) rfl
  apart := (List.pairwise_of_forall_mem_list fun line hline _ _ => .inl (h line hline)).isChain

/-- An empty line between spaced lines separates them. -/
theorem append (h : Spaced lines) (hothers : Spaced others) : Spaced (lines ++ "" :: others) where
  nonempty := by simp
  first := by
    rw [List.head?_append_of_ne_nil _ h.nonempty]
    exact h.first
  last := by
    rw [List.getLast?_append_of_ne_nil _ (List.cons_ne_nil _ _), List.getLast?_cons_of_ne_nil
      hothers.nonempty]
    exact hothers.last
  apart := by
    -- both neighbours of the empty line are lines that are not empty
    refine List.isChain_append.mpr ⟨h.apart, List.isChain_cons.mpr ⟨?_, hothers.apart⟩, ?_⟩
    · intro next hnext
      right
      rintro rfl
      exact hothers.first hnext
    · intro line hline next hnext
      left
      rintro rfl
      exact h.last hline

/-! ## Newlines -/

/-- No three newlines follow each other in a text with spaced lines. -/
theorem not_newlines_isInfix (h : Spaced (Text.lines s)) : ¬"\n\n\n".toList <:+: s.toList := by
  rintro ⟨front, behind, heq⟩
  have hs : s =
      String.ofList front ++ "\n" ++ "" ++ "\n" ++ "" ++ "\n" ++ String.ofList behind := by
    apply String.toList_injective
    rw [← heq]
    simp
  -- between three newlines stand two empty lines
  have hlines : Text.lines s = Text.lines (String.ofList front) ++
      "" :: "" :: Text.lines (String.ofList behind) := by
    rw [hs, lines_append_newline, lines_append_newline, lines_append_newline]
    simp [show Text.lines "" = [""] from rfl]
  have hapart := h.apart
  rw [hlines, List.isChain_append_cons_cons] at hapart
  simpa using hapart.2.1

/-- A text with spaced lines begins with no newline. -/
theorem not_newline_isPrefix (h : Spaced (Text.lines s)) : ¬"\n".toList <+: s.toList := by
  rintro ⟨rest, heq⟩
  have hs : s = "" ++ "\n" ++ String.ofList rest := by
    apply String.toList_injective
    rw [← heq]
    simp
  have hfirst := h.first
  rw [hs, lines_append_newline] at hfirst
  exact hfirst rfl

/-- A text with spaced lines ends with no newline. -/
theorem not_newline_isSuffix (h : Spaced (Text.lines s)) : ¬"\n".toList <:+ s.toList := by
  rintro ⟨rest, heq⟩
  have hs : s = String.ofList rest ++ "\n" ++ "" := by
    apply String.toList_injective
    rw [← heq]
    simp
  have hlast := h.last
  rw [hs] at hlast
  exact hlast (getLast?_lines_append_newline _ (by simp))

end Spaced

end AgentCanvas.Text
