import AgentCanvas.Proofs.Program.Assembly
import AgentCanvas.Proofs.Program.Indentation

/-!
# Bodies of functions

Behind the signature of a tool's function stand its implementation, with a margin in front of every
line that is not blank, or the lines of a body to be filled in. The latter are written only for the
empty implementation, so an implementation that holds nothing but blanks leaves a function without a
body.

## Key definitions

- `Tool.bodyLines`: the lines of a function behind its signature.
- `Tool.HasBody`: whether one of them belongs to the body.

## Key results

- `Tool.declaration_eq_append`: a function is its signature and these lines.
- `Tool.hasBody_iff`: which functions have a body.
-/

namespace AgentCanvas

open Listing (startAt step blockLine)
open Text (isBlankText joinLines)

/-! ## Blank lines -/

/-- Joined lines are blank exactly if each of them is. -/
theorem isBlankText_joinLines_iff {lines : List String} :
    isBlankText (joinLines lines) ↔ ∀ line ∈ lines, isBlankText line := by
  refine ⟨isBlankText_of_isBlankText_intercalate, fun h => ?_⟩
  induction lines with
  | nil => rfl
  | cons first rest ih =>
    obtain ⟨hfirst, hrest⟩ := List.forall_mem_cons.mp h
    cases rest with
    | nil =>
      rw [joinLines, String.intercalate_singleton]
      exact hfirst
    | cons next rest =>
      rw [joinLines, String.intercalate_cons_cons, Text.Framed.isBlankText_append,
        Text.Framed.isBlankText_append, Bool.and_eq_true, Bool.and_eq_true]
      exact ⟨⟨hfirst, rfl⟩, ih hrest⟩

/-- A text is blank exactly if all of its lines are. -/
theorem isBlankText_iff_lines {s : String} :
    isBlankText s ↔ ∀ line ∈ Text.lines s, isBlankText line := by
  rw [← isBlankText_joinLines_iff, Text.joinLines_lines]

/-! ## Lines behind the signature -/

/-- A line that belongs to the body of a function: it is not blank and has a margin. -/
def IsBodyLine (line : String) : Prop :=
  isBlankText line = false ∧ "    ".toList <+: line.toList

instance (line : String) : Decidable (IsBodyLine line) :=
  inferInstanceAs (Decidable (_ ∧ _))

namespace Tool

/-- The lines of a function behind its signature. -/
def bodyLines (t : Tool) : List String :=
  if t.implementation = "" then ["    \"\"\"Implement the tool logic here.\"\"\"", "    pass"]
  else (Text.lines t.implementation).map (blockLine 1)

/-- Some line behind the signature of a tool's function belongs to its body. -/
def HasBody (d : Defaults) (t : Tool) : Prop :=
  ∃ body, t.declaration d = t.signature d ++ "\n" ++ body ∧
    ∃ line ∈ Text.lines body, IsBodyLine line

theorem lines_write_body (t : Tool) :
    ((startAt 1).write (t.body ++ [.dedent])).lines = t.bodyLines := by
  unfold body bodyLines
  split
  next => rfl
  next => simp [Listing.write, step, Listing.append, startAt]

theorem bodyLines_ne_nil (t : Tool) : t.bodyLines ≠ [] := by
  unfold bodyLines
  split
  next => exact List.cons_ne_nil _ _
  next => simp [Text.lines]

/-- A function is its signature and the lines behind it. -/
theorem declaration_eq_append (d : Defaults) (t : Tool) :
    t.declaration d = t.signature d ++ "\n" ++ joinLines t.bodyLines := by
  rw [declaration_eq, lines_write_body]
  obtain ⟨first, rest, hlines⟩ := List.exists_cons_of_ne_nil t.bodyLines_ne_nil
  rw [hlines, joinLines, String.intercalate_cons_cons, ← hlines, ← joinLines]

theorem newline_not_mem_bodyLines (t : Tool) : ∀ line ∈ t.bodyLines, '\n' ∉ line.toList := by
  unfold bodyLines
  split
  next =>
    simp only [List.forall_mem_cons]
    exact ⟨newline_not_mem_ofList (by decide), newline_not_mem_ofList (by decide),
      List.forall_mem_nil _⟩
  next =>
    intro line hline
    obtain ⟨old, hold, rfl⟩ := List.mem_map.mp hline
    have hnewline := Text.newline_not_mem_of_mem_lines hold
    unfold blockLine
    split
    · exact hnewline
    · exact newline_not_mem_append (by decide) hnewline

/-- A line of an implementation is written as a line of the body exactly if it is not blank. -/
theorem isBodyLine_blockLine_iff {line : String} :
    IsBodyLine (blockLine 1 line) ↔ isBlankText line = false := by
  rw [IsBodyLine, Listing.isBlankText_blockLine]
  refine and_iff_left_of_imp fun h => ?_
  rw [blockLine, if_neg (Bool.eq_false_iff.mp h), String.toList_append]
  exact List.prefix_append _ _

/-- A function has a body exactly if some line behind its signature belongs to it. -/
theorem hasBody_iff_bodyLines {d : Defaults} {t : Tool} :
    t.HasBody d ↔ ∃ line ∈ t.bodyLines, IsBodyLine line := by
  have hlines := Text.lines_joinLines_of_forall t.bodyLines_ne_nil t.newline_not_mem_bodyLines
  constructor
  · rintro ⟨body, hbody, h⟩
    rw [declaration_eq_append, String.append_right_inj] at hbody
    rwa [← hbody, hlines] at h
  · intro h
    exact ⟨_, t.declaration_eq_append d, by rwa [hlines]⟩

/-- The function of a tool has a body exactly if the implementation is empty or holds more than
blanks. -/
theorem hasBody_iff (d : Defaults) (t : Tool) :
    t.HasBody d ↔ t.implementation = "" ∨ isBlankText t.implementation = false := by
  rw [hasBody_iff_bodyLines, bodyLines]
  split
  next h =>
    -- the body to be filled in
    exact iff_of_true ⟨"    pass", by simp, by decide⟩ (.inl h)
  next h =>
    simp only [h, false_or, List.mem_map, exists_exists_and_eq_and, isBodyLine_blockLine_iff]
    rw [← Bool.not_eq_true, isBlankText_iff_lines]
    simp

/-- A tool whose implementation is a single blank has a function without a body. -/
theorem not_hasBody_blank :
    ∃ t, Tool.check (.obj [("implementation", .str " ")]) = .valid t ∧ ¬t.HasBody .builtIn := by
  refine ⟨_, rfl, fun h => ?_⟩
  obtain ⟨line, hline, hbody⟩ := hasBody_iff_bodyLines.mp h
  have hlines : line ∈ [" "] := hline
  rw [List.mem_singleton.mp hlines] at hbody
  exact absurd hbody (by decide)

end Tool

end AgentCanvas
