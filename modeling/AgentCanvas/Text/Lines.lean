/-!
# Lines of text

Lines end at newlines only. Texts read from files have every line ending turned into a newline
first.

## Key results

- `joinLines_lines`: a text is its lines, joined.
-/

namespace AgentCanvas.Text

/-- The lines of a text: one more than it has newlines. -/
def lines (s : String) : List String :=
  (s.toList.splitOn '\n').map String.ofList

/-- Joins lines with newlines, the last one open. -/
def joinLines (ls : List String) : String :=
  "\n".intercalate ls

/-- A text is its lines, joined. -/
theorem joinLines_lines (s : String) : joinLines (lines s) = s := by
  apply String.toList_injective
  simp [joinLines, lines, Function.comp_def, List.intercalate_splitOn]

/-- Turns each carriage return, with the newline that may follow it, into one newline. -/
def normalizeNewlines : List Char → List Char
  | [] => []
  | '\r' :: '\n' :: rest => '\n' :: normalizeNewlines rest
  | c :: rest => (if c = '\r' then '\n' else c) :: normalizeNewlines rest

end AgentCanvas.Text
