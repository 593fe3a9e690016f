import AgentCanvas.Text.Blank
import AgentCanvas.Text.Lines

/-!
# Program listings

A listing is the lines of a program as they are written one after another at a current depth of
indentation. Lines are written by steps, so the text of a program part is a list of steps.

## Key definitions

- `Listing.Step`, `Listing.step`: what can be written, and its effect.
- `Listing.render`: the text that steps write from the left margin.
-/

namespace AgentCanvas

/-- The lines written so far and the depth at which the next one is written. -/
structure Listing where
  lines : List String
  depth : Int
  deriving DecidableEq

namespace Listing

/-- One step of writing a listing. -/
inductive Step where
  | line (text : String)
  | blank
  | comment (text : String)
  | indent
  | dedent
  /-- Text with line breaks of its own. -/
  | block (text : String)
  deriving DecidableEq

/-- A listing without lines. -/
def startAt (depth : Int) : Listing :=
  ⟨[], depth⟩

/-- The spaces in front of a line; a negative depth has none. -/
def margin (depth : Int) : String :=
  String.ofList (List.replicate (4 * depth.toNat) ' ')

/-- A line as it is written at a depth. The empty line has no margin. -/
def atDepth (depth : Int) (text : String) : String :=
  if text = "" then "" else margin depth ++ text

/-- A line of a block as it is written at a depth. Blank lines are kept as they are. -/
def blockLine (depth : Int) (text : String) : String :=
  if Text.isBlankText text then text else margin depth ++ text

/-- Adds lines to a listing. -/
def append (l : Listing) (lines : List String) : Listing :=
  { l with lines := l.lines ++ lines }

/-- A listing after one more step. The depth falls no further than to zero. -/
def step (l : Listing) : Step → Listing
  | .line text => l.append [atDepth l.depth text]
  | .blank => l.append [""]
  | .comment text => l.append [atDepth l.depth ("# " ++ text)]
  | .indent => { l with depth := l.depth + 1 }
  | .dedent => { l with depth := max 0 (l.depth - 1) }
  | .block text => l.append ((Text.lines text).map (blockLine l.depth))

/-- A listing after several more steps. -/
def write (l : Listing) (steps : List Step) : Listing :=
  steps.foldl step l

/-- Steps can be written in several goes. -/
theorem write_append (l : Listing) (first second : List Step) :
    l.write (first ++ second) = (l.write first).write second := by
  simp [write]

/-- The text of a listing. -/
def text (l : Listing) : String :=
  Text.joinLines l.lines

/-- The texts of a listing after each of several steps. -/
def texts (l : Listing) : List Step → List String
  | [] => []
  | s :: rest => (l.step s).text :: texts (l.step s) rest

/-- The text that steps write from the left margin. -/
def render (steps : List Step) : String :=
  ((startAt 0).write steps).text

end Listing

end AgentCanvas
