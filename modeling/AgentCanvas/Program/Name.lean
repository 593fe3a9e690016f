import AgentCanvas.Graph.Attributes
import AgentCanvas.Program.Defaults
import AgentCanvas.Text.Case
import AgentCanvas.Text.Identifier

/-!
# Names in programs

How display names become names of a program. A slug is made of lower-case ASCII letters, digits and
underscores; a name is a slug that neither begins with a digit nor is a reserved word.

## Key definitions

- `slug`: the slug of a display name. Different names may have one slug.
- `nameOfSlug`: the name made from a slug.
- `Agent.identifier`, `Tool.functionName`: the names of agents and function tools.
-/

namespace AgentCanvas

/-- Whether a character stays itself in a slug. -/
def isSlugChar (c : Char) : Bool :=
  ('a' ≤ c && c ≤ 'z') || ('0' ≤ c && c ≤ '9')

/-- A slug without the underscores at its end, unless it has nothing else. -/
def cutUnderscores (cs : List Char) : List Char :=
  let cut := Text.dropEndWhile (· == '_') cs
  if cut.isEmpty then cs else cut

/-- The slug of a display name: in lower case, an underscore for every character that is no ASCII
letter or digit, and without underscores at the end unless there is nothing else. -/
def slug (name : String) : String :=
  String.ofList
    (cutUnderscores ((Text.lower name).toList.map fun c => if isSlugChar c then c else '_'))

/-- Puts an underscore in front of a leading digit. -/
def guardDigit : List Char → List Char
  | [] => []
  | c :: rest => if c.isDigit then '_' :: c :: rest else c :: rest

/-- The name made from a slug: a leading digit gets an underscore in front, a reserved word one at
the end. -/
def nameOfSlug (s : String) : String :=
  let name := String.ofList (guardDigit s.toList)
  if Text.isReserved name then name ++ "_" else name

/-- The name under which an agent is displayed. -/
def Agent.displayName (d : Defaults) (a : Agent) : String :=
  orElse a.name d.agentName

/-- The variable that holds an agent. -/
def Agent.identifier (d : Defaults) (a : Agent) : String :=
  nameOfSlug (slug (a.displayName d))

/-- The name of a tool's function: the tool's own name where it can be one. -/
def Tool.functionName (d : Defaults) (t : Tool) : String :=
  if Text.isName t.name then t.name else nameOfSlug (slug (orElse t.name d.toolName))

end AgentCanvas
