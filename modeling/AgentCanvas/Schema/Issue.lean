/-!
# Issues

What is wrong with a value, and where in it. Checking a value finds all of its issues, so a
rejection lists them in order.

## Key definitions

- `Issue`: a path into a value and the reason for refusing what stands there.
- `Rejection`: the issues of a value that was to have a given shape.
-/

namespace AgentCanvas

/-- One step of a path into a value. -/
inductive PathStep where
  | key (name : String)
  | index (position : Nat)
  deriving DecidableEq

/-- The records that values are checked against. -/
inductive Shape where
  | workflow
  | node
  | edge
  | position
  | parameter
  | agent
  | runner
  | tool
  | defaults
  | settings
  deriving DecidableEq

/-- The name of a record in messages. -/
def Shape.title : Shape → String
  | .workflow => "Workflow"
  | .node => "WorkflowNode"
  | .edge => "WorkflowEdge"
  | .position => "Position"
  | .parameter => "Parameter"
  | .agent => "AgentNodeData"
  | .runner => "RunnerNodeData"
  | .tool => "FunctionToolNodeData"
  | .defaults => "GenerationDefaults"
  | .settings => "Settings"

/-- Why a value is refused. -/
inductive Reason where
  /-- A required member is absent. -/
  | missing
  | notText
  | notNumber
  | unreadableNumber
  | notFlag
  | unreadableFlag
  | notList
  | notObject
  /-- The value is no object although a record is expected. -/
  | notRecord (shape : Shape)
  /-- The value is no object although the fields of a request are expected. -/
  | notForm
  /-- The value names none of the kinds. -/
  | unknownKind (names : List String)
  /-- The value is none of the choices. -/
  | unknownChoice (names : List String)
  /-- A node has the id of an earlier one. -/
  | repeatedNode (id : String)
  /-- The body of a request is no JSON text. -/
  | unreadableBody
  deriving DecidableEq

/-- Names in single quotes, separated by commas and the last one by `or`. -/
def alternatives : List String → String
  | [] => ""
  | [name] => "'" ++ name ++ "'"
  | [first, second] => "'" ++ first ++ "' or '" ++ second ++ "'"
  | name :: rest => "'" ++ name ++ "', " ++ alternatives rest

namespace Reason

/-- The short code of a reason. -/
def code : Reason → String
  | missing => "missing"
  | notText => "string_type"
  | notNumber => "float_type"
  | unreadableNumber => "float_parsing"
  | notFlag => "bool_type"
  | unreadableFlag => "bool_parsing"
  | notList => "list_type"
  | notObject => "dict_type"
  | notRecord _ => "model_type"
  | notForm => "model_attributes_type"
  | unknownKind _ => "enum"
  | unknownChoice _ => "literal_error"
  | repeatedNode _ => "value_error"
  | unreadableBody => "json_invalid"

/-- The wording of a reason. -/
def message : Reason → String
  | missing => "Field required"
  | notText => "Input should be a valid string"
  | notNumber => "Input should be a valid number"
  | unreadableNumber => "Input should be a valid number, unable to parse string as a number"
  | notFlag => "Input should be a valid boolean"
  | unreadableFlag => "Input should be a valid boolean, unable to interpret input"
  | notList => "Input should be a valid list"
  | notObject => "Input should be a valid dictionary"
  | notRecord shape => "Input should be a valid dictionary or instance of " ++ shape.title
  | notForm => "Input should be a valid dictionary or object to extract fields from"
  | unknownKind names | unknownChoice names => "Input should be " ++ alternatives names
  | repeatedNode id => "Value error, duplicate node id '" ++ id ++ "'"
  | unreadableBody => "JSON decode error"

end Reason

/-- A reason and the path to the refused value. -/
structure Issue where
  path : List PathStep
  reason : Reason
  deriving DecidableEq

/-- An issue seen from one step further out. -/
def Issue.under (step : PathStep) (issue : Issue) : Issue :=
  { issue with path := step :: issue.path }

/-- The issues of a value that was to have a shape. -/
structure Rejection where
  shape : Shape
  issues : List Issue
  deriving DecidableEq

/-- The headline of the message about a rejection: the number of issues and the shape. What the
message goes on to say about each of the issues is left out. -/
def Rejection.message (rejection : Rejection) : String :=
  Nat.repr rejection.issues.length ++ " validation error" ++
    (if rejection.issues.length = 1 then "" else "s") ++ " for " ++ rejection.shape.title

end AgentCanvas
