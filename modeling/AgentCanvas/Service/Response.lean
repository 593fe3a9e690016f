import AgentCanvas.Graph.Document
import AgentCanvas.Program.Generation
import AgentCanvas.Service.Request
import AgentCanvas.Settings.Basic

/-!
# Responses

How the service answers requests: it reports on itself, tells whether two kinds of nodes can be
connected, and validates or compiles the workflow document of a request. Every request is read
within some limits and with ids drawn for itself.

## Key definitions

- `Service.respond`: the response to a request.
- `Service.startLog`, `Service.stopLog`: what is logged when the service starts and stops.
-/

namespace AgentCanvas

/-- A response. -/
structure Response where
  status : Nat
  body : Json
  deriving DecidableEq

/-- The name of the service. -/
def Service.name : String :=
  "Workflow Designer"

/-- The version of the service. -/
def Service.version : String :=
  "1.0.0"

namespace Response

/-- A response with details in words. -/
def withDetail (status : Nat) (detail : String) : Response :=
  ⟨status, .obj [("detail", .str detail)]⟩

/-- A step of a path as JSON. -/
def pathStep : PathStep → Json
  | .key name => .str name
  | .index position => .int position

/-- An issue as JSON. -/
def issueJson (issue : Issue) : Json :=
  .obj [("loc", .arr (issue.path.map pathStep)), ("type", .str issue.reason.code),
    ("msg", .str issue.reason.message)]

/-- A response that lists the issues of the body. -/
def unprocessable (issues : List Issue) : Response :=
  ⟨422, .obj [("detail", .arr ((issues.map (Issue.under (.key "body"))).map issueJson))]⟩

/-- The response to a checked body. -/
def ofChecked : Checked Json → Response
  | .valid body => ⟨200, body⟩
  | .invalid issues => unprocessable issues

/-- The response to a body that goes beyond what the reader takes. -/
def unreadable : Response :=
  withDetail 400 "There was an error parsing the body"

/-- The response to a payload: `answer` is asked about JSON, and anything else that is no JSON
counts as a value that `answer` refuses for `reason`. -/
def ofPayload (reason : Reason) (answer : Json → Response) : Payload → Response
  | .absent => unprocessable [⟨[], .missing⟩]
  | .json value => answer value
  | .other => unprocessable [⟨[], reason⟩]
  | .malformed offset => unprocessable [⟨[.index offset], .unreadableBody⟩]
  | .beyondLimit => unreadable

end Response

namespace Service

open Response

/-- Whether the service is alive, and where. -/
def health (s : Settings) : Response :=
  ⟨200, .obj [("status", .str "ok"), ("environment", .str s.environment)]⟩

/-- What the service is. -/
def info (s : Settings) : Response :=
  ⟨200, .obj [("platform", .str name), ("version", .str version),
    ("node_types", .arr (NodeKind.all.map fun kind => .str kind.name)),
    ("default_model", .str s.defaults.model),
    ("dependencies", .arr (dependencies.map .str))]⟩

/-- Whether two kinds of nodes can be connected, and in which role. -/
def connection (source target : NodeKind) : Json :=
  let role := EdgeRole.between source target
  .obj [("valid", .bool role.isSome), ("edge_type", EdgeRole.document role)]

/-- The kinds of a connection that a request names. -/
def connectionKinds (members : Members) : Checked (NodeKind × NodeKind) :=
  (Checked.valid Prod.mk
    |>.also (Checked.required members "source_type" (.choice .unknownKind NodeKind.byName)))
    |>.also (Checked.required members "target_type" (.choice .unknownKind NodeKind.byName))

/-- The answer to a question about a connection. -/
def checkConnection : Json → Response
  | .obj members =>
    ofChecked ((connectionKinds members).map fun kinds => connection kinds.1 kinds.2)
  | _ => unprocessable [⟨[], .notForm⟩]

/-- The answer to a request with a workflow document; `answer` is asked about the workflow. -/
def withWorkflow (answer : Workflow → Except Rejection Json) (draws : Draws) : Json → Response
  | .obj members =>
    match Workflow.ofDocument (.obj members) draws with
    | .error error => withDetail 422 error.message
    | .ok w =>
      match answer w with
      | .ok body => ⟨200, body⟩
      | .error _ => withDetail 500 "Internal Server Error"
  | _ => unprocessable [⟨[], .notObject⟩]

/-- The diagnostics of a workflow as JSON. -/
def validation (w : Workflow) : Except Rejection Json := do
  let diagnostics ← w.diagnose
  return .obj [("valid", .bool diagnostics.isEmpty),
    ("errors", .arr (diagnostics.map fun diagnostic => .str diagnostic.message))]

/-- The program of a workflow as JSON. -/
def compilation (s : Settings) (w : Workflow) : Except Rejection Json := do
  let generation ← w.generate s.defaults
  return generation.toJson

/-- The answer of a route to a payload. -/
def answer (s : Settings) (payload : Payload) (draws : Draws) : Route → Response
  | .health => health s
  | .info => info s
  | .checkConnection => ofPayload .notForm checkConnection payload
  | .validate => ofPayload .notObject (withWorkflow validation draws) payload
  | .compile => ofPayload .notObject (withWorkflow (compilation s) draws) payload

/-- The response to a request. -/
def respond (s : Settings) (r : Request) (limits : Json.Limits := .usual)
    (draws : Draws := .same) : Response :=
  match r.route? with
  | none => withDetail 404 "Not Found"
  | some route =>
    if r.method = route.method then answer s (r.payload limits) draws route
    else withDetail 405 "Method Not Allowed"

/-- What is logged when the service starts. -/
def startLog (s : Settings) : List LogEntry :=
  [⟨.info, name ++ " " ++ version ++ " starting (environment=" ++ s.environment ++ ", model=" ++
    s.defaults.model ++ ")"⟩]

/-- What is logged when the service stops. -/
def stopLog : List LogEntry :=
  [⟨.info, name ++ " shutting down"⟩]

end Service

end AgentCanvas
