import AgentCanvas.Json.Reader
import AgentCanvas.Text.Case
import AgentCanvas.Text.Blank

/-!
# Requests

What a client asks of the service, and how the route and the payload of a request are found. A body
is JSON only if the content type says so, and a request without a content type says nothing;
trailing slashes of a path do not matter.

## Key definitions

- `Route`, `Request.route?`: the routes, and the one that a request takes.
- `Payload`, `Request.payload`: what a body holds.
-/

namespace AgentCanvas

/-- A request. -/
structure Request where
  method : String
  path : String
  headers : List (String × String)
  body : String

/-- What the service can be asked. -/
inductive Route where
  | health
  | info
  | checkConnection
  | validate
  | compile
  deriving DecidableEq

namespace Route

/-- The routes by path. -/
def byPath : List (String × Route) :=
  [("/health", health), ("/info", info), ("/connections/check", checkConnection),
    ("/workflows/validate", validate), ("/workflows/compile", compile)]

/-- The method that a route answers. -/
def method : Route → String
  | health | info => "GET"
  | checkConnection | validate | compile => "POST"

end Route

/-- What the body of a request holds. -/
inductive Payload where
  | absent
  | json (value : Json)
  /-- Something that is not said to be JSON. -/
  | other
  /-- Text that is no JSON from an offset on. -/
  | malformed (offset : Nat)
  /-- JSON text beyond what the reader takes. -/
  | beyondLimit

/-- Whether a content type says that a body is JSON; its parameters do not matter. -/
def isJsonType (contentType : String) : Bool :=
  let essence := Text.trimWhile Text.isBlank (contentType.toList.takeWhile (· != ';'))
  match (Text.lower (String.ofList essence)).toList.splitOn '/' with
  | [main, sub] =>
    main == "application".toList && (sub == "json".toList || "+json".toList.isSuffixOf sub)
  | _ => false

/-- A text without the byte order mark in front. -/
def dropByteOrderMark : List Char → List Char
  | '\uFEFF' :: rest => rest
  | cs => cs

namespace Request

/-- The path of a request without query and fragment. -/
def location (r : Request) : List Char :=
  r.path.toList.takeWhile fun c => c != '?' && c != '#'

/-- The route that a request takes, if there is one. -/
def route? (r : Request) : Option Route :=
  match Route.byPath.lookup (String.ofList r.location) with
  | some route => some route
  | none => Route.byPath.lookup (String.ofList (Text.dropEndWhile (· == '/') r.location))

/-- The value of a header, its name in any case. -/
def header? (r : Request) (name : String) : Option String :=
  (r.headers.find? fun header => Text.lower header.1 = name).map (·.2)

/-- Whether the body is said to be JSON. Nothing is assumed of a body without a content type; some
servers take it as JSON. -/
def isJson (r : Request) : Bool :=
  match r.header? "content-type" with
  | some contentType => isJsonType contentType
  | none => false

/-- What the body holds. -/
def payload (r : Request) (limits : Json.Limits := .usual) : Payload :=
  if r.body = "" then .absent
  else if !r.isJson then .other
  else
    let text := dropByteOrderMark r.body.toList
    match Json.read text limits with
    | .ok value => .json value
    | .error fault =>
      if fault.cause.isLimit then .beyondLimit else .malformed (fault.offset text)

end Request

end AgentCanvas
