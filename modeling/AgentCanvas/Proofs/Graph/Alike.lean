import AgentCanvas.Graph.Document
import AgentCanvas.Proofs.Schema.Alike

/-!
# Documents that load alike

Which parts of a document loading looks at. All other members may be set to anything: beside the
nodes and edges, in a node, in its position, in its stored attributes, in the parameters of a tool
and in an edge, where the role that is saved with it is one of them.

## Key definitions

- `Position.keys`, `Parameter.keys`, `Edge.keys`, `Node.keys`: the keys that are looked up.
- `Attributes.Agree`: stored attributes in which a node of a kind finds the same.
- `Node.Alike`, `Edge.Alike`, `Workflow.Alike`: documents of nodes, edges and workflows.

## Key results

- `Attributes.check_congr`: attributes are read alike.
- `Edge.check_congr`: edges are read alike.
- `Node.Agree.of_agreeOn`: members under other keys do not matter.
-/

namespace AgentCanvas

open Checked

/-! ## Positions and edges -/

/-- The keys that are looked up in a position. -/
def Position.keys : List String :=
  ["x", "y"]

/-- Two documents in which the same position is found. -/
def Position.Alike : Json → Json → Prop :=
  Json.Alike (Members.AgreeOn Position.keys)

theorem Position.check_congr {value twin : Json} (h : Position.Alike value twin) :
    Position.check value = Position.check twin := by
  refine record_congr (fun members others hagree => ?_) h
  simp (disch := decide) only [optional_congr hagree]

/-- The keys that are looked up in an edge; the type that is saved with it is not. -/
def Edge.keys : List String :=
  ["id", "source", "target"]

/-- Two documents in which the same edge is found. -/
def Edge.Alike : Json → Json → Prop :=
  Json.Alike (Members.AgreeOn Edge.keys)

theorem Edge.check_congr {value twin : Json} (h : Edge.Alike value twin) (drawn : String) :
    Edge.check value drawn = Edge.check twin drawn := by
  refine record_congr (fun members others hagree => ?_) h
  simp (disch := decide) only [optional_congr hagree, required_congr hagree]

/-! ## Attributes -/

/-- The keys that are looked up in a parameter. -/
def Parameter.keys : List String :=
  ["name", "type", "description", "required"]

/-- Two documents in which the same parameter is found. -/
def Parameter.Alike : Json → Json → Prop :=
  Json.Alike (Members.AgreeOn Parameter.keys)

theorem Parameter.check_congr {value twin : Json} (h : Parameter.Alike value twin) :
    Parameter.check value = Parameter.check twin := by
  refine record_congr (fun members others hagree => ?_) h
  simp (disch := decide) only [optional_congr hagree, required_congr hagree]

/-- The keys that are looked up in the attributes of a kind and whose values are not looked into. -/
def NodeKind.plainKeys : NodeKind → List String
  | agent => ["name", "description", "system_message", "output_type", "structured_schema",
      "pydantic_model"]
  | runner => ["name", "input", "context", "execution_mode"]
  | tool => ["name", "returnType", "return_type", "implementation"]

/-- Stored members in which a node of a kind finds the same attributes. Null members count as
absent; only tools have parameters. -/
structure Attributes.Agree (kind : NodeKind) (stored others : Members) : Prop where
  plain : stored.withoutNulls.AgreeOn kind.plainKeys others.withoutNulls
  parameters : kind = .tool → Option.Rel (Json.AlikeItems Parameter.Alike)
    (stored.withoutNulls.get? "parameters") (others.withoutNulls.get? "parameters")

/-- Two stored objects of attributes in which a node of a kind finds the same. -/
def Attributes.Alike (kind : NodeKind) : Json → Json → Prop :=
  Json.Alike (Attributes.Agree kind)

theorem Agent.check_congr {value twin : Json} (h : Attributes.Alike .agent value twin) :
    Agent.check value = Agent.check twin := by
  refine record_congr (fun members others hagree => ?_) h
  have hplain := hagree.plain
  simp (disch := decide) only [optional_congr hplain, optionalEither_congr hplain]

theorem Runner.check_congr {value twin : Json} (h : Attributes.Alike .runner value twin) :
    Runner.check value = Runner.check twin := by
  refine record_congr (fun members others hagree => ?_) h
  simp (disch := decide) only [optional_congr hagree.plain]

theorem Tool.check_congr {value twin : Json} (h : Attributes.Alike .tool value twin) :
    Tool.check value = Tool.check twin := by
  refine record_congr (fun members others hagree => ?_) h
  -- the parameters are the only attribute that is looked into
  have hparameters : optional members.withoutNulls "parameters" [] (list Parameter.check) =
      optional others.withoutNulls "parameters" [] (list Parameter.check) := by
    apply optional_congr_rel (hagree.parameters rfl)
    intro value twin halike
    exact list_congr (fun _ _ hitem => Parameter.check_congr hitem) halike
  have hplain := hagree.plain
  simp (disch := decide) only [hparameters, optional_congr hplain, optionalEither_congr hplain]

/-- Attributes are read alike where a node of the kind finds the same. -/
theorem Attributes.check_congr {kind : NodeKind} {value twin : Json}
    (h : Attributes.Alike kind value twin) :
    Attributes.check kind value = Attributes.check kind twin := by
  cases kind with
  | agent => exact congrArg (map Attributes.agent) (Agent.check_congr h)
  | runner => exact congrArg (map Attributes.runner) (Runner.check_congr h)
  | tool => exact congrArg (map Attributes.tool) (Tool.check_congr h)

/-! ## Nodes and workflows -/

/-- Members of two nodes that load alike. What may differ in the stored attributes depends on the
kind that the first node names; of a node that names none they only have to be objects. -/
structure Node.Agree (members others : Members) : Prop where
  plain : members.AgreeOn ["id", "type"] others
  position : Option.Rel Position.Alike (members.get? "position") (others.get? "position")
  data : Option.Rel
    (Json.Alike fun stored kept => ∀ kind : NodeKind,
      members.get? "type" = some (.str kind.name) → Attributes.Agree kind stored kept)
    (members.get? "data") (others.get? "data")

/-- The keys that are looked up in a node. -/
def Node.keys : List String :=
  ["id", "type", "position", "data"]

/-- Members under keys that are not looked up in a node do not matter to it. -/
theorem Node.Agree.of_agreeOn {members others : Members} (h : members.AgreeOn Node.keys others) :
    Node.Agree members others where
  plain key hkey := h key (List.mem_append_left ["position", "data"] hkey)
  position := by
    rw [← h "position" (by decide)]
    exact Json.Alike.rel_self _
  data := by
    rw [← h "data" (by decide)]
    exact Json.Alike.rel_self _

/-- Two documents of nodes that load alike. -/
def Node.Alike : Json → Json → Prop :=
  Json.Alike Node.Agree

/-- Members of two documents whose listed nodes and edges load alike. -/
structure Workflow.Agree (members others : Members) : Prop where
  nodes : List.Forall₂ Node.Alike (Workflow.listed members "nodes")
    (Workflow.listed others "nodes")
  edges : List.Forall₂ Edge.Alike (Workflow.listed members "edges")
    (Workflow.listed others "edges")

/-- Two documents of workflows that load alike. -/
def Workflow.Alike : Json → Json → Prop :=
  Json.Alike Workflow.Agree

end AgentCanvas
