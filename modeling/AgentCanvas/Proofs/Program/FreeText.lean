import AgentCanvas.Proofs.Program.Blueprint
import AgentCanvas.Proofs.Program.Listing

/-!
# Free texts in programs

Some texts of a workflow stand in its program as string literals and nowhere else: names and
descriptions of agents, tasks and the like. Whatever they are, the rest of the program is the same,
segment by segment and line by line.

## Key definitions

- `Blueprint.freeTexts`: the free texts of a program, in order.
- `Workflow.SameFrame`: two workflows that differ in free texts only.

## Key results

- `Agent.declaration_framed`, `entryPoint_framed`, `clientDeclaration_framed`: the parts of a
  program in which free texts stand.
- `Blueprint.code_framed`: programs that differ in free texts only.
- `Workflow.generate_framed`: the program is made of fixed segments and quoted free texts.
-/

namespace AgentCanvas

open Text (InOrder quote)

/-- What a free text is for. -/
inductive FreeText where
  | model
  | displayName
  | description
  | systemMessage
  | terminationToken
  | task
  deriving DecidableEq

/-- A free text that is left out if it is empty. -/
def FreeText.unlessEmpty (sort : FreeText) (text : String) : List (FreeText × String) :=
  if text = "" then [] else [(sort, text)]

/-- The free texts in the declaration of an agent. -/
def Agent.freeTexts (d : Defaults) (a : Agent) : List (FreeText × String) :=
  [(.displayName, a.displayName d)] ++ FreeText.description.unlessEmpty a.description ++
    FreeText.systemMessage.unlessEmpty a.systemMessage

/-- The free texts of an entry point. -/
def EntryPoint.freeTexts : EntryPoint → List (FreeText × String)
  | guidance => []
  | single _ task _ => [(.task, task)]
  | team _ task token => [(.terminationToken, token), (.task, task)]

/-- The free texts in the factory of model clients, for a program with so many agents. -/
def Defaults.freeTexts (d : Defaults) (agents : Nat) : List (FreeText × String) :=
  if agents = 0 then [] else [(.model, d.model)]

/-- The free texts of a program, in the order in which they stand there. -/
def Blueprint.freeTexts (d : Defaults) (b : Blueprint) : List (FreeText × String) :=
  d.freeTexts b.agents.length ++ b.agents.flatMap (·.value.freeTexts d) ++
    (entryPoint d (b.agents.map (·.value)) b.runners).freeTexts

/-- Two agents that differ in free texts only, each under its own defaults. -/
structure Agent.SameFrame (d e : Defaults) (a b : Agent) : Prop where
  identifier : a.identifier d = b.identifier e
  outputFormat : a.outputFormat = b.outputFormat
  schema : a.schema = b.schema
  description : a.description = "" ↔ b.description = ""
  systemMessage : a.systemMessage = "" ↔ b.systemMessage = ""

/-! ## Declarations -/

section

variable {ts us ts' us' : List (FreeText × String)} {steps steps' : List Listing.Step}

/-- A step that is the same on both sides. -/
private theorem same_step (s : Listing.Step) (h : InOrder Listing.Step.Framed ts us steps steps') :
    InOrder Listing.Step.Framed ts us (s :: steps) (s :: steps') :=
  InOrder.cons (Listing.Step.Framed.same s) h

/-- Lines that quote two texts between the same ones. -/
private theorem quoting_line (before after : String) (sort : FreeText) (t u : String)
    (h : InOrder Listing.Step.Framed ts us steps steps') :
    InOrder Listing.Step.Framed ((sort, t) :: ts) ((sort, u) :: us)
      (.line (before ++ quote t ++ after) :: steps)
      (.line (before ++ quote u ++ after) :: steps') :=
  .cons (.line (.slot before sort t u (.fixed after))) h

end

theorem clientDeclaration_framed (d e : Defaults) :
    Text.Framed [(FreeText.model, d.model)] [(FreeText.model, e.model)]
      (clientDeclaration d) (clientDeclaration e) := by
  apply Listing.render_framed
  -- steps that agree as they stand, up to the line that quotes something
  repeat with_reducible apply same_step
  apply quoting_line
  exact .refl .same _

/-- Arguments are given or left out together. -/
theorem textArgument_framed (name : String) (sort : FreeText) {t u : String}
    (h : t = "" ↔ u = "") : InOrder Listing.Step.Framed (sort.unlessEmpty t) (sort.unlessEmpty u)
      (textArgument name t) (textArgument name u) := by
  unfold textArgument FreeText.unlessEmpty
  by_cases ht : t = ""
  · rw [if_pos ht, if_pos ht, if_pos (h.mp ht), if_pos (h.mp ht)]
    exact .nil
  · have hu : u ≠ "" := fun hu => ht (h.mpr hu)
    rw [if_neg ht, if_neg ht, if_neg hu, if_neg hu]
    exact quoting_line (name ++ "=") "," sort t u .nil

/-- The declarations of agents that differ in free texts only. -/
theorem Agent.declaration_framed {d e : Defaults} {a b : Agent} (h : a.SameFrame d e b)
    (toolNames : List String) : Text.Framed (a.freeTexts d) (b.freeTexts e)
      (a.declaration d toolNames) (b.declaration e toolNames) := by
  apply Listing.render_framed
  have hname : InOrder Listing.Step.Framed [(FreeText.displayName, a.displayName d)]
      [(FreeText.displayName, b.displayName e)]
      [.line (a.identifier d ++ " = AssistantAgent("), .indent,
        .line ("name=" ++ quote (a.displayName d) ++ ","),
        .line "model_client=get_model_client(),"]
      [.line (b.identifier e ++ " = AssistantAgent("), .indent,
        .line ("name=" ++ quote (b.displayName e) ++ ","),
        .line "model_client=get_model_client(),"] := by
    rw [h.identifier]
    repeat with_reducible apply same_step
    apply quoting_line
    exact .refl .same _
  have hend : InOrder (@Listing.Step.Framed FreeText) [] []
      (toolsArgument toolNames ++ [.dedent, .line ")"])
      (toolsArgument toolNames ++ [.dedent, .line ")"]) := .refl .same _
  have hall := ((hname.append (textArgument_framed "description" .description h.description)).append
    (textArgument_framed "system_message" .systemMessage h.systemMessage)).append hend
  rw [List.append_nil, List.append_nil, ← List.append_assoc, ← List.append_assoc] at hall
  exact hall

/-- The schemas that agents declare belong to the frame. -/
theorem Agent.SameFrame.declaredSchema_eq {d e : Defaults} {a b : Agent} (h : a.SameFrame d e b) :
    a.declaredSchema = b.declaredSchema := by
  rw [declaredSchema, declaredSchema, h.outputFormat, h.schema]

/-! ## Entry points -/

theorem EntryPoint.single_framed (agent : String) (mode : ExecutionMode) (task task' : String) :
    Text.Framed (single agent task mode).freeTexts (single agent task' mode).freeTexts
      (single agent task mode).declaration (single agent task' mode).declaration := by
  apply Listing.render_framed
  simp only [steps, singleSteps, List.cons_append]
  repeat with_reducible apply same_step
  apply quoting_line
  exact .refl .same _

theorem EntryPoint.team_framed (agents : List String) (task task' token token' : String) :
    Text.Framed (team agents task token).freeTexts (team agents task' token').freeTexts
      (team agents task token).declaration (team agents task' token').declaration := by
  apply Listing.render_framed
  simp only [steps, teamSteps, List.cons_append]
  repeat with_reducible apply same_step
  apply quoting_line
  repeat with_reducible apply same_step
  apply quoting_line
  exact .refl .same _

/-- Runners in the same modes have one common mode. -/
theorem commonMode_eq {runners others : List Runner}
    (h : List.Forall₂ (fun r o => r.executionMode = o.executionMode) runners others) :
    commonMode runners = commonMode others := by
  have hany : runners.any (·.executionMode = .async) = others.any (·.executionMode = .async) := by
    induction h with
    | nil => rfl
    | cons hmode _ ih => rw [List.any_cons, List.any_cons, ih, hmode]
  rw [commonMode, commonMode, hany]

theorem identifiers_eq {d e : Defaults} {agents others : List Agent}
    (h : List.Forall₂ (Agent.SameFrame d e) agents others) :
    agents.map (·.identifier d) = others.map (·.identifier e) := by
  induction h with
  | nil => rw [List.map_nil, List.map_nil]
  | cons hagent _ ih => rw [List.map_cons, List.map_cons, ih, hagent.identifier]

/-- The form of an entry point belongs to the frame. -/
theorem entryPoint_framed {d e : Defaults} {agents others : List Agent}
    {runners others' : List Runner} (hagents : List.Forall₂ (Agent.SameFrame d e) agents others)
    (hrunners : List.Forall₂ (fun r o => r.executionMode = o.executionMode) runners others') :
    Text.Framed (entryPoint d agents runners).freeTexts (entryPoint e others others').freeTexts
      (entryPoint d agents runners).declaration (entryPoint e others others').declaration := by
  have hmode := commonMode_eq hrunners
  have hidentifiers := identifiers_eq hagents
  -- without a runner or an agent, either program only says what is missing
  cases hrunners with
  | nil => exact .fixed _
  | cons _ _ =>
    cases hagents with
    | nil => exact .fixed _
    | cons hagent hrest =>
      cases hrest with
      | nil =>
        simp only [entryPoint, hmode, hagent.identifier]
        exact EntryPoint.single_framed _ _ _ _
      | cons _ _ =>
        simp only [entryPoint, hidentifiers]
        exact EntryPoint.team_framed _ _ _ _ _

/-! ## Programs -/

/-- Two blueprints that differ in free texts only, each under its own defaults. -/
structure Blueprint.SameFrame (d e : Defaults) (b c : Blueprint) : Prop where
  agents : List.Forall₂ (fun a o => a.id = o.id ∧ a.value.SameFrame d e o.value) b.agents c.agents
  runners : List.Forall₂ (fun r o => r.executionMode = o.executionMode) b.runners c.runners
  tools : b.tools = c.tools
  connections : b.connections = c.connections

namespace Blueprint.SameFrame

variable {d e : Defaults} {b c : Blueprint}

theorem values (h : b.SameFrame d e c) : List.Forall₂ (Agent.SameFrame d e)
    (b.agents.map (·.value)) (c.agents.map (·.value)) := by
  rw [List.forall₂_map_map_iff]
  exact h.agents.imp fun _ _ hagent => hagent.2

/-- The functions of tools belong to the frame. -/
theorem toolsPart_eq (htool : d.toolName = e.toolName) (hreturn : d.returnType = e.returnType)
    (tools : List Tool) : toolsPart d tools = toolsPart e tools := by
  have hdeclaration : Tool.declaration d = Tool.declaration e := by
    funext t
    simp only [Tool.declaration, Tool.signature, Tool.functionName, htool, hreturn]
  rw [toolsPart, toolsPart, hdeclaration]

theorem schemasPart_eq {agents others : List Agent}
    (h : List.Forall₂ (Agent.SameFrame d e) agents others) :
    schemasPart agents = schemasPart others := by
  have hschemas : agents.filterMap Agent.declaredSchema =
      others.filterMap Agent.declaredSchema := by
    induction h with
    | nil => rfl
    | cons hagent _ ih =>
      rw [List.filterMap_cons, List.filterMap_cons, ih, hagent.declaredSchema_eq]
  rw [schemasPart, schemasPart, hschemas]

theorem toolNamesFor_eq (h : b.SameFrame d e c) (htool : d.toolName = e.toolName) :
    b.toolNamesFor d = c.toolNamesFor e := by
  have hname : b.toolName? d = c.toolName? e := by
    funext id
    simp only [toolName?, Tool.functionName, h.tools, htool]
  funext id
  rw [toolNamesFor, toolNamesFor, hname, h.connections]

theorem clientPart_framed (h : b.SameFrame d e c) :
    Text.Framed (d.freeTexts b.agents.length) (e.freeTexts c.agents.length)
      (clientPart d b.agents.length) (clientPart e c.agents.length) := by
  rw [h.agents.length_eq]
  unfold Defaults.freeTexts clientPart
  split
  · exact .fixed _
  · exact clientDeclaration_framed d e

theorem agentsPart_framed (h : b.SameFrame d e c) (htool : d.toolName = e.toolName) :
    Text.Framed (b.agents.flatMap (·.value.freeTexts d)) (c.agents.flatMap (·.value.freeTexts e))
      (b.agentsPart d) (c.agentsPart e) := by
  have hdeclarations : List.Forall₂ (fun a o => Text.Framed (a.value.freeTexts d)
      (o.value.freeTexts e) (a.value.declaration d (b.toolNamesFor d a.id))
        (o.value.declaration e (c.toolNamesFor e o.id))) b.agents c.agents :=
    h.agents.imp fun a o hagent => by
      rw [h.toolNamesFor_eq htool, hagent.1]
      exact Agent.declaration_framed hagent.2 _
  exact (InOrder.of_forall₂ hdeclarations).intercalate "\n\n"

/-- Every part of a program is framed alike. -/
theorem parts_framed (h : b.SameFrame d e c) (htool : d.toolName = e.toolName)
    (hreturn : d.returnType = e.returnType) :
    InOrder Text.Framed (b.freeTexts d) (c.freeTexts e) (Part.all.map (b.part d))
      (Part.all.map (c.part e)) := by
  have himports : importsPart b.tools.length b.agents.length =
      importsPart c.tools.length c.agents.length := by rw [h.tools, h.agents.length_eq]
  have htools : toolsPart d (b.tools.map (·.value)) = toolsPart e (c.tools.map (·.value)) := by
    rw [h.tools, toolsPart_eq htool hreturn]
  have hfixed (segment : String) : Text.Framed (κ := FreeText) [] [] segment segment :=
    .fixed segment
  -- free texts stand in the parts from the client on, save in that of the runners
  have hentry := InOrder.cons (entryPoint_framed h.values h.runners) .nil
  have hagents := InOrder.cons (h.agentsPart_framed htool) (InOrder.cons (hfixed "") hentry)
  have hclient := InOrder.cons h.clientPart_framed hagents
  have htoolsOn := InOrder.cons (hfixed (toolsPart e (c.tools.map (·.value)))) hclient
  have hschemasOn := InOrder.cons (hfixed (schemasPart (c.agents.map (·.value)))) htoolsOn
  have hall := InOrder.cons (hfixed (importsPart c.tools.length c.agents.length)) hschemasOn
  simp only [List.append_nil, List.nil_append] at hall
  simp only [Part.all, List.map_cons, List.map_nil, part, himports, schemasPart_eq h.values, htools,
    freeTexts, List.append_assoc]
  exact hall

/-- Programs of blueprints that differ in free texts only. -/
theorem code_framed (h : b.SameFrame d e c) (htool : d.toolName = e.toolName)
    (hreturn : d.returnType = e.returnType) :
    Text.Framed (b.freeTexts d) (c.freeTexts e) (b.code d) (c.code e) :=
  (h.parts_framed htool hreturn).filter_isBlankText.intercalate "\n\n"

end Blueprint.SameFrame

/-! ## Workflows -/

/-- Attributes of one kind that differ in free texts only. Of runners the mode matters, and tools
have no free texts. -/
def Attributes.SameFrame (d e : Defaults) : Attributes → Attributes → Prop
  | .agent a, .agent b => a.SameFrame d e b
  | .runner r, .runner o => r.executionMode = o.executionMode
  | .tool t, .tool u => t = u
  | _, _ => False

/-- Two nodes with one id and kind whose attributes differ in free texts only. -/
structure Node.SameFrame (d e : Defaults) (node other : Node) : Prop where
  id : node.id = other.id
  kind : node.kind = other.kind
  attributes : ∃ a b, node.attributes = .ok a ∧ other.attributes = .ok b ∧ a.SameFrame d e b

/-- Two workflows with the same edges whose nodes differ in free texts only. -/
structure Workflow.SameFrame (d e : Defaults) (w v : Workflow) : Prop where
  nodes : List.Forall₂ (Node.SameFrame d e) w.nodes v.nodes
  edges : w.edges = v.edges

namespace Workflow.SameFrame

variable {d e : Defaults} {w v : Workflow} {b c : Blueprint}

/-- The blueprints differ in free texts only. -/
theorem blueprint (h : w.SameFrame d e v) (hb : w.blueprint = .ok b) (hc : v.blueprint = .ok c) :
    b.SameFrame d e c := by
  obtain ⟨-, -, -, hconnections⟩ := blueprint_eq_ok_iff.mp hb
  obtain ⟨-, -, -, hconnections'⟩ := blueprint_eq_ok_iff.mp hc
  obtain ⟨hagents, htools, hrunners⟩ := forall₂_blueprint (S := fun _ => Attributes.SameFrame d e)
    (h.nodes.imp fun _ _ hnode => ⟨hnode.id, hnode.kind, hnode.attributes⟩) hb hc
  refine ⟨hagents, hrunners.imp fun _ _ hrunner => hrunner.elim fun _ => id, ?_, ?_⟩
  · rw [← List.forall₂_eq_eq_eq]
    refine htools.imp fun tool other htool => ?_
    obtain ⟨id, value⟩ := tool
    rw [show id = other.id from htool.1, show value = other.value from htool.2]
  · rw [hconnections, hconnections', h.edges]

theorem readable_left (h : w.SameFrame d e v) : w.Readable := by
  intro node hnode
  have hflip : List.Forall₂ (flip (Node.SameFrame d e)) v.nodes w.nodes := h.nodes.flip
  obtain ⟨_, -, hsame⟩ := hflip.exists_of_mem_right hnode
  obtain ⟨a, _, ha, -, -⟩ := hsame.attributes
  exact ⟨a, ha⟩

theorem readable_right (h : w.SameFrame d e v) : v.Readable := by
  intro node hnode
  obtain ⟨_, -, hsame⟩ := h.nodes.exists_of_mem_right hnode
  obtain ⟨_, b, -, hb, -⟩ := hsame.attributes
  exact ⟨b, hb⟩

end Workflow.SameFrame

/-- The programs of workflows that differ in free texts only, under defaults that agree on the names
and the types of tools, are made of the same segments. Between them stand the free texts of either
program, each as a string literal, of the same sorts in the same order. Hence both programs have
the same number of lines, whether newlines or any line endings count. -/
theorem Workflow.generate_framed (d e : Defaults) (htool : d.toolName = e.toolName)
    (hreturn : d.returnType = e.returnType) {w v : Workflow} (h : w.SameFrame d e v) :
    ∃ b c g g', w.blueprint = .ok b ∧ v.blueprint = .ok c ∧
      w.generate d = .ok g ∧ v.generate e = .ok g' ∧
      (b.freeTexts d).map Prod.fst = (c.freeTexts e).map Prod.fst ∧
      (∃ first segments, segments.length = (b.freeTexts d).length ∧
        segments.length = (c.freeTexts e).length ∧
        g.code = Text.fill first ((b.freeTexts d).map Prod.snd) segments ∧
        g'.code = Text.fill first ((c.freeTexts e).map Prod.snd) segments) ∧
      (Text.lines g.code).length = (Text.lines g'.code).length ∧
      (Text.sourceLines g.code).length = (Text.sourceLines g'.code).length := by
  obtain ⟨g, hg⟩ := exists_generate_eq_ok_iff.mpr h.readable_left
  obtain ⟨g', hg'⟩ := exists_generate_eq_ok_iff.mpr h.readable_right
  obtain ⟨_, b, -, hb, hgb⟩ := generate_eq_ok_iff.mp hg
  obtain ⟨_, c, -, hc, hgc⟩ := generate_eq_ok_iff.mp hg'
  have hcode : Text.Framed (b.freeTexts d) (c.freeTexts e) g.code g'.code := by
    simp only [hgb, hgc]
    exact (h.blueprint hb hc).code_framed htool hreturn
  exact ⟨b, c, g, g', hb, hc, hg, hg', hcode.sorts_eq, hcode.exists_fill, hcode.length_lines_eq,
    hcode.length_sourceLines_eq⟩

/-- An agent that says so much, and a runner. -/
def Workflow.greeting (description task : String) : Workflow where
  nodes := [⟨"a", .agent, ⟨.zero, .zero⟩, .obj [("description", .str description)]⟩,
    ⟨"r", .runner, ⟨.zero, .zero⟩, .obj [("input", .str task)]⟩]
  edges := [⟨"e", "a", "r"⟩]

/-- Line breaks and quotation marks in a description, a task and the name of a model add no lines to
the program. -/
theorem Workflow.generate_framed_greeting : ∃ g g',
    (greeting "plain" "").generate Defaults.builtIn = .ok g ∧
      (greeting "two\nlines" "\"); quit(").generate { Defaults.builtIn with model := "m\r\n" } =
        .ok g' ∧
      (Text.sourceLines g.code).length = (Text.sourceLines g'.code).length := by
  have hframe : Workflow.SameFrame Defaults.builtIn { Defaults.builtIn with model := "m\r\n" }
      (greeting "plain" "") (greeting "two\nlines" "\"); quit(") := by
    refine ⟨.cons ⟨rfl, rfl, _, _, rfl, rfl, ?_⟩ (.cons ⟨rfl, rfl, _, _, rfl, rfl, rfl⟩ .nil), rfl⟩
    exact ⟨rfl, rfl, rfl, by simp, Iff.rfl⟩
  obtain ⟨_, _, g, g', -, -, hg, hg', -, -, -, hlines⟩ :=
    generate_framed Defaults.builtIn { Defaults.builtIn with model := "m\r\n" } rfl rfl hframe
  exact ⟨g, g', hg, hg', hlines⟩

end AgentCanvas
