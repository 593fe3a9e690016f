import AgentCanvas.Proofs.Program.Closed

/-!
# What programs show

Of the attributes of its workflow and of the defaults a program shows only so much: how agents are
displayed and described, what schemas they declare, how functions of tools are named, typed and
implemented, and how the program is run. Two programs that show the same are the same, even if it is
an attribute in one of them and a default in the other. The variables of the agents are not only
shown, they can be told from the program.

## Key definitions

- `Agent.RendersAs`, `Tool.RendersAs`: what is rendered alike, each under its own defaults.
- `Blueprint.SameFront`, `Blueprint.RendersAs`: blueprints that are rendered alike in front of the
  agents and throughout.

## Key results

- `Agent.RendersAs.declaration_eq`, `Tool.RendersAs.declaration_eq`: declarations that are the same.
- `Blueprint.SameFront.identifiers_eq_of_code_eq`: the variables are told from the program.
- `Blueprint.RendersAs.code_eq`: programs that are the same.
-/

namespace AgentCanvas

/-- What is shown of two agents, each under its own defaults, is the same, apart from schemas. -/
structure Agent.RendersAs (d e : Defaults) (a b : Agent) : Prop where
  displayName : a.displayName d = b.displayName e
  description : a.description = b.description
  systemMessage : a.systemMessage = b.systemMessage

/-- What is shown of two tools, each under its own defaults, is the same. -/
structure Tool.RendersAs (d e : Defaults) (t u : Tool) : Prop where
  functionName : t.functionName d = u.functionName e
  parameters : t.parameters = u.parameters
  returnType : orElse t.returnType d.returnType = orElse u.returnType e.returnType
  implementation : t.implementation = u.implementation

/-- What is shown of two blueprints in front of the agents, each under its own defaults, is the
same, and so are the tools of an id. -/
structure Blueprint.SameFront (d e : Defaults) (b c : Blueprint) : Prop where
  schemas : List.Forall₂ (fun a o => a.value.declaredSchema = o.value.declaredSchema)
    b.agents c.agents
  tools : List.Forall₂ (fun t u => t.id = u.id ∧ t.value.RendersAs d e u.value) b.tools c.tools
  connections : b.connections = c.connections
  /-- The model is shown where there are agents. -/
  model : b.agents ≠ [] → d.model = e.model

/-- What is shown of two blueprints, each under its own defaults, is the same. -/
structure Blueprint.RendersAs (d e : Defaults) (b c : Blueprint) : Prop
    extends b.SameFront d e c where
  agents : List.Forall₂ (fun a o => a.id = o.id ∧ a.value.RendersAs d e o.value) b.agents c.agents
  entry : b.entry d = c.entry e

variable {d e : Defaults}

/-! ## Declarations -/

namespace Agent.RendersAs

variable {a b : Agent}

theorem identifier_eq (h : a.RendersAs d e b) : a.identifier d = b.identifier e := by
  rw [identifier, identifier, h.displayName]

/-- Agents that are rendered alike have the same declaration, if they have the same tools. -/
theorem declaration_eq (h : a.RendersAs d e b) (toolNames : List String) :
    a.declaration d toolNames = b.declaration e toolNames := by
  rw [declaration, declaration, h.identifier_eq, h.displayName, h.description, h.systemMessage]

end Agent.RendersAs

/-- Tools that are rendered alike have the same function. -/
theorem Tool.RendersAs.declaration_eq {t u : Tool} (h : t.RendersAs d e u) :
    t.declaration d = u.declaration e := by
  have hsignature : t.signature d = u.signature e := by
    rw [signature, signature, h.functionName, h.parameters, h.returnType]
  have hbody : t.body = u.body := by rw [body, body, h.implementation]
  rw [declaration, declaration, hsignature, hbody]

/-- Agents under the same names are run alike by the same runners, if the first task and the token
of a team are the same. -/
theorem entryPoint_eq_entryPoint {agents others : List Agent} {runners : List Runner}
    (hidentifiers : agents.map (·.identifier d) = others.map (·.identifier e))
    (htask : agents ≠ [] → ∀ first ∈ runners.head?,
      orElse first.input d.task = orElse first.input e.task)
    (htoken : 2 ≤ agents.length → runners ≠ [] → d.terminationToken = e.terminationToken) :
    entryPoint d agents runners = entryPoint e others runners := by
  -- without a runner or an agent nothing is run; a single agent is run without a token
  cases runners with
  | nil => rfl
  | cons first rest =>
    cases agents with
    | nil =>
      rw [List.map_eq_nil_iff.mp hidentifiers.symm]
      rfl
    | cons a more =>
      have hfirst := htask (List.cons_ne_nil _ _) first rfl
      obtain ⟨o, others, rfl, ho, hothers⟩ := List.map_eq_cons_iff.mp hidentifiers.symm
      cases more with
      | nil =>
        rw [List.map_eq_nil_iff.mp hothers]
        simp only [entryPoint, ho, hfirst]
      | cons next more =>
        obtain ⟨_, _, rfl, -, -⟩ := List.map_eq_cons_iff.mp hothers
        have hteam := htoken (by simp) (List.cons_ne_nil _ _)
        simp only [entryPoint, hidentifiers, hfirst, hteam]

namespace Blueprint.SameFront

variable {b c : Blueprint} {part : Part}

/-! ## Names of tools -/

/-- Ids find tools that are named alike. -/
theorem toolName?_eq (h : b.SameFront d e c) : b.toolName? d = c.toolName? e := by
  funext id
  have hreverse := List.forall₂_reverse_iff.mpr h.tools
  have hid : ∀ t u : Identified Tool, t.id = u.id ∧ t.value.RendersAs d e u.value →
      decide (t.id = id) = decide (u.id = id) := fun t u hsame => by rw [hsame.1]
  unfold toolName?
  obtain ⟨hb, hc⟩ | ⟨t, u, hb, hc, hsame⟩ := hreverse.find? hid
  · rw [hb, hc, Option.map_none, Option.map_none]
  · rw [hb, hc, Option.map_some, Option.map_some, hsame.2.functionName]

theorem toolNamesFor_eq (h : b.SameFront d e c) : b.toolNamesFor d = c.toolNamesFor e := by
  funext id
  rw [toolNamesFor, toolNamesFor, h.toolName?_eq, h.connections]

/-! ## Parts in front of the agents -/

theorem agents_eq_nil_iff (h : b.SameFront d e c) : b.agents = [] ↔ c.agents = [] := by
  rw [← List.isEmpty_iff, h.schemas.isEmpty_eq, List.isEmpty_iff]

theorem schemasPart_eq (h : b.SameFront d e c) :
    schemasPart (b.agents.map (·.value)) = schemasPart (c.agents.map (·.value)) := by
  have hschemas : b.agents.map (·.value.declaredSchema) = c.agents.map (·.value.declaredSchema) :=
    List.Forall₂.map_eq h.schemas
  have hfilter (b : Blueprint) : (b.agents.map (·.value)).filterMap Agent.declaredSchema =
      (b.agents.map (·.value.declaredSchema)).filterMap id := by
    rw [List.filterMap_map, List.filterMap_map]
    rfl
  rw [schemasPart, schemasPart, hfilter, hfilter, hschemas]

theorem toolsPart_eq (h : b.SameFront d e c) :
    toolsPart d (b.tools.map (·.value)) = toolsPart e (c.tools.map (·.value)) := by
  rw [toolsPart, toolsPart, List.map_map, List.map_map]
  exact congrArg joinParts
    (List.Forall₂.map_eq (h.tools.imp fun _ _ htool => htool.2.declaration_eq))

theorem clientPart_eq (h : b.SameFront d e c) :
    clientPart d b.agents.length = clientPart e c.agents.length := by
  rw [← h.schemas.length_eq]
  unfold clientPart
  split
  next => rfl
  next hne =>
    have hagents : b.agents ≠ [] := fun hnil => hne (by rw [hnil]; rfl)
    rw [clientDeclaration, clientDeclaration, h.model hagents]

theorem part_eq (h : b.SameFront d e c) (hpart : Part.all.idxOf part < Part.all.idxOf .agents) :
    b.part d part = c.part e part := by
  cases part with
  | imports => rw [Blueprint.part, Blueprint.part, h.schemas.length_eq, h.tools.length_eq]
  | schemas => exact h.schemasPart_eq
  | tools => exact h.toolsPart_eq
  | client => exact h.clientPart_eq
  | agents => exact absurd hpart (by decide)
  | runners => exact absurd hpart (by decide)
  | entryPoint => exact absurd hpart (by decide)

/-- The same parts are there. -/
theorem presentParts_eq (h : b.SameFront d e c) : b.presentParts d = c.presentParts e := by
  refine List.filter_congr fun part _ => congrArg not ?_
  cases part with
  | imports | schemas | tools | client => rw [h.part_eq (by decide)]
  | agents =>
    have hb := mem_presentParts_agents_iff (b := b) (d := d)
    have hc := mem_presentParts_agents_iff (b := c) (d := e)
    rw [mem_presentParts_iff, ← Bool.not_eq_true, not_iff_not] at hb hc
    rw [Bool.eq_iff_iff, hb, hc]
    exact h.agents_eq_nil_iff
  | runners => rfl
  | entryPoint =>
    rw [mem_presentParts_iff.mp (b.mem_presentParts_entryPoint d),
      mem_presentParts_iff.mp (c.mem_presentParts_entryPoint e)]

/-! ## Variables of agents -/

/-- Where programs agree in front of the agents, the variables of the agents are told from them. -/
theorem identifiers_eq_of_code_eq (h : b.SameFront d e c) (hcode : b.code d = c.code e) :
    b.identifiers d = c.identifiers e := by
  by_cases hagents : b.agents = []
  · rw [identifiers, identifiers, hagents, h.agents_eq_nil_iff.mp hagents, List.map_nil,
      List.map_nil]
  obtain ⟨front, back, hparts⟩ :=
    List.append_of_mem (mem_presentParts_agents_iff (d := d).mpr hagents)
  -- the lines that declare agents stand behind those in front, which are the same
  have hlines (b : Blueprint) (d : Defaults) : (Text.lines (b.code d)).filter IsHeadLine =
      (b.presentParts d).flatMap fun part => (b.linesOf d part).filter IsHeadLine := by
    rw [code_eq_joinParts, filter_lines_joinParts (by decide), List.flatMap_map]
    rfl
  have hfront : front.flatMap (fun part => (b.linesOf d part).filter IsHeadLine) =
      front.flatMap fun part => (c.linesOf e part).filter IsHeadLine := by
    have hpairwise := b.pairwise_presentParts d
    rw [hparts, List.pairwise_append] at hpairwise
    refine List.flatMap_congr fun part hpart => ?_
    rw [linesOf, linesOf, h.part_eq (hpairwise.2.2 part hpart .agents List.mem_cons_self)]
  have hfilter := (hlines b d).symm.trans ((congrArg _ (congrArg _ hcode)).trans (hlines c e))
  rw [← h.presentParts_eq, hparts, List.flatMap_append, List.flatMap_append, hfront,
    List.append_cancel_left_eq, List.flatMap_cons, List.flatMap_cons, filter_isHeadLine,
    filter_isHeadLine] at hfilter
  -- there are as many agents on either side
  have hlength : ((b.identifiers d).map Agent.headLine).length =
      ((c.identifiers e).map Agent.headLine).length := by
    simp [identifiers, h.schemas.length_eq]
  have hheads := (List.append_inj hfilter hlength).1
  exact List.map_injective_iff.mpr (fun _ _ hline => (String.append_left_inj _).mp hline) hheads

end Blueprint.SameFront

namespace Blueprint.RendersAs

variable {b c : Blueprint}

theorem agentsPart_eq (h : b.RendersAs d e c) : b.agentsPart d = c.agentsPart e := by
  have hdeclaration (a o : Identified Agent)
      (hagent : a.id = o.id ∧ a.value.RendersAs d e o.value) :
      a.value.declaration d (b.toolNamesFor d a.id) =
        o.value.declaration e (c.toolNamesFor e o.id) := by
    rw [h.toolNamesFor_eq, hagent.1, hagent.2.declaration_eq]
  exact congrArg joinParts (List.Forall₂.map_eq (h.agents.imp hdeclaration))

/-- Blueprints that are rendered alike have the same program. -/
theorem code_eq (h : b.RendersAs d e c) : b.code d = c.code e := by
  have hpart : b.part d = c.part e := by
    funext part
    cases part with
    | imports | schemas | tools | client => exact h.toSameFront.part_eq (by decide)
    | agents => exact h.agentsPart_eq
    | runners => rfl
    | entryPoint => exact congrArg EntryPoint.declaration h.entry
  rw [code, code, hpart]

end Blueprint.RendersAs

end AgentCanvas
