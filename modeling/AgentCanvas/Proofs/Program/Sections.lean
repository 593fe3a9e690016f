import AgentCanvas.Proofs.Program.Closed
import AgentCanvas.Proofs.Program.Lossless
import AgentCanvas.Proofs.Text.Spacing

/-!
# Sections of programs

A program begins with its imports, ends with its entry point and holds in between what its workflow
has to declare, each part behind one empty line. Schemas and the functions of tools are copied with
the line breaks that they have; in a program without them an empty line stands only between two
lines that are not empty, whatever the texts of the workflow are.

## Key definitions

- `Workflow.DeclaresSchema`: the workflow has a schema to declare.
- `Workflow.Assembled`: which parts stand behind the imports.

## Key results

- `joinParts_cons`: joined parts, one after another.
- `Blueprint.spaced_lines_code`: the lines of programs without schemas and tools.
- `Workflow.generate_assembled`: what programs are assembled from.
-/

namespace AgentCanvas

open Text (Spaced)

/-! ## Joined parts -/

/-- Behind the first of several joined parts stands each of the others after two newlines. -/
theorem joinParts_cons (first : String) (rest : List String) :
    joinParts (first :: rest) = first ++ String.join (rest.map ("\n\n" ++ ·)) := by
  induction rest generalizing first with
  | nil => simp [joinParts]
  | cons next rest ih =>
    rw [joinParts, String.intercalate_cons_cons, ← joinParts, ih, List.map_cons, String.join_cons]
    simp only [String.append_assoc]

/-- Parts are joined with an empty line, so they stay spaced. -/
theorem spaced_lines_joinParts {parts : List String} (hne : parts ≠ [])
    (h : ∀ part ∈ parts, Spaced (Text.lines part)) : Spaced (Text.lines (joinParts parts)) := by
  induction parts with
  | nil => exact absurd rfl hne
  | cons first rest ih =>
    obtain ⟨hfirst, hrest⟩ := List.forall_mem_cons.mp h
    cases rest with
    | nil => simpa [joinParts] using hfirst
    | cons next rest =>
      rw [lines_joinParts_cons_cons]
      exact hfirst.append (ih (List.cons_ne_nil _ _) hrest)

/-! ## Declarations -/

theorem Agent.spaced_lines (d : Defaults) (a : Agent) (toolNames : List String) :
    Spaced (a.lines d toolNames) := by
  apply Spaced.of_forall_ne
  · simp [lines]
  · intro line hline hempty
    exact a.empty_not_mem_lines d toolNames (hempty ▸ hline)

theorem spaced_clientLines (d : Defaults) : Spaced (clientLines d) := by
  apply Spaced.of_forall_ne
  · simp [clientLines]
  · simp [clientLines]

namespace EntryPoint

/-- Before the program is run, an empty line ends the function that runs it. -/
theorem spaced_append_closingLines {front : List String} (h : ∀ line ∈ front, line ≠ "")
    (mode : ExecutionMode) : Spaced (front ++ closingLines mode) := by
  obtain ⟨close, run, hclosing, hne, hclose, hrun⟩ : ∃ close run,
      closingLines mode = close ++ "" :: run ∧ close ≠ [] ∧ (∀ line ∈ close, line ≠ "") ∧
        Spaced run := by
    cases mode with
    | sync => exact ⟨["    finally:", "        model_client.close()"], _, rfl, by decide,
        by decide, .of_forall_ne (by decide) (by decide)⟩
    | async => exact ⟨["    finally:", "        await model_client.close()"], _, rfl, by decide,
        by decide, .of_forall_ne (by decide) (by decide)⟩
  have hfront : Spaced (front ++ close) :=
    .of_forall_ne (List.append_ne_nil_of_right_ne_nil _ hne)
      (List.forall_mem_append.mpr ⟨h, hclose⟩)
  rw [hclosing, ← List.append_assoc]
  exact hfront.append hrun

/-- Empty lines divide an entry point, whatever it hands over. -/
theorem spaced_lines (e : EntryPoint) : Spaced e.lines := by
  have hne {front : String} (text : String) (hfront : front ≠ "") : front ++ text ≠ "" := by
    simp [hfront]
  cases e with
  | guidance => exact .of_forall_ne (by decide) (by decide)
  | single agent task mode =>
    refine spaced_append_closingLines ?_ mode
    have hmain : mainLine mode ≠ "" := by cases mode <;> decide
    have hrun : runLine agent task mode ≠ "" := by cases mode <;> exact hne _ (by decide)
    simp [hmain, hrun]
  | team agents task token =>
    have htoken : tokenLine token ≠ "" := hne _ (by decide)
    have hteam : teamLine agents ≠ "" := hne _ (by decide)
    have hstream : streamLine task ≠ "" := hne _ (by decide)
    -- the function of a team has three sections in front of the one that runs it
    have hclient : Spaced [mainLine .async, "    model_client = get_model_client()"] :=
      .of_forall_ne (by decide) (by decide)
    have hlimit : Spaced ["    # Stop once any agent mentions the termination token",
        tokenLine token] := .of_forall_ne (List.cons_ne_nil _ _) (by simp [htoken])
    have hturns : Spaced ["    # Agents take turns in node order",
        "    team = RoundRobinGroupChat(", teamLine agents,
        "        termination_condition=termination", "    )"] :=
      .of_forall_ne (List.cons_ne_nil _ _) (by simp [hteam])
    have hrun : Spaced (["    try:", streamLine task] ++ closingLines .async) :=
      spaced_append_closingLines (by simp [hstream]) _
    exact hclient.append (hlimit.append (hturns.append hrun))

end EntryPoint

namespace Blueprint

variable {b : Blueprint} {d : Defaults} {part : Part}

/-- Of the parts that are there, only schemas and the functions of tools may hold empty lines in a
row. -/
theorem spaced_linesOf (h : part ∈ b.presentParts d) (hschemas : part ≠ .schemas)
    (htools : part ≠ .tools) : Spaced (b.linesOf d part) := by
  cases part with
  | imports =>
    rw [linesOf_imports]
    apply Spaced.of_forall_ne
    · simp [baseImports]
    · split <;> split <;> decide
  | schemas => exact absurd rfl hschemas
  | tools => exact absurd rfl htools
  | client =>
    rw [linesOf_client (mem_presentParts_client_iff.mp h)]
    exact spaced_clientLines d
  | agents =>
    have hagents := mem_presentParts_agents_iff.mp h
    apply spaced_lines_joinParts
    · exact List.map_eq_nil_iff.not.mpr hagents
    · intro text htext
      obtain ⟨agent, -, rfl⟩ := List.mem_map.mp htext
      rw [agent.value.lines_declaration d isNameText_toolNamesFor]
      exact agent.value.spaced_lines d _
  | runners => exact absurd (mem_presentParts_iff.mp h) (by simp [Blueprint.part, Text.isBlankText])
  | entryPoint =>
    rw [linesOf_entryPoint]
    exact (b.entry d).spaced_lines

/-- Without schemas and tools, the lines of a program are spaced. -/
theorem spaced_lines_code (hschemas : .schemas ∉ b.presentParts d)
    (htools : .tools ∉ b.presentParts d) : Spaced (Text.lines (b.code d)) := by
  rw [code_eq_joinParts]
  apply spaced_lines_joinParts
  · exact List.map_eq_nil_iff.not.mpr (List.ne_nil_of_mem (b.mem_presentParts_imports d))
  · intro text htext
    obtain ⟨part, hpart, rfl⟩ := List.mem_map.mp htext
    apply spaced_linesOf hpart
    · rintro rfl
      exact hschemas hpart
    · rintro rfl
      exact htools hpart

end Blueprint

/-! ## Assembly -/

/-- An agent declares a schema if its answers are structured and the schema is not empty. -/
theorem Agent.declaredSchema_eq_some_iff {a : Agent} {schema : String} :
    a.declaredSchema = some schema ↔
      a.outputFormat = .structured ∧ a.schema = some schema ∧ schema ≠ "" := by
  unfold declaredSchema
  split
  next h => simp [h, Option.filter_eq_some_iff]
  next h => simp [h]

namespace Workflow

variable {w : Workflow} {b : Blueprint} {d : Defaults}

/-- Some agent with structured answers has a schema that is not empty. -/
def DeclaresSchema (w : Workflow) : Prop :=
  ∃ node ∈ w.nodes, ∃ a schema, node.attributes = .ok (.agent a) ∧
    a.outputFormat = .structured ∧ a.schema = some schema ∧ schema ≠ ""

/-- Which parts of a program stand behind its imports. -/
structure Assembled (w : Workflow) (d : Defaults) (b : Blueprint) (behind : List Part) : Prop where
  inOrder : behind.Sublist [.schemas, .tools, .client, .agents, .entryPoint]
  schemas : .schemas ∈ behind ↔ w.DeclaresSchema
  tools : .tools ∈ behind ↔ ∃ node ∈ w.nodes, node.kind = .tool
  client : .client ∈ behind ↔ ∃ node ∈ w.nodes, node.kind = .agent
  agents : .agents ∈ behind ↔ ∃ node ∈ w.nodes, node.kind = .agent
  last : behind.getLast? = some .entryPoint
  /-- Nothing but the empty text is left out. -/
  kept : ∀ part, b.part d part ≠ "" → part ∈ .imports :: behind

/-- The agents of a blueprint declare schemas exactly if those of the workflow do. -/
theorem exists_declaredSchema_iff (hb : w.blueprint = .ok b) :
    (∃ agent ∈ b.agents, ∃ schema, agent.value.declaredSchema = some schema) ↔
      w.DeclaresSchema := by
  have hagents := forall₂_agents hb
  constructor
  · rintro ⟨agent, hagent, schema, hschema⟩
    obtain ⟨node, hnode, -, hattributes⟩ := hagents.exists_of_mem_right hagent
    exact ⟨node, (mem_nodesOfKind.mp hnode).1, agent.value, schema, hattributes,
      Agent.declaredSchema_eq_some_iff.mp hschema⟩
  · rintro ⟨node, hnode, a, schema, hattributes, hschema⟩
    have hkind : node.kind = .agent := Node.kind_of_attributes hattributes
    obtain ⟨agent, hagent, -, hvalue⟩ :=
      hagents.exists_of_mem_left (mem_nodesOfKind.mpr ⟨hnode, hkind⟩)
    rw [hattributes] at hvalue
    cases hvalue
    exact ⟨agent, hagent, schema, Agent.declaredSchema_eq_some_iff.mpr hschema⟩

/-- Behind the imports stand the other parts that are there. -/
theorem exists_assembled (hb : w.blueprint = .ok b) (d : Defaults) :
    ∃ behind, b.presentParts d = .imports :: behind ∧ w.Assembled d b behind := by
  have hparts := b.presentParts_eq d
  have hbehind {part : Part} (hpart : part ≠ .imports) :
      part ∈ [Part.schemas, .tools, .client, .agents].filter (· ∈ b.presentParts d) ++
        [.entryPoint] ↔ part ∈ b.presentParts d := by
    conv_rhs => rw [hparts, List.mem_cons, or_iff_right hpart]
  refine ⟨_, hparts, ?_, ?_, ?_, ?_, ?_, ?_, ?_⟩
  · exact List.filter_sublist.append_right [Part.entryPoint]
  · rw [hbehind (by decide), Blueprint.mem_presentParts_schemas_iff, exists_declaredSchema_iff hb]
  · rw [hbehind (by decide), Blueprint.mem_presentParts_tools_iff, tools_ne_nil_iff hb]
  · rw [hbehind (by decide), Blueprint.mem_presentParts_client_iff, agents_ne_nil_iff hb]
  · rw [hbehind (by decide), Blueprint.mem_presentParts_agents_iff, agents_ne_nil_iff hb]
  · exact List.getLast?_concat
  · intro part hpart
    rw [← hparts]
    exact Blueprint.mem_presentParts_of_part_ne_empty hpart

/-- A program whose attributes can be read is its imports and behind them, each after two newlines,
what the workflow has to declare and the entry point. Unless a schema or the function of a tool is
among them, no three newlines follow each other and the program neither begins nor ends with a
newline. -/
theorem generate_assembled (d : Defaults) {w : Workflow} (hreadable : w.Readable) :
    ∃ b g behind, w.blueprint = .ok b ∧ w.generate d = .ok g ∧
      g.code = b.part d .imports ++ String.join (behind.map fun part => "\n\n" ++ b.part d part) ∧
      w.Assembled d b behind ∧
      ((¬∃ node ∈ w.nodes, node.kind = .tool) → ¬w.DeclaresSchema →
        ¬"\n\n\n".toList <:+: g.code.toList ∧ ¬"\n".toList <+: g.code.toList ∧
          ¬"\n".toList <:+ g.code.toList) := by
  obtain ⟨g, hg⟩ := exists_generate_eq_ok_iff (d := d).mpr hreadable
  obtain ⟨_, b, -, hb, rfl⟩ := generate_eq_ok_iff.mp hg
  obtain ⟨behind, hparts, hassembled⟩ := exists_assembled hb d
  refine ⟨b, _, behind, hb, hg, ?_, hassembled, ?_⟩
  · rw [b.code_eq_joinParts d, hparts, List.map_cons, joinParts_cons, List.map_map]
    rfl
  · intro htools hschema
    have hspaced : Spaced (Text.lines (b.code d)) := by
      apply Blueprint.spaced_lines_code
      · rwa [Blueprint.mem_presentParts_schemas_iff, exists_declaredSchema_iff hb]
      · rwa [Blueprint.mem_presentParts_tools_iff, tools_ne_nil_iff hb]
    exact ⟨hspaced.not_newlines_isInfix, hspaced.not_newline_isPrefix,
      hspaced.not_newline_isSuffix⟩

/-- An agent and a runner whose texts are newlines, with a schema that is empty. -/
def newlines : Workflow where
  nodes := [⟨"a", .agent, ⟨.zero, .zero⟩, .obj [("name", .str "\n\n\n"),
      ("description", .str "\n\n\n"), ("system_message", .str "\n"),
      ("output_type", .str "structured"), ("structured_schema", .str "")]⟩,
    ⟨"r", .runner, ⟨.zero, .zero⟩, .obj [("input", .str "\n\n\n")]⟩]
  edges := [⟨"e", "a", "r"⟩]

/-- Newlines in texts and defaults do not become newlines of the program. -/
theorem generate_assembled_newlines : newlines.Readable ∧
    ∃ g, newlines.generate { Defaults.builtIn with model := "\n\n\n" } = .ok g ∧
      ¬"\n\n\n".toList <:+: g.code.toList := by
  have hreadable : newlines.Readable := by
    simp only [Readable, newlines, List.forall_mem_cons]
    exact ⟨⟨_, rfl⟩, ⟨_, rfl⟩, List.forall_mem_nil _⟩
  obtain ⟨_, g, _, -, hg, -, -, hspaced⟩ :=
    generate_assembled { Defaults.builtIn with model := "\n\n\n" } hreadable
  refine ⟨hreadable, g, hg, (hspaced ?_ ?_).1⟩
  · simp [newlines]
  · -- the only schema is the empty one of the agent
    rintro ⟨node, hnode, a, schema, hattributes, -, hschema, hne⟩
    simp only [newlines, List.mem_cons, List.not_mem_nil, or_false] at hnode
    rcases hnode with rfl | rfl
    · cases hattributes
      cases hschema
      exact hne rfl
    · cases hattributes

end Workflow

end AgentCanvas
