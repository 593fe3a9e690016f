import AgentCanvas.Program.Generation
import AgentCanvas.Proofs.Program.Layout
import AgentCanvas.Proofs.Text.Framed

/-!
# Assembly of programs

Which parts a program holds, in which order, and the lines of each of them. A part is left out
exactly if it has nothing to declare.

## Key definitions

- `Blueprint.presentParts`: the parts that a program holds.
- `Blueprint.linesOf`: the lines of a part.

## Key results

- `Blueprint.code_eq_joinParts`: a program is made of its parts.
- `Blueprint.mem_presentParts_client_iff` and the like: when a part is present.
- `Blueprint.mem_front_of_idxOf_lt`: what stands in front of a part.
- `filter_lines_joinParts`: lines of joined declarations.
-/

namespace AgentCanvas

open Text (isBlankText joinLines)

/-! ## Blank texts -/

/-- Joined texts are blank only if each of them is. -/
theorem isBlankText_of_isBlankText_intercalate {sep : String} {texts : List String}
    (h : isBlankText (sep.intercalate texts)) : ∀ text ∈ texts, isBlankText text := by
  induction texts with
  | nil => exact List.forall_mem_nil _
  | cons first rest ih =>
    cases rest with
    | nil =>
      rw [String.intercalate_singleton] at h
      exact List.forall_mem_singleton.mpr h
    | cons next rest =>
      rw [String.intercalate_cons_cons, Text.Framed.isBlankText_append,
        Text.Framed.isBlankText_append, Bool.and_eq_true, Bool.and_eq_true] at h
      exact List.forall_mem_cons.mpr ⟨h.1.1, ih h.2⟩

/-- Joined texts are not blank if one of them is not. -/
theorem isBlankText_intercalate_eq_false {sep text : String} {texts : List String}
    (hmem : text ∈ texts) (h : isBlankText text = false) :
    isBlankText (sep.intercalate texts) = false := by
  rw [Bool.eq_false_iff] at h ⊢
  exact fun hblank => h (isBlankText_of_isBlankText_intercalate hblank text hmem)

theorem Agent.isBlankText_declaration (d : Defaults) (a : Agent) (toolNames : List String) :
    isBlankText (a.declaration d toolNames) = false := by
  have hhead : isBlankText (headLine (a.identifier d)) = false := by
    rw [headLine, Text.Framed.isBlankText_append, show isBlankText " = AssistantAgent(" = false
      from rfl, Bool.and_false]
  rw [declaration_eq]
  exact isBlankText_intercalate_eq_false List.mem_cons_self hhead

theorem Tool.isBlankText_declaration (d : Defaults) (t : Tool) :
    isBlankText (t.declaration d) = false := by
  obtain ⟨rest, hline⟩ := t.exists_line_declaration d
  have hdef : isBlankText ("def " ++ t.functionName d ++ "(" ++ rest) = false := by
    rw [Text.Framed.isBlankText_append, Text.Framed.isBlankText_append,
      Text.Framed.isBlankText_append, show isBlankText "def " = false from rfl]
    rfl
  rw [← Text.joinLines_lines (t.declaration d)]
  exact isBlankText_intercalate_eq_false hline hdef

theorem isBlankText_clientDeclaration (d : Defaults) :
    isBlankText (clientDeclaration d) = false := by
  have hline : "    )" ∈ Text.lines (clientDeclaration d) := by
    rw [lines_clientDeclaration, clientLines]
    simp
  rw [← Text.joinLines_lines (clientDeclaration d)]
  exact isBlankText_intercalate_eq_false hline rfl

theorem EntryPoint.isBlankText_declaration (e : EntryPoint) :
    isBlankText e.declaration = false := by
  have hmain (mode : ExecutionMode) : isBlankText (mainLine mode) = false := by
    cases mode <;> rfl
  rw [declaration_eq]
  cases e with
  | guidance => exact isBlankText_intercalate_eq_false List.mem_cons_self rfl
  | single _ _ mode => exact isBlankText_intercalate_eq_false List.mem_cons_self (hmain mode)
  | team _ _ _ => exact isBlankText_intercalate_eq_false List.mem_cons_self (hmain .async)

theorem isBlankText_importsPart (tools agents : Nat) :
    isBlankText (importsPart tools agents) = false :=
  isBlankText_intercalate_eq_false List.mem_cons_self (show isBlankText "import asyncio" = false
    from rfl)

/-! ## Present parts -/

namespace Blueprint

variable {b : Blueprint} {d : Defaults} {part : Part}

/-- The parts that a program holds, in order. -/
def presentParts (b : Blueprint) (d : Defaults) : List Part :=
  Part.all.filter fun part => !isBlankText (b.part d part)

/-- The lines of a part. -/
def linesOf (b : Blueprint) (d : Defaults) (part : Part) : List String :=
  Text.lines (b.part d part)

/-- A program is made of the parts that it holds. -/
theorem code_eq_joinParts (b : Blueprint) (d : Defaults) :
    b.code d = joinParts ((b.presentParts d).map (b.part d)) := by
  rw [code, presentParts, List.filter_map]
  rfl

theorem mem_presentParts_iff :
    part ∈ b.presentParts d ↔ isBlankText (b.part d part) = false := by
  have hall : part ∈ Part.all := by cases part <;> decide
  simp [presentParts, hall]

theorem mem_presentParts_imports (b : Blueprint) (d : Defaults) :
    Part.imports ∈ b.presentParts d :=
  mem_presentParts_iff.mpr (isBlankText_importsPart _ _)

theorem mem_presentParts_entryPoint (b : Blueprint) (d : Defaults) :
    Part.entryPoint ∈ b.presentParts d :=
  mem_presentParts_iff.mpr (EntryPoint.isBlankText_declaration _)

/-- Model clients are there if agents are. -/
theorem mem_presentParts_client_iff : Part.client ∈ b.presentParts d ↔ b.agents ≠ [] := by
  rw [mem_presentParts_iff, part, clientPart]
  by_cases h : b.agents = []
  · simp [h, isBlankText]
  · simp [h, isBlankText_clientDeclaration]

/-- Declarations are there if something is declared. -/
private theorem isBlankText_joinParts_map_iff {α : Type} {f : α → String}
    (h : ∀ a, isBlankText (f a) = false) (as : List α) :
    isBlankText (joinParts (as.map f)) = false ↔ as ≠ [] := by
  cases as with
  | nil => simp [joinParts, isBlankText]
  | cons a rest =>
    have hblank : isBlankText (joinParts ((a :: rest).map f)) = false :=
      isBlankText_intercalate_eq_false (List.mem_map_of_mem List.mem_cons_self) (h a)
    exact iff_of_true hblank (List.cons_ne_nil _ _)

theorem mem_presentParts_agents_iff : Part.agents ∈ b.presentParts d ↔ b.agents ≠ [] := by
  rw [mem_presentParts_iff, part, agentsPart]
  exact isBlankText_joinParts_map_iff (fun _ => Agent.isBlankText_declaration d _ _) b.agents

theorem mem_presentParts_tools_iff : Part.tools ∈ b.presentParts d ↔ b.tools ≠ [] := by
  rw [mem_presentParts_iff, part, toolsPart, List.map_map]
  exact isBlankText_joinParts_map_iff (fun _ => Tool.isBlankText_declaration d _) b.tools

/-- Schemas are there if some agent declares one. -/
theorem mem_presentParts_schemas_iff : Part.schemas ∈ b.presentParts d ↔
    ∃ agent ∈ b.agents, ∃ schema, agent.value.declaredSchema = some schema := by
  have hmem : (∃ agent ∈ b.agents, ∃ schema, agent.value.declaredSchema = some schema) ↔
      (b.agents.map (·.value)).filterMap Agent.declaredSchema ≠ [] := by
    simp [Option.ne_none_iff_exists']
  rw [mem_presentParts_iff, part, schemasPart, hmem]
  split
  next hnone => simp [hnone, isBlankText]
  next hsome =>
    have himport : isBlankText "from pydantic import BaseModel\n\n" = false := rfl
    rw [Text.Framed.isBlankText_append, himport, Bool.false_and]
    exact iff_of_true rfl hsome

/-- No part but the empty text is left out. -/
theorem mem_presentParts_of_part_ne_empty (h : b.part d part ≠ "") : part ∈ b.presentParts d := by
  cases part with
  | imports => exact b.mem_presentParts_imports d
  | schemas =>
    rw [mem_presentParts_schemas_iff]
    by_contra hnone
    push Not at hnone
    have hschemas : (b.agents.map (·.value)).filterMap Agent.declaredSchema = [] := by
      simpa [Option.eq_none_iff_forall_ne_some] using hnone
    exact h (by rw [Blueprint.part, schemasPart, hschemas])
  | tools =>
    rw [mem_presentParts_tools_iff]
    intro hnil
    exact h (by rw [Blueprint.part, hnil]; rfl)
  | client =>
    rw [mem_presentParts_client_iff]
    intro hnil
    exact h (by rw [Blueprint.part, hnil]; rfl)
  | agents =>
    rw [mem_presentParts_agents_iff]
    intro hnil
    exact h (by rw [Blueprint.part, agentsPart, hnil]; rfl)
  | runners => exact absurd rfl h
  | entryPoint => exact b.mem_presentParts_entryPoint d

/-! ## Order -/

/-- Between the imports and the entry point stand those of the other parts that are there. -/
theorem presentParts_eq (b : Blueprint) (d : Defaults) : b.presentParts d =
    .imports :: ([.schemas, .tools, .client, .agents].filter (· ∈ b.presentParts d) ++
      [.entryPoint]) := by
  have hpart (part : Part) : decide (part ∈ b.presentParts d) = !isBlankText (b.part d part) := by
    rw [Bool.eq_iff_iff, decide_eq_true_iff, mem_presentParts_iff, Bool.not_eq_true']
  have himports : isBlankText (b.part d .imports) = false :=
    mem_presentParts_iff.mp (b.mem_presentParts_imports d)
  have hentry : isBlankText (b.part d .entryPoint) = false :=
    mem_presentParts_iff.mp (b.mem_presentParts_entryPoint d)
  -- nothing is ever written for runners
  have htail : [Part.runners, .entryPoint].filter (fun part => !isBlankText (b.part d part)) =
      [.entryPoint] := by
    rw [List.filter_cons_of_neg (by simp [Blueprint.part, isBlankText]),
      List.filter_cons_of_pos (by simp [hentry]), List.filter_nil]
  have hall : Part.all = .imports :: ([.schemas, .tools, .client, .agents] ++
      [.runners, .entryPoint]) := rfl
  simp only [hpart]
  rw [presentParts, hall, List.filter_cons_of_pos (by simp [himports]), List.filter_append, htail]

/-- Parts stand in their fixed order. -/
theorem pairwise_presentParts (b : Blueprint) (d : Defaults) :
    (b.presentParts d).Pairwise fun p q => Part.all.idxOf p < Part.all.idxOf q :=
  List.Pairwise.filter _ (show Part.all.Pairwise fun p q => Part.all.idxOf p < Part.all.idxOf q
    by decide)

/-- A part that is present and comes earlier stands in front. -/
theorem mem_front_of_idxOf_lt {front back : List Part} {other : Part}
    (h : b.presentParts d = front ++ part :: back) (hother : other ∈ b.presentParts d)
    (hlt : Part.all.idxOf other < Part.all.idxOf part) : other ∈ front := by
  have hpairwise := b.pairwise_presentParts d
  rw [h, List.pairwise_append, List.pairwise_cons] at hpairwise
  rw [h, List.mem_append, List.mem_cons] at hother
  -- neither the part itself nor what stands behind it comes earlier in the fixed order
  rcases hother with hother | rfl | hback
  · exact hother
  · exact absurd hlt (lt_irrefl _)
  · exact absurd hlt (not_lt_of_gt (hpairwise.2.1.1 other hback))

end Blueprint

/-! ## Lines of joined declarations -/

/-- What separates two declarations is an empty line of its own. -/
theorem lines_joinParts_cons_cons (first next : String) (rest : List String) :
    Text.lines (joinParts (first :: next :: rest)) =
      Text.lines first ++ "" :: Text.lines (joinParts (next :: rest)) := by
  have hgap (t : String) : first ++ "\n\n" ++ t = first ++ "\n" ++ "" ++ "\n" ++ t := by
    simp [String.append_assoc]
  rw [joinParts, String.intercalate_cons_cons, hgap, Text.lines_append_newline,
    Text.lines_append_newline, List.append_assoc]
  rfl

/-- The lines of joined declarations are those of each, with an empty line between them. -/
theorem lines_joinParts {parts : List String} (h : parts ≠ []) :
    Text.lines (joinParts parts) = [""].intercalate (parts.map Text.lines) := by
  induction parts with
  | nil => exact absurd rfl h
  | cons first rest ih =>
    cases rest with
    | nil => simp [joinParts]
    | cons next rest =>
      rw [lines_joinParts_cons_cons, ih (List.cons_ne_nil _ _)]
      rfl

/-- Of joined declarations, the lines between them are blank. -/
theorem filter_lines_joinParts {p : String → Bool} (hp : p "" = false) (parts : List String) :
    (Text.lines (joinParts parts)).filter p =
      parts.flatMap fun part => (Text.lines part).filter p := by
  induction parts with
  | nil =>
    change [""].filter p = []
    rw [List.filter_cons_of_neg (by simp [hp]), List.filter_nil]
  | cons first rest ih =>
    cases rest with
    | nil => simp [joinParts]
    | cons next rest =>
      rw [lines_joinParts_cons_cons, List.filter_append, List.filter_cons_of_neg (by simp [hp]),
        List.flatMap_cons, ih]

/-- A line of joined declarations is blank or belongs to one of them. -/
theorem mem_lines_joinParts_iff {line : String} {parts : List String} (hline : line ≠ "") :
    line ∈ Text.lines (joinParts parts) ↔ ∃ part ∈ parts, line ∈ Text.lines part := by
  have hfilter := filter_lines_joinParts (p := (· ≠ "")) (by simp) parts
  have hmem := congrArg (line ∈ ·) hfilter
  simpa [hline] using hmem

end AgentCanvas
