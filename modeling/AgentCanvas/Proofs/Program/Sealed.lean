import AgentCanvas.Proofs.Program.FreeText
import AgentCanvas.Proofs.Program.Sections
import AgentCanvas.Proofs.Text.Sealed

/-!
# Literals in programs

Unless schemas and the functions of tools are copied into it, every line of a program ends outside
of literals, whatever its free texts are, and a program has no carriage returns. Control characters
that are not escaped, NUL among them, stand in a program exactly if they stand in one of its free
texts.

## Key results

- `sealed_clientLines`, `Agent.sealed_lines`, `EntryPoint.sealed_lines`: the lines of declarations.
- `Blueprint.sealed_lines_code`: the lines of programs without schemas and tools.
- `Blueprint.mem_code_iff`: the control characters of programs.
- `Workflow.generate_sealed`: what is certain of the characters and the literals of programs.
-/

namespace AgentCanvas

open Text (Closes IsNameText Sealed escape quote sealed_quoting)

/-! ## Imports and model clients -/

theorem sealed_importLines :
    ∀ line ∈ baseImports ++ toolImports ++ teamImports, Sealed [] line := by
  simp only [baseImports, toolImports, teamImports, List.forall_mem_append, List.forall_mem_cons]
  refine ⟨⟨⟨?_, ?_, ?_, List.forall_mem_nil _⟩, ?_, ?_, List.forall_mem_nil _⟩, ?_, ?_, ?_,
    List.forall_mem_nil _⟩ <;> exact .of_ofList (by decide)

theorem sealed_clientLines (d : Defaults) : ∀ line ∈ clientLines d, Sealed [d.model] line := by
  simp only [clientLines, List.forall_mem_cons]
  -- only the third line depends on the defaults
  exact ⟨.of_ofList (by decide), .of_ofList (by decide),
    sealed_quoting (.of_ofList (by decide)) (.of_ofList (by decide)) (.of_ofList (by decide)) _,
    .of_ofList (by decide), .of_ofList (by decide), List.forall_mem_nil _⟩

/-! ## Agents -/

/-- An empty text is left out of the lines and of the free texts alike. -/
theorem sealed_textLines (sort : FreeText) {name : String} (hname : Sealed [] name)
    (text : String) :
    ∀ line ∈ textLines name text, Sealed ((sort.unlessEmpty text).map Prod.snd) line := by
  have hfront : Sealed [] (name ++ "=") := hname.append (.of_ofList (by decide))
  unfold textLines FreeText.unlessEmpty
  split
  · exact List.forall_mem_nil _
  · exact List.forall_mem_singleton.mpr
      (sealed_quoting (.of_ofList (by decide)) hfront (.of_ofList (by decide)) text)

theorem Agent.sealed_lines (d : Defaults) (a : Agent) {toolNames : List String}
    (h : ∀ name ∈ toolNames, IsNameText name) :
    ∀ line ∈ a.lines d toolNames, Sealed ((a.freeTexts d).map Prod.snd) line := by
  have hhead : Sealed [] (headLine (a.identifier d)) :=
    (a.isNameText_identifier d).sealed.append (.of_ofList (by decide))
  have hname : Sealed [a.displayName d] ("    " ++ ("name=" ++ quote (a.displayName d) ++ ",")) :=
    sealed_quoting (.of_ofList (by decide)) (.of_ofList (by decide)) (.of_ofList (by decide)) _
  have hclient : Sealed [] "    model_client=get_model_client()," := .of_ofList (by decide)
  have hparameters : Sealed [] "description" ∧ Sealed [] "system_message" :=
    ⟨.of_ofList (by decide), .of_ofList (by decide)⟩
  have hdescription := sealed_textLines .description hparameters.1 a.description
  have hsystem := sealed_textLines .systemMessage hparameters.2 a.systemMessage
  have htools : ∀ line ∈ toolsLines toolNames, Sealed [] line :=
    forall_mem_toolsLines (.append (.of_ofList (by decide))
      (.append (.append (.of_ofList (by decide)) (Text.sealed_intercalate h))
        (.of_ofList (by decide))))
  have hend : Sealed [] ")" := .of_ofList (by decide)
  simp only [lines, List.forall_mem_append, List.forall_mem_cons]
  exact ⟨⟨⟨⟨⟨hhead.mono (by simp), hname.mono (by simp [freeTexts]), hclient.mono (by simp),
    List.forall_mem_nil _⟩,
    fun line hline => (hdescription line hline).mono (by simp [freeTexts])⟩,
    fun line hline => (hsystem line hline).mono (by simp [freeTexts])⟩,
    fun line hline => (htools line hline).mono (by simp)⟩,
    hend.mono (by simp), List.forall_mem_nil _⟩

/-! ## Entry points -/

namespace EntryPoint

theorem sealed_closingLines (mode : ExecutionMode) :
    ∀ line ∈ closingLines mode, Sealed [] line := by
  cases mode <;> simp only [closingLines, List.forall_mem_cons] <;>
    refine ⟨?_, ?_, ?_, ?_, ?_, List.forall_mem_nil _⟩ <;> exact .of_ofList (by decide)

theorem sealed_runLine {agent : String} (h : IsNameText agent) (task : String)
    (mode : ExecutionMode) : Sealed [task] (runLine agent task mode) := by
  have hcall {front method : String} (hfront : Sealed [] front) (hmethod : Sealed [] method) :
      Sealed [] (front ++ agent ++ method) := (hfront.append h.sealed).append hmethod
  cases mode with
  | sync =>
    exact sealed_quoting (.of_ofList (by decide))
      (hcall (.of_ofList (by decide)) (.of_ofList (by decide))) (.of_ofList (by decide)) task
  | async =>
    exact sealed_quoting (.of_ofList (by decide))
      (hcall (.of_ofList (by decide)) (.of_ofList (by decide))) (.of_ofList (by decide)) task

theorem sealed_teamLine {agents : List String} (h : ∀ name ∈ agents, IsNameText name) :
    Sealed [] (teamLine agents) :=
  .append (.of_ofList (by decide)) (.append
    (.append (.of_ofList (by decide)) (Text.sealed_intercalate h)) (.of_ofList (by decide)))

theorem sealed_lines {e : EntryPoint} (h : ∀ name ∈ e.agents, IsNameText name) :
    ∀ line ∈ e.lines, Sealed (e.freeTexts.map Prod.snd) line := by
  have hmain (mode : ExecutionMode) : Sealed [] (mainLine mode) := by
    cases mode <;> exact .of_ofList (by decide)
  cases e with
  | guidance =>
    simp only [lines, List.forall_mem_cons]
    exact ⟨.of_ofList (by decide), .of_ofList (by decide), List.forall_mem_nil _⟩
  | single agent task mode =>
    have hrun := sealed_runLine (h agent List.mem_cons_self) task mode
    simp only [lines, List.forall_mem_append, List.forall_mem_cons]
    exact ⟨⟨(hmain mode).mono (by simp), .of_ofList (by decide), .of_ofList (by decide),
      hrun.mono (by simp [freeTexts]), .of_ofList (by decide), List.forall_mem_nil _⟩,
      fun line hline => (sealed_closingLines mode line hline).mono (by simp)⟩
  | team agents task token =>
    have htoken : Sealed [token] (tokenLine token) :=
      sealed_quoting (.of_ofList (by decide)) (.of_ofList (by decide)) (.of_ofList (by decide)) _
    have hstream : Sealed [task] (streamLine task) :=
      sealed_quoting (.of_ofList (by decide)) (.of_ofList (by decide)) (.of_ofList (by decide)) _
    simp only [lines, List.forall_mem_append, List.forall_mem_cons]
    refine ⟨⟨(hmain .async).mono (by simp), ?_, ?_, ?_, htoken.mono (by simp [freeTexts]), ?_, ?_,
      ?_, (sealed_teamLine h).mono (by simp), ?_, ?_, ?_, ?_, hstream.mono (by simp [freeTexts]),
      List.forall_mem_nil _⟩,
      fun line hline => (sealed_closingLines .async line hline).mono (by simp)⟩ <;>
        exact .of_ofList (by decide)

end EntryPoint

/-! ## Programs -/

namespace Blueprint

variable {b : Blueprint} {d : Defaults} {part : Part}

/-- Of the parts that are there, only schemas and the functions of tools may leave a literal
open. -/
theorem sealed_linesOf (h : part ∈ b.presentParts d) (hschemas : part ≠ .schemas)
    (htools : part ≠ .tools) :
    ∀ line ∈ b.linesOf d part, Sealed ((b.freeTexts d).map Prod.snd) line := by
  intro line hline
  cases part with
  | imports =>
    have himport := b.linesOf_imports_subset d hline
    exact (sealed_importLines line himport).mono (by simp)
  | schemas => exact absurd rfl hschemas
  | tools => exact absurd rfl htools
  | client =>
    have hagents := mem_presentParts_client_iff.mp h
    rw [linesOf_client hagents] at hline
    exact (sealed_clientLines d line hline).mono (by simp [freeTexts, Defaults.freeTexts, hagents])
  | agents =>
    by_cases hblank : line = ""
    -- between declarations
    · rw [hblank]
      exact .of_ofList (by decide)
    · obtain ⟨agent, hagent, hline⟩ := exists_agent_of_mem_linesOf hline hblank
      refine (agent.value.sealed_lines d isNameText_toolNamesFor line hline).mono ?_
      refine List.map_subset _ fun text htext => ?_
      simp only [freeTexts, List.mem_append, List.mem_flatMap]
      exact .inl (.inr ⟨agent, hagent, htext⟩)
  | runners => exact absurd (mem_presentParts_iff.mp h) (by simp [Blueprint.part, Text.isBlankText])
  | entryPoint =>
    rw [linesOf_entryPoint] at hline
    refine (EntryPoint.sealed_lines (b.isNameText_agents_entry d) line hline).mono ?_
    exact List.map_subset _ (List.subset_append_right _ _)

/-- Without schemas and tools, the lines of a program are sealed. -/
theorem sealed_lines_code (hschemas : .schemas ∉ b.presentParts d)
    (htools : .tools ∉ b.presentParts d) :
    ∀ line ∈ Text.lines (b.code d), Sealed ((b.freeTexts d).map Prod.snd) line := by
  intro line hline
  by_cases hblank : line = ""
  -- between parts
  · rw [hblank]
    exact .of_ofList (by decide)
  · rw [code_eq_joinParts, mem_lines_joinParts_iff hblank] at hline
    obtain ⟨text, htext, hline⟩ := hline
    obtain ⟨part, hpart, rfl⟩ := List.mem_map.mp htext
    exact sealed_linesOf hpart (fun h => hschemas (h ▸ hpart)) (fun h => htools (h ▸ hpart)) line
      hline

/-- A blueprint has the frame of itself. -/
theorem SameFrame.refl (d : Defaults) (b : Blueprint) : b.SameFrame d d b where
  agents := List.forall₂_same.mpr fun _ _ => ⟨rfl, rfl, rfl, rfl, Iff.rfl, Iff.rfl⟩
  runners := List.forall₂_same.mpr fun _ _ => rfl
  tools := rfl
  connections := rfl

/-- What a free text says without escapes stands in the program. -/
theorem mem_code_of_mem {text : FreeText × String} (htext : text ∈ b.freeTexts d) {c : Char}
    (hc : c ∈ text.2.toList) (hself : escape c = [c]) : c ∈ (b.code d).toList :=
  ((SameFrame.refl d b).code_framed rfl rfl).mem_of_mem htext hc hself

/-- A control character that is no newline stands in a program without schemas and tools exactly if
a free text has it and it is not escaped. -/
theorem mem_code_iff (hschemas : .schemas ∉ b.presentParts d) (htools : .tools ∉ b.presentParts d)
    {c : Char} (hcontrol : c < ' ') (hc : c ≠ '\n') :
    c ∈ (b.code d).toList ↔ escape c = [c] ∧ ∃ text ∈ b.freeTexts d, c ∈ text.2.toList := by
  constructor
  · intro h
    -- it does not end a line, so it stands in one
    obtain ⟨line, hline, hmem⟩ := Text.exists_mem_lines_of_mem h hc
    rcases (sealed_lines_code hschemas htools line hline).printed c hmem with
      hprinted | ⟨hself, t, ht, hmem⟩
    · exact absurd hprinted (Char.not_le.mpr hcontrol)
    · obtain ⟨text, htext, rfl⟩ := List.mem_map.mp ht
      exact ⟨hself, text, htext, hmem⟩
  · rintro ⟨hself, text, htext, hmem⟩
    exact mem_code_of_mem htext hmem hself

end Blueprint

namespace Workflow

/-- In the program of a loaded workflow without tools, whose agents declare no schema, no carriage
return stands and every line, whatever ends it, ends outside of literals. NUL is not escaped: it
stands in the program exactly if one of the free texts has it. -/
theorem generate_sealed (d : Defaults) {document : Json} {draws : Draws} {w : Workflow}
    (hload : ofDocument document draws = .ok w) (htools : ¬∃ node ∈ w.nodes, node.kind = .tool)
    (hschema : ¬w.DeclaresSchema) :
    ∃ b g, w.blueprint = .ok b ∧ w.generate d = .ok g ∧
      '\r' ∉ g.code.toList ∧ (∀ line ∈ Text.sourceLines g.code, Closes line) ∧
      ('\x00' ∈ g.code.toList ↔ ∃ text ∈ b.freeTexts d, '\x00' ∈ text.2.toList) := by
  obtain ⟨g, hg⟩ := exists_generate_eq_ok_iff (d := d).mpr (sound_of_ofDocument hload).readable
  obtain ⟨_, b, -, hb, rfl⟩ := generate_eq_ok_iff.mp hg
  have hschemasPart : .schemas ∉ b.presentParts d := by
    rwa [Blueprint.mem_presentParts_schemas_iff, exists_declaredSchema_iff hb]
  have htoolsPart : .tools ∉ b.presentParts d := by
    rwa [Blueprint.mem_presentParts_tools_iff, tools_ne_nil_iff hb]
  -- of the two control characters, only the carriage return is escaped
  have hreturn : '\r' ∉ (b.code d).toList := by
    rw [Blueprint.mem_code_iff hschemasPart htoolsPart (by decide) (by decide)]
    exact fun h => absurd h.1 (by decide)
  have hlines : ∀ line ∈ Text.sourceLines (b.code d), Closes line := by
    rw [Text.sourceLines_eq_lines hreturn]
    exact fun line hline => (Blueprint.sealed_lines_code hschemasPart htoolsPart line hline).closes
  refine ⟨b, _, hb, hg, hreturn, hlines, ?_⟩
  rw [Blueprint.mem_code_iff hschemasPart htoolsPart (by decide) (by decide),
    and_iff_right (by decide)]

/-- The document of an agent who is told something. -/
def briefing (message : String) : Json :=
  .obj [("nodes", .arr [.obj [("id", .str "a"), ("type", .str "agent"),
    ("data", .obj [("system_message", .str message)])]])]

/-- The workflow of an agent who is told something. -/
def briefed (message : String) : Workflow :=
  ⟨[⟨"a", .agent, ⟨.zero, .zero⟩, .obj [("system_message", .str message)]⟩], []⟩

theorem ofDocument_briefing (message : String) :
    ofDocument (briefing message) = .ok (briefed message) :=
  rfl

/-- Neither a tool nor a schema is copied into the program of a single agent. -/
theorem nothing_copied_briefed (message : String) :
    (¬∃ node ∈ (briefed message).nodes, node.kind = .tool) ∧ ¬(briefed message).DeclaresSchema := by
  constructor
  · simp [briefed]
  · rintro ⟨node, hnode, a, schema, hattributes, hstructured, -⟩
    rw [List.mem_singleton.mp hnode] at hattributes
    cases hattributes
    cases hstructured

theorem freeTexts_briefed {message : String} (h : message ≠ "") :
    ∃ b, (briefed message).blueprint = .ok b ∧ b.freeTexts .builtIn =
      [(.model, "gpt-4o"), (.displayName, "New Agent"), (.systemMessage, message)] := by
  refine ⟨_, rfl, ?_⟩
  simp [Blueprint.freeTexts, Defaults.freeTexts, Agent.freeTexts, FreeText.unlessEmpty, h]
  exact ⟨rfl, rfl, rfl⟩

/-- A message of a quotation mark, a backslash and a line ending leaves no literal open. -/
theorem generate_sealed_briefing : ∃ g,
    ofDocument (briefing "\"\\\r\n") = .ok (briefed "\"\\\r\n") ∧
      (¬∃ node ∈ (briefed "\"\\\r\n").nodes, node.kind = .tool) ∧
      ¬(briefed "\"\\\r\n").DeclaresSchema ∧
      (briefed "\"\\\r\n").generate .builtIn = .ok g ∧
      '\r' ∉ g.code.toList ∧ '\x00' ∉ g.code.toList ∧
      ∀ line ∈ Text.sourceLines g.code, Closes line := by
  obtain ⟨htools, hschema⟩ := nothing_copied_briefed "\"\\\r\n"
  obtain ⟨b, g, hb, hg, hreturn, hlines, hnul⟩ :=
    generate_sealed .builtIn (ofDocument_briefing "\"\\\r\n") htools hschema
  obtain ⟨c, hc, htexts⟩ := freeTexts_briefed (show "\"\\\r\n" ≠ "" by decide)
  cases hb.symm.trans hc
  refine ⟨g, rfl, htools, hschema, hg, hreturn, ?_, hlines⟩
  rw [hnul, htexts]
  decide

/-- A message of NUL puts NUL into the program. -/
theorem nul_mem_generate_briefing : ∃ g,
    ofDocument (briefing "\x00") = .ok (briefed "\x00") ∧
      (¬∃ node ∈ (briefed "\x00").nodes, node.kind = .tool) ∧ ¬(briefed "\x00").DeclaresSchema ∧
      (briefed "\x00").generate .builtIn = .ok g ∧ '\x00' ∈ g.code.toList := by
  obtain ⟨htools, hschema⟩ := nothing_copied_briefed "\x00"
  obtain ⟨b, hb, htexts⟩ := freeTexts_briefed (show "\x00" ≠ "" by decide)
  have hmessage : (.systemMessage, "\x00") ∈ b.freeTexts .builtIn := by simp [htexts]
  obtain ⟨g, hg⟩ := exists_generate_eq_ok_iff (d := .builtIn).mpr
    (sound_of_ofDocument (ofDocument_briefing "\x00")).readable
  obtain ⟨_, c, -, hc, rfl⟩ := generate_eq_ok_iff.mp hg
  cases hb.symm.trans hc
  exact ⟨_, rfl, htools, hschema, hg, Blueprint.mem_code_of_mem hmessage (by decide) (by decide)⟩

end Workflow

end AgentCanvas
