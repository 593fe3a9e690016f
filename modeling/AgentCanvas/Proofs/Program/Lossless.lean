import AgentCanvas.Proofs.Program.Tools
import AgentCanvas.Proofs.Text.Binding
import AgentCanvas.Proofs.Text.Literal

/-!
# Nothing is lost in the declarations of agents

Declarations of agents are joined with empty lines, and the arguments of an agent that have nothing
to say are left out. The agents can nevertheless be told from the joined text, each with its tools:
no declaration holds an empty line of its own, a line that hands over one argument is not taken for
another, and no text and no list of names goes on beyond its end.

## Key definitions

- `Agent.DeclaredAlike`: what the declarations of two agents agree on.

## Key results

- `joinParts_inj`: joined texts without empty lines are told apart.
- `Agent.lines_eq_iff`: two agents have the same lines exactly if they are declared alike.
- `Agent.joinParts_declaration_eq_iff`: so are lists of agents with the same declarations.
- `Blueprint.agentsPart_eq_iff`: and so are the agents of two blueprints.
-/

namespace AgentCanvas

open Text (quote IsNameText isNameChar)

/-! ## Joined texts -/

/-- Joined texts that hold no empty line of their own are told apart. -/
theorem joinParts_inj {parts others : List String} (hparts : ∀ part ∈ parts, "" ∉ Text.lines part)
    (hothers : ∀ part ∈ others, "" ∉ Text.lines part) (h : joinParts parts = joinParts others) :
    parts = others := by
  -- the lines of the joined text fall apart at the empty ones
  have hsplit {texts : List String} (hne : texts ≠ []) (hlines : ∀ t ∈ texts, "" ∉ Text.lines t) :
      (Text.lines (joinParts texts)).splitOn "" = texts.map Text.lines := by
    rw [lines_joinParts hne]
    exact List.splitOn_intercalate "" (by simpa using hlines) (by simpa using hne)
  have hempty : (Text.lines (joinParts [])).splitOn "" = [[], []] := by decide
  have hne {t : String} : Text.lines t ≠ [] := by
    rw [ne_eq, ← List.length_eq_zero_iff, Text.length_lines]
    exact Nat.succ_ne_zero _
  have hlines : parts.map Text.lines = others.map Text.lines := by
    cases parts with
    | nil =>
      cases others with
      | nil => rfl
      | cons first rest =>
        rw [h, hsplit (List.cons_ne_nil _ _) hothers, List.map_cons] at hempty
        exact absurd (List.cons.inj hempty).1 hne
    | cons first rest =>
      have hleft := hsplit (List.cons_ne_nil _ _) hparts
      cases others with
      | nil =>
        rw [h, hempty, List.map_cons] at hleft
        exact absurd (List.cons.inj hleft).1.symm hne
      | cons _ _ => rw [← hleft, h, hsplit (List.cons_ne_nil _ _) hothers]
  refine List.map_injective_iff.mpr (fun s t hst => ?_) hlines
  rw [← Text.joinLines_lines s, hst, Text.joinLines_lines]

/-! ## Lists of names -/

/-- Two lists of names in brackets are the same if their texts are, unless one of them is empty. -/
theorem intercalate_append_inj {names others : List String} {rest after : List Char}
    (hnames : ∀ name ∈ names, IsNameText name) (hothers : ∀ name ∈ others, IsNameText name)
    (hne : names ≠ []) (hne' : others ≠ [])
    (h : (", ".intercalate names).toList ++ ']' :: rest =
      (", ".intercalate others).toList ++ ']' :: after) : names = others := by
  -- induction on the first list, behind whose first name a comma or the bracket follows
  induction names generalizing others with
  | nil => exact absurd rfl hne
  | cons name names ih =>
    obtain ⟨other, others, rfl⟩ := List.exists_cons_of_ne_nil hne'
    obtain ⟨hname, hnames'⟩ := List.forall_mem_cons.mp hnames
    obtain ⟨hother, hothers'⟩ := List.forall_mem_cons.mp hothers
    have hcomma (first next : String) (more : List String) (behind : List Char) :
        (", ".intercalate (first :: next :: more)).toList ++ ']' :: behind = first.toList ++
          ',' :: ' ' :: ((", ".intercalate (next :: more)).toList ++ ']' :: behind) := by
      rw [String.intercalate_cons_cons]
      simp
    cases names with
    | nil =>
      cases others with
      | nil =>
        rw [String.intercalate_singleton, String.intercalate_singleton] at h
        rw [(Text.isNameText_append_inj hname hother (by decide) (by decide) h).1]
      | cons next others =>
        rw [String.intercalate_singleton, hcomma] at h
        cases (Text.isNameText_append_inj hname hother (by decide) (by decide) h).2
    | cons next names =>
      cases others with
      | nil =>
        rw [String.intercalate_singleton, hcomma] at h
        cases (Text.isNameText_append_inj hname hother (by decide) (by decide) h).2
      | cons next' others =>
        rw [hcomma, hcomma] at h
        obtain ⟨rfl, htail⟩ := Text.isNameText_append_inj hname hother (by decide) (by decide) h
        have htail := (List.cons.inj (List.cons.inj htail).2).2
        rw [ih hnames' hothers' (List.cons_ne_nil _ _) (List.cons_ne_nil _ _) htail]

/-! ## Arguments -/

/-- A line hands over the argument of a name. -/
def Hands (name line : String) : Prop :=
  ("    " ++ name ++ "=").toList <+: line.toList

/-- The line that hands over a text does so under the name of the argument. -/
theorem hands_textLine (name text : String) :
    Hands name ("    " ++ (name ++ "=" ++ quote text ++ ",")) := by
  refine ⟨(quote text ++ ",").toList, ?_⟩
  rw [← String.toList_append]
  simp only [String.append_assoc]

/-- The texts that are handed over under one name are told apart, whatever other lines follow. -/
theorem textLines_append_inj {name text other : String} {rest after : List String}
    (hrest : ∀ line ∈ rest, ¬Hands name line) (hafter : ∀ line ∈ after, ¬Hands name line)
    (h : textLines name text ++ rest = textLines name other ++ after) :
    text = other ∧ rest = after := by
  unfold textLines at h
  split at h
  next htext =>
    split at h
    next hother => exact ⟨htext.trans hother.symm, h⟩
    next =>
      -- only one of the two texts is handed over
      rw [List.nil_append, List.singleton_append] at h
      exact absurd (hands_textLine name other) (hrest _ (h ▸ List.mem_cons_self))
  next =>
    split at h
    next =>
      rw [List.nil_append, List.singleton_append] at h
      exact absurd (hands_textLine name text) (hafter _ (h ▸ List.mem_cons_self))
    next =>
      obtain ⟨hline, htail⟩ := List.cons.inj h
      simp only [String.append_assoc, String.append_right_inj] at hline
      exact ⟨(Text.quote_append_inj hline).1, htail⟩

/-- Neither the line that hands over tools nor the closing bracket hands over a text. -/
theorem not_hands_of_mem_toolsLines {name : String}
    (hname : name = "description" ∨ name = "system_message") (toolNames : List String) :
    ∀ line ∈ toolsLines toolNames ++ [")"], ¬Hands name line := by
  rw [List.forall_mem_append, List.forall_mem_singleton]
  rcases hname with rfl | rfl
  · exact ⟨forall_mem_toolsLines (by simp [Hands]), by simp [Hands]⟩
  · exact ⟨forall_mem_toolsLines (by simp [Hands]), by simp [Hands]⟩

/-- The tools of an agent are told from the line that hands them over. -/
theorem toolsLines_inj {names others : List String} (hnames : ∀ name ∈ names, IsNameText name)
    (hothers : ∀ name ∈ others, IsNameText name) (h : toolsLines names = toolsLines others) :
    names = others := by
  unfold toolsLines at h
  split at h
  next hnil =>
    split at h
    next hnil' => rw [hnil, hnil']
    next => cases h
  next hne =>
    split at h
    next => cases h
    next hne' =>
      have hline := (List.cons.inj h).1
      simp only [String.append_assoc, String.append_right_inj] at hline
      have hchars := congrArg String.toList hline
      rw [String.toList_append, String.toList_append] at hchars
      exact intercalate_append_inj hnames hothers hne hne' hchars

namespace Agent

/-! ## Single agents -/

/-- What the declarations of two agents, each with the names of its tools, agree on. -/
structure DeclaredAlike (d : Defaults) (a b : Agent × List String) : Prop where
  displayName : a.1.displayName d = b.1.displayName d
  description : a.1.description = b.1.description
  systemMessage : a.1.systemMessage = b.1.systemMessage
  toolNames : a.2 = b.2

/-- No line of a declaration is empty. -/
theorem empty_not_mem_lines (d : Defaults) (a : Agent) (toolNames : List String) :
    "" ∉ a.lines d toolNames := by
  have hne {s : String} (t : String) (ht : t ≠ "") : s ++ t ≠ "" := by
    simp [ht]
  suffices h : ∀ line ∈ a.lines d toolNames, line ≠ "" from fun hmem => h "" hmem rfl
  simp only [lines, headLine, List.forall_mem_append, List.forall_mem_cons]
  refine ⟨⟨⟨⟨⟨hne _ (by decide), ?_, by decide, List.forall_mem_nil _⟩,
    forall_mem_textLines ?_⟩, forall_mem_textLines ?_⟩, forall_mem_toolsLines ?_⟩, by decide,
    List.forall_mem_nil _⟩ <;> simp

/-- Two agents have the same lines exactly if they are declared alike. -/
theorem lines_eq_iff {d : Defaults} {a b : Agent} {names others : List String}
    (hnames : ∀ name ∈ names, IsNameText name) (hothers : ∀ name ∈ others, IsNameText name) :
    a.lines d names = b.lines d others ↔ DeclaredAlike d (a, names) (b, others) := by
  constructor
  · intro h
    simp only [lines, List.append_assoc, List.cons_append, List.nil_append] at h
    obtain ⟨-, h⟩ := List.cons.inj h
    obtain ⟨hname, h⟩ := List.cons.inj h
    obtain ⟨-, h⟩ := List.cons.inj h
    simp only [String.append_assoc, String.append_right_inj] at hname
    -- each text is read off in front of lines that hand over nothing under its name
    have hothers' (text : String) (toolNames : List String) : ∀ line ∈
        textLines "system_message" text ++ (toolsLines toolNames ++ [")"]),
          ¬Hands "description" line := by
      rw [List.forall_mem_append]
      exact ⟨forall_mem_textLines (by simp [Hands]), not_hands_of_mem_toolsLines (.inl rfl) _⟩
    obtain ⟨hdescription, h⟩ := textLines_append_inj (hothers' _ _) (hothers' _ _) h
    obtain ⟨hmessage, h⟩ := textLines_append_inj (not_hands_of_mem_toolsLines (.inr rfl) _)
      (not_hands_of_mem_toolsLines (.inr rfl) _) h
    exact ⟨(Text.quote_append_inj hname).1, hdescription, hmessage,
      toolsLines_inj hnames hothers (List.append_left_injective [")"] h)⟩
  · rintro ⟨hname, hdescription, hmessage, rfl⟩
    simp only at hname hdescription hmessage
    have hidentifier : a.identifier d = b.identifier d := by rw [identifier, hname, identifier]
    rw [lines, lines, hidentifier, hname, hdescription, hmessage]

/-- Two declarations are the same text exactly if the agents are declared alike. -/
theorem declaration_eq_iff {d : Defaults} {a b : Agent} {names others : List String}
    (hnames : ∀ name ∈ names, IsNameText name) (hothers : ∀ name ∈ others, IsNameText name) :
    a.declaration d names = b.declaration d others ↔ DeclaredAlike d (a, names) (b, others) := by
  rw [← lines_eq_iff hnames hothers]
  constructor
  · intro h
    rw [← lines_declaration d a hnames, h, lines_declaration d b hothers]
  · intro h
    rw [declaration_eq, h, ← declaration_eq]

/-! ## Lists of agents -/

variable {d : Defaults} {agents others : List (Agent × List String)}

/-- Agents are declared one by one. -/
theorem map_declaration_eq_iff (hagents : ∀ entry ∈ agents, ∀ name ∈ entry.2, IsNameText name)
    (hothers : ∀ entry ∈ others, ∀ name ∈ entry.2, IsNameText name) :
    (agents.map fun entry => entry.1.declaration d entry.2) =
        (others.map fun entry => entry.1.declaration d entry.2) ↔
      List.Forall₂ (DeclaredAlike d) agents others := by
  induction agents generalizing others with
  | nil => cases others <;> simp
  | cons entry agents ih =>
    cases others with
    | nil => simp
    | cons other others =>
      obtain ⟨hentry, hagents⟩ := List.forall_mem_cons.mp hagents
      obtain ⟨hother, hothers⟩ := List.forall_mem_cons.mp hothers
      rw [List.map_cons, List.map_cons, List.cons.injEq, List.forall₂_cons, ih hagents hothers,
        declaration_eq_iff hentry hother]

/-- Joined declarations are told apart as long as tools have names. -/
theorem joinParts_map_declaration_eq_iff
    (hagents : ∀ entry ∈ agents, ∀ name ∈ entry.2, IsNameText name)
    (hothers : ∀ entry ∈ others, ∀ name ∈ entry.2, IsNameText name) :
    joinParts (agents.map fun entry => entry.1.declaration d entry.2) =
        joinParts (others.map fun entry => entry.1.declaration d entry.2) ↔
      List.Forall₂ (DeclaredAlike d) agents others := by
  have hlines {entries : List (Agent × List String)}
      (h : ∀ entry ∈ entries, ∀ name ∈ entry.2, IsNameText name) :
      ∀ part ∈ entries.map fun entry => entry.1.declaration d entry.2, "" ∉ Text.lines part := by
    intro part hpart
    obtain ⟨entry, hentry, rfl⟩ := List.mem_map.mp hpart
    rw [lines_declaration d entry.1 (h entry hentry)]
    exact empty_not_mem_lines d entry.1 entry.2
  rw [← map_declaration_eq_iff hagents hothers]
  exact ⟨joinParts_inj (hlines hagents) (hlines hothers), congrArg joinParts⟩

/-- Two lists of agents, each with tools whose names are identifiers, have the same joined
declarations exactly if they are as long and agree item by item on the displayed name, the
description, the system message and the names of the tools. -/
theorem joinParts_declaration_eq_iff (d : Defaults)
    (hagents : ∀ entry ∈ agents, ∀ name ∈ entry.2, Text.isIdentifier name)
    (hothers : ∀ entry ∈ others, ∀ name ∈ entry.2, Text.isIdentifier name) :
    joinParts (agents.map fun entry => entry.1.declaration d entry.2) =
        joinParts (others.map fun entry => entry.1.declaration d entry.2) ↔
      List.Forall₂ (DeclaredAlike d) agents others := by
  apply joinParts_map_declaration_eq_iff
  · intro entry hentry name hname
    exact isNameText_of_isIdentifier (hagents entry hentry name hname)
  · intro entry hentry name hname
    exact isNameText_of_isIdentifier (hothers entry hentry name hname)

/-- A writer without tools and a reader with one. -/
def writerAndReader : List (Agent × List String) :=
  [(⟨"Writer", "", "", .text, none⟩, []), (⟨"Reader", "", "", .text, none⟩, ["search"])]

/-- A writer whose description looks like the end of a declaration and the beginning of another. -/
def mimic : List (Agent × List String) :=
  [(⟨"Writer", "\",\n)\n\nreader = AssistantAgent(\n    name=\"Reader", "", .text, none⟩,
    ["search"])]

theorem joinParts_declaration_eq_iff_mimic :
    (∀ entry ∈ mimic, ∀ name ∈ entry.2, Text.isIdentifier name) ∧
    (∀ entry ∈ writerAndReader, ∀ name ∈ entry.2, Text.isIdentifier name) ∧
    joinParts (mimic.map fun entry => entry.1.declaration .builtIn entry.2) ≠
      joinParts (writerAndReader.map fun entry => entry.1.declaration .builtIn entry.2) := by
  have hmimic : ∀ entry ∈ mimic, ∀ name ∈ entry.2, Text.isIdentifier name := by decide
  have hothers : ∀ entry ∈ writerAndReader, ∀ name ∈ entry.2, Text.isIdentifier name := by decide
  refine ⟨hmimic, hothers, fun h => ?_⟩
  -- the lists are not of the same length
  cases (joinParts_declaration_eq_iff .builtIn hmimic hothers).mp h with
  | cons _ hrest => cases hrest

end Agent

namespace Blueprint

/-- The agents of a blueprint, each with the names of its tools. -/
def agentsWithTools (b : Blueprint) (d : Defaults) : List (Agent × List String) :=
  b.agents.map fun agent => (agent.value, b.toolNamesFor d agent.id)

/-- The agents of two blueprints have the same declarations exactly if they agree one by one on what
is declared. -/
theorem agentsPart_eq_iff (b c : Blueprint) (d : Defaults) :
    b.agentsPart d = c.agentsPart d ↔
      List.Forall₂ (Agent.DeclaredAlike d) (b.agentsWithTools d) (c.agentsWithTools d) := by
  have hpart (b : Blueprint) : b.agentsPart d =
      joinParts ((b.agentsWithTools d).map fun entry => entry.1.declaration d entry.2) := by
    rw [agentsWithTools, List.map_map]
    rfl
  have hnames (b : Blueprint) :
      ∀ entry ∈ b.agentsWithTools d, ∀ name ∈ entry.2, IsNameText name := by
    intro entry hentry
    obtain ⟨agent, -, rfl⟩ := List.mem_map.mp hentry
    exact isNameText_toolNamesFor
  rw [hpart, hpart, Agent.joinParts_map_declaration_eq_iff (hnames b) (hnames c)]

end Blueprint

end AgentCanvas
