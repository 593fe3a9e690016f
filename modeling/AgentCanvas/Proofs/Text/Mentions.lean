import AgentCanvas.Proofs.Text.Quoted
import AgentCanvas.Text.Identifier
import Mathlib.Data.List.DropRight

/-!
# Names in lines

Which names a line of a program mentions. What stands in a literal or behind a number sign is not
read. Of a word that is given to a parameter or followed by attributes, only the name between them
counts.

## Key definitions

- `Text.codeFrom`: what a line holds besides literals and comments.
- `Text.mentions`: the names that a line mentions.
- `Text.Binds`, `Text.Resolved`: the names that a line binds, and lines whose names are all bound.

## Key results

- `Text.mentions_append_quote`: a literal mentions nothing, whatever is quoted.
- `Text.mentions_append_of_getLast?`, `Text.mentions_append_of_head?`: where a line can be read
  piece by piece.
- `Text.eq_of_mem_mentions`, `Text.mem_of_mem_mentions_brackets`: what names and lists of names
  mention.
-/

namespace AgentCanvas.Text

/-- Where the reader of a line stands. -/
inductive Reading where
  | code
  | literal
  /-- Behind a backslash in a literal. -/
  | escaped

/-- What a line holds besides literals and comments. A quotation mark stands for each literal. -/
def codeFrom : Reading → List Char → List Char
  | _, [] => []
  | .code, c :: rest =>
    if c = '"' then '"' :: codeFrom .literal rest
    else if c = '#' then [] else c :: codeFrom .code rest
  | .literal, c :: rest =>
    if c = '\\' then codeFrom .escaped rest
    else if c = '"' then codeFrom .code rest else codeFrom .literal rest
  | .escaped, _ :: rest => codeFrom .literal rest

/-- Characters that names are made of, at the least. -/
def isNameChar (c : Char) : Bool :=
  c.isAlphanum || c == '_' || 128 ≤ c.toNat

/-- Characters that keep a name together with the parameter that it is given to and with its
attributes. -/
def isWordChar (c : Char) : Bool :=
  isNameChar c || c == '=' || c == '.'

/-- The name in a word: behind the parameter that it is given to, in front of its attributes. -/
def nameInWord (word : List Char) : List Char :=
  (word.rtakeWhile (· != '=')).takeWhile (· != '.')

/-- The names in code, as far as its words have one. -/
def namesIn (code : List Char) : List (List Char) :=
  ((code.splitOnP (!isWordChar ·)).map nameInWord).filter (· ≠ [])

/-- The names that a line mentions. -/
def mentions (line : String) : List String :=
  (namesIn (codeFrom .code line.toList)).map String.ofList

/-- Code without literals and comments. -/
def Plain (s : String) : Prop :=
  ∀ c ∈ s.toList, c ≠ '"' ∧ c ≠ '#'

instance (s : String) : Decidable (Plain s) :=
  List.decidableBAll (fun c => c ≠ '"' ∧ c ≠ '#') s.toList

/-- A text made of the characters of names. -/
def IsNameText (s : String) : Prop :=
  ∀ c ∈ s.toList, isNameChar c

/-- Attributes of a name: none, or each of them behind a dot. -/
def isAttributeText (s : String) : Bool :=
  s.toList.all (fun c => isNameChar c || c == '.') && s.toList.head?.all (· == '.')

theorem mentions_ofList (cs : List Char) :
    mentions (String.ofList cs) = (namesIn (codeFrom .code cs)).map String.ofList := by
  rw [mentions, String.toList_ofList]

/-! ## Literals -/

/-- Outside of literals and comments, code is kept. -/
theorem codeFrom_append {front : List Char} (h : ∀ c ∈ front, c ≠ '"' ∧ c ≠ '#')
    (rest : List Char) : codeFrom .code (front ++ rest) = front ++ codeFrom .code rest := by
  induction front with
  | nil => rfl
  | cons c tail ih =>
    obtain ⟨hc, htail⟩ := List.forall_mem_cons.mp h
    rw [List.cons_append, codeFrom, if_neg hc.1, if_neg hc.2, ih htail, List.cons_append]

theorem Plain.codeFrom_eq {s : String} (h : Plain s) : codeFrom .code s.toList = s.toList := by
  simpa [codeFrom] using codeFrom_append h []

/-- A written character does not end a literal. -/
theorem codeFrom_literal_escape (c : Char) (rest : List Char) :
    codeFrom .literal (escape c ++ rest) = codeFrom .literal rest := by
  unfold escape
  split_ifs with hslash hquote <;> simp [codeFrom, *]

/-- A literal is left out as a whole. -/
theorem codeFrom_quote (t : String) (rest : List Char) :
    codeFrom .code ((quote t).toList ++ rest) = '"' :: codeFrom .code rest := by
  have hinside (cs : List Char) :
      codeFrom .literal (cs.flatMap escape ++ '"' :: rest) = codeFrom .code rest := by
    -- each character leaves the reader in the literal, so only the last mark ends it
    induction cs with
    | nil => simp [codeFrom]
    | cons c tail ih =>
      rw [List.flatMap_cons, List.append_assoc, codeFrom_literal_escape, ih]
  rw [toList_quote, List.cons_append, List.append_assoc, List.singleton_append, codeFrom,
    if_pos rfl, hinside]

/-! ## Reading piece by piece -/

/-- No name goes beyond a character that belongs to no word. -/
theorem namesIn_append_cons {c : Char} (h : isWordChar c = false) (front rest : List Char) :
    namesIn (front ++ c :: rest) = namesIn front ++ namesIn rest := by
  rw [namesIn, List.splitOnP_append_cons front rest (by simp [h]), List.map_append,
    List.filter_append]
  rfl

theorem namesIn_cons {c : Char} (h : isWordChar c = false) (rest : List Char) :
    namesIn (c :: rest) = namesIn rest :=
  namesIn_append_cons h [] rest

theorem namesIn_append_of_getLast? {front : List Char} {c : Char} (hlast : front.getLast? = some c)
    (h : isWordChar c = false) (rest : List Char) :
    namesIn (front ++ rest) = namesIn front ++ namesIn rest := by
  obtain ⟨start, rfl⟩ := List.getLast?_eq_some_iff.mp hlast
  -- the last character ends the words of the front, with and without what follows
  rw [List.append_assoc, List.singleton_append, namesIn_append_cons h, namesIn_append_cons h]
  simp [namesIn, nameInWord]

variable {s t : String} {c : Char}

/-- A line can be read up to a character that belongs to no word, and on from there. -/
theorem mentions_append_of_getLast? (hs : Plain s) (hlast : s.toList.getLast? = some c)
    (h : isWordChar c = false) : mentions (s ++ t) = mentions s ++ mentions t := by
  rw [mentions, mentions, mentions, String.toList_append, codeFrom_append hs, hs.codeFrom_eq,
    namesIn_append_of_getLast? hlast h, List.map_append]

/-- A margin mentions nothing. -/
theorem mentions_margin {margin : String} (h : margin.toList.all (· == ' ')) (text : String) :
    mentions (margin ++ text) = mentions text := by
  have hspaces : ∀ c ∈ margin.toList, c = ' ' := by simpa using h
  have hplain : Plain margin := by
    intro c hc
    rw [hspaces c hc]
    decide
  have hnone (rest : List Char) : namesIn (margin.toList ++ rest) = namesIn rest := by
    generalize margin.toList = cs at hspaces
    induction cs with
    | nil => rfl
    | cons c tail ih =>
      obtain ⟨rfl, htail⟩ := List.forall_mem_cons.mp hspaces
      rw [List.cons_append, namesIn_cons (by decide), ih htail]
  rw [mentions, String.toList_append, codeFrom_append hplain, hnone, mentions]

/-- A line can be read up to what begins with a character that belongs to no word. -/
theorem mentions_append_of_head? (hs : Plain s) (hhead : t.toList.head? = some c)
    (h : isWordChar c = false) : mentions (s ++ t) = mentions s ++ mentions t := by
  obtain ⟨tail, htail⟩ := List.head?_eq_some_iff.mp hhead
  rw [mentions, mentions, mentions, String.toList_append, codeFrom_append hs, hs.codeFrom_eq, htail,
    ← List.map_append, codeFrom]
  -- what begins a literal or stands for itself belongs to no word, and a comment is not read
  split_ifs with hquote hcomment
  · rw [namesIn_append_cons (by decide), namesIn_cons (by decide)]
  · rw [List.append_nil]
    simp [namesIn, nameInWord]
  · rw [namesIn_append_cons h, namesIn_cons h]

/-- A literal mentions nothing, whatever is quoted. -/
theorem mentions_append_quote (hs : Plain s) (text rest : String) :
    mentions (s ++ quote text ++ rest) = mentions s ++ mentions rest := by
  have hhead : (quote text ++ rest).toList.head? = some '"' := by
    rw [String.toList_append, toList_quote, List.cons_append, List.head?_cons]
  have hquote : mentions (quote text ++ rest) = mentions rest := by
    rw [mentions, String.toList_append, codeFrom_quote, namesIn_cons (by decide), mentions]
  rw [String.append_assoc, mentions_append_of_head? hs hhead (by decide), hquote]

/-! ## Names -/

theorem IsNameText.plain (h : IsNameText s) : Plain s := by
  intro c hc
  have hname := h c hc
  constructor <;> rintro rfl <;> exact absurd hname (by decide)

theorem isWordChar_of_isNameChar {c : Char} (h : isNameChar c) : isWordChar c := by
  simp [isWordChar, h]

theorem ne_of_isNameChar {c d : Char} (h : isNameChar c) (hd : isNameChar d = false) : c ≠ d := by
  rintro rfl
  rw [hd] at h
  cases h

/-- A single word mentions the name in it, if there is one. -/
theorem namesIn_of_forall {word : List Char} (h : ∀ c ∈ word, isWordChar c) :
    namesIn word = [nameInWord word].filter (· ≠ []) := by
  rw [namesIn, List.splitOnP_eq_singleton fun c hc => by simp [h c hc], List.map_singleton]

/-- In a word without a parameter, the name ends at the first dot. -/
theorem nameInWord_append {attributes : String} (hs : IsNameText s)
    (hattributes : isAttributeText attributes) :
    nameInWord (s.toList ++ attributes.toList) = s.toList := by
  obtain ⟨hall, hhead⟩ := Bool.and_eq_true_iff.mp hattributes
  have hassign : (s.toList ++ attributes.toList).rtakeWhile (· != '=') =
      s.toList ++ attributes.toList := by
    rw [List.rtakeWhile_eq_self_iff]
    intro c hc
    rcases List.mem_append.mp hc with hc | hc
    · simpa using ne_of_isNameChar (hs c hc) (by decide)
    · rcases Bool.or_eq_true_iff.mp (List.all_eq_true.mp hall c hc) with hc | hc
      · simpa using ne_of_isNameChar hc (by decide)
      · simp [eq_of_beq hc]
  have hname : ∀ c ∈ s.toList, (c != '.') = true := fun c hc => by
    simpa using ne_of_isNameChar (hs c hc) (by decide)
  have hrest : attributes.toList.takeWhile (· != '.') = [] := by
    cases hchars : attributes.toList with
    | nil => rfl
    | cons c rest =>
      rw [hchars, List.head?_cons, Option.all_some] at hhead
      simp [eq_of_beq hhead]
  rw [nameInWord, hassign, List.takeWhile_append_of_pos hname, hrest, List.append_nil]

theorem isWordChar_of_isAttributeText (h : isAttributeText s) : ∀ c ∈ s.toList, isWordChar c := by
  intro c hc
  have hall := List.all_eq_true.mp (Bool.and_eq_true_iff.mp h).1 c hc
  rw [isWordChar, Bool.or_right_comm, hall, Bool.true_or]

theorem plain_of_isAttributeText (h : isAttributeText s) : Plain s := by
  intro c hc
  have hword := isWordChar_of_isAttributeText h c hc
  constructor <;> rintro rfl <;> exact absurd hword (by decide)

/-- A name with attributes mentions itself only. -/
theorem eq_of_mem_mentions_append {attributes name : String} (hs : IsNameText s)
    (hattributes : isAttributeText attributes) (h : name ∈ mentions (s ++ attributes)) :
    name = s := by
  have hcode : codeFrom .code (s ++ attributes).toList = s.toList ++ attributes.toList := by
    rw [String.toList_append, codeFrom_append hs.plain,
      (plain_of_isAttributeText hattributes).codeFrom_eq]
  have hword : ∀ c ∈ s.toList ++ attributes.toList, isWordChar c := by
    intro c hc
    rcases List.mem_append.mp hc with hc | hc
    · exact isWordChar_of_isNameChar (hs c hc)
    · exact isWordChar_of_isAttributeText hattributes c hc
  rw [mentions, hcode, namesIn_of_forall hword, nameInWord_append hs hattributes] at h
  obtain ⟨found, hfound, rfl⟩ := List.mem_map.mp h
  rw [List.mem_singleton.mp (List.mem_of_mem_filter hfound), String.ofList_toList]

/-- A name mentions itself only. -/
theorem eq_of_mem_mentions {name : String} (hs : IsNameText s) (h : name ∈ mentions s) :
    name = s := by
  rw [← String.append_empty (s := s)] at h
  exact eq_of_mem_mentions_append hs rfl h

theorem Plain.append (hs : Plain s) (ht : Plain t) : Plain (s ++ t) := by
  intro c hc
  rw [String.toList_append] at hc
  rcases List.mem_append.mp hc with hc | hc
  · exact hs c hc
  · exact ht c hc

theorem plain_intercalate {names : List String} (h : ∀ name ∈ names, IsNameText name) :
    Plain (", ".intercalate names) := by
  induction names with
  | nil => decide
  | cons first rest ih =>
    obtain ⟨hfirst, hrest⟩ := List.forall_mem_cons.mp h
    cases rest with
    | nil =>
      rw [String.intercalate_singleton]
      exact hfirst.plain
    | cons next rest =>
      rw [String.intercalate_cons_cons]
      exact (hfirst.plain.append (by decide)).append (ih hrest)

/-- A list of names mentions these only. -/
theorem mem_of_mem_mentions_intercalate {names : List String}
    (hnames : ∀ name ∈ names, IsNameText name) {name : String}
    (h : name ∈ mentions (", ".intercalate names)) : name ∈ names := by
  induction names with
  | nil => simp [mentions, codeFrom, namesIn, nameInWord] at h
  | cons first rest ih =>
    obtain ⟨hfirst, hrest⟩ := List.forall_mem_cons.mp hnames
    cases rest with
    | nil =>
      rw [String.intercalate_singleton] at h
      rw [eq_of_mem_mentions hfirst h]
      exact List.mem_cons_self
    | cons next rest =>
      -- the first name ends at the comma, and behind the gap stand the other ones
      have hgap : mentions ", " = [] := rfl
      have hcomma (t : String) : (", " ++ t).toList.head? = some ',' := by simp
      rw [String.intercalate_cons_cons, String.append_assoc,
        mentions_append_of_head? hfirst.plain (hcomma _) (by decide),
        mentions_append_of_getLast? (by decide) rfl (by decide), hgap, List.nil_append,
        List.mem_append] at h
      rcases h with h | h
      · rw [eq_of_mem_mentions hfirst h]
        exact List.mem_cons_self
      · exact List.mem_cons_of_mem _ (ih hrest h)

/-- A list of names in brackets mentions these only. -/
theorem mem_of_mem_mentions_brackets {names : List String}
    (hnames : ∀ name ∈ names, IsNameText name) {name : String} (hs : Plain s)
    (hlast : s.toList.getLast? = some '[') (hnone : mentions s = [])
    (h : name ∈ mentions (s ++ ", ".intercalate names ++ "],")) : name ∈ names := by
  have hclose : mentions "]," = [] := rfl
  rw [String.append_assoc, mentions_append_of_getLast? hs hlast (by decide), hnone,
    List.nil_append, mentions_append_of_head? (plain_intercalate hnames) rfl (by decide), hclose,
    List.append_nil] at h
  exact mem_of_mem_mentions_intercalate hnames h

/-! ## Scope -/

/-- Names that are known without being bound. -/
def builtInNames : List String :=
  ["print", "__name__"]

/-- A line mentions only the given names, besides reserved words and built-in names. -/
def MentionsOnly (names : List String) (line : String) : Prop :=
  ∀ name ∈ mentions line, isReserved name ∨ name ∈ builtInNames ∨ name ∈ names

instance (names : List String) (line : String) : Decidable (MentionsOnly names line) :=
  List.decidableBAll (fun name => isReserved name ∨ name ∈ builtInNames ∨ name ∈ names) _

/-- A line binds a name: it imports the name, names a function or gives a value to a variable. -/
inductive Binds : String → String → Prop
  | package (name : String) : Binds ("import " ++ name) name
  | member (package name : String) : Binds ("from " ++ package ++ " import " ++ name) name
  | function (front name rest : String) :
      front ∈ ["", "async "] → Binds (front ++ "def " ++ name ++ "(" ++ rest) name
  | variable (margin name value : String) :
      isBlankText margin → Binds (margin ++ name ++ " = " ++ value) name

/-- Every name that a line mentions is reserved, built in or bound by one of the other lines. -/
def Resolved (others : List String) (line : String) : Prop :=
  ∀ name ∈ mentions line, isReserved name ∨ name ∈ builtInNames ∨ ∃ other ∈ others, Binds other name

theorem MentionsOnly.mono {names others : List String} {line : String}
    (h : MentionsOnly names line) (hsub : names ⊆ others) : MentionsOnly others line :=
  fun name hname => (h name hname).imp_right (Or.imp_right (hsub ·))

theorem MentionsOnly.resolved {names others : List String} {line : String}
    (h : MentionsOnly names line) (hnames : ∀ name ∈ names, ∃ other ∈ others, Binds other name) :
    Resolved others line := by
  intro name hname
  rcases h name hname with hreserved | hbuiltIn | hmem
  · exact .inl hreserved
  · exact .inr (.inl hbuiltIn)
  · exact .inr (.inr (hnames name hmem))

end AgentCanvas.Text
