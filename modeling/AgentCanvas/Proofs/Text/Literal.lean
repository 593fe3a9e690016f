import AgentCanvas.Proofs.ForStd.List
import AgentCanvas.Proofs.Text.Quoted

/-!
# Reading literals

A reader of literals, apart from how they are written. It starts at an opening quotation mark, takes
a backslash with the letter behind it for the character that the letter stands for and any other
character for itself, and stops at the first quotation mark that is not escaped. What it reads are
exactly the literals that are written, and it leaves exactly what follows them.

## Key definitions

- `Text.escapes`: the letters that stand for another character behind a backslash.
- `Text.readLiteral?`: the text of the literal at the front of a source, and the rest of the source.

## Key results

- `Text.readBody?_escape_append`: reading one written character.
- `Text.readLiteral?_eq_some_iff`: the reader accepts exactly what is written.
- `Text.readLiteral?_quote`: reading undoes quoting, whatever follows the literal.
-/

namespace AgentCanvas.Text

/-- The letters that are read behind a backslash, each with the character that it stands for. -/
def escapes : List (Char × Char) :=
  [('\\', '\\'), ('"', '"'), ('n', '\n'), ('r', '\r'), ('t', '\t')]

/-- Whether a character stands for itself in a literal. -/
def isPlain (c : Char) : Bool :=
  escapes.all fun pair => pair.2 != c

/-- Reads the characters of a literal up to its closing quotation mark, and what stands behind it.
A literal that is not closed is refused, and so is a backslash in front of another letter and any
line ending or tab that is not escaped. -/
def readBody? : List Char → Option (List Char × List Char)
  | [] => none
  | c :: rest =>
    if c = '"' then some ([], rest)
    else if c = '\\' then
      match rest with
      | [] => none
      | letter :: rest =>
        (escapes.lookup letter).bind fun meant => (readBody? rest).map (Prod.map (meant :: ·) id)
    else if isPlain c then (readBody? rest).map (Prod.map (c :: ·) id)
    else none
termination_by structural source => source

/-- Reads the literal at the front of a source: its text and the rest of the source. -/
def readLiteral? (source : String) : Option (String × String) :=
  match source.toList with
  | [] => none
  | c :: rest =>
    if c = '"' then (readBody? rest).map (Prod.map String.ofList String.ofList) else none

/-! ## Characters -/

/-- A letter behind a backslash is how the character that it stands for is written. -/
theorem escape_of_mem_escapes : ∀ pair ∈ escapes, escape pair.2 = ['\\', pair.1] := by
  decide

/-- Every letter stands for one character. -/
theorem lookup_of_mem_escapes : ∀ pair ∈ escapes, escapes.lookup pair.1 = some pair.2 := by
  decide

theorem escape_of_isPlain {c : Char} (h : isPlain c) : escape c = [c] := by
  simp only [isPlain, escapes, List.all_cons, List.all_nil, Bool.and_true, Bool.and_eq_true,
    bne_iff_ne, ne_eq] at h
  obtain ⟨hslash, hquote, hnewline, hreturn, htab⟩ := h
  unfold escape
  rw [if_neg (Ne.symm hslash), if_neg (Ne.symm hquote), if_neg (Ne.symm hnewline),
    if_neg (Ne.symm hreturn), if_neg (Ne.symm htab)]

/-- A character that does not stand for itself has a letter. -/
theorem exists_mem_escapes_of_not_isPlain {c : Char} (h : ¬isPlain c) :
    ∃ letter, (letter, c) ∈ escapes := by
  have hsome : escapes.any (fun pair => pair.2 == c) := by
    simpa [isPlain, List.not_all_eq_any_not, bne] using h
  obtain ⟨⟨letter, meant⟩, hmem, hmeant⟩ := List.any_eq_true.mp hsome
  obtain rfl : meant = c := eq_of_beq hmeant
  exact ⟨letter, hmem⟩

/-- Neither a quotation mark nor a backslash stands for itself. -/
theorem ne_of_isPlain {c : Char} (h : isPlain c) : c ≠ '"' ∧ c ≠ '\\' := by
  constructor <;> rintro rfl <;> cases h

/-! ## Steps of the reader -/

theorem readBody?_closing (rest : List Char) : readBody? ('"' :: rest) = some ([], rest) := by
  rw [readBody?.eq_def]
  rfl

theorem readBody?_backslash (letter : Char) (rest : List Char) :
    readBody? ('\\' :: letter :: rest) = (escapes.lookup letter).bind fun meant =>
      (readBody? rest).map (Prod.map (meant :: ·) id) := by
  rw [readBody?.eq_def]
  rfl

theorem readBody?_plain {c : Char} (h : isPlain c) (rest : List Char) :
    readBody? (c :: rest) = (readBody? rest).map (Prod.map (c :: ·) id) := by
  obtain ⟨hquote, hslash⟩ := ne_of_isPlain h
  rw [readBody?.eq_def]
  simp only [hquote, hslash, h, if_false, if_true]

/-! ## Literals -/

/-- Reading gets over a written character, whatever follows it. -/
theorem readBody?_escape_append (c : Char) (rest : List Char) :
    readBody? (escape c ++ rest) = (readBody? rest).map (Prod.map (c :: ·) id) := by
  by_cases hplain : isPlain c
  · rw [escape_of_isPlain hplain, List.singleton_append, readBody?_plain hplain]
  · obtain ⟨letter, hletter⟩ := exists_mem_escapes_of_not_isPlain hplain
    have hlookup : escapes.lookup letter = some c := lookup_of_mem_escapes _ hletter
    rw [escape_of_mem_escapes _ hletter, List.cons_append, List.singleton_append,
      readBody?_backslash, hlookup, Option.bind_some]

/-- Reading stops at the quotation mark behind the written characters and at none before. -/
theorem readBody?_flatMap_escape (cs rest : List Char) :
    readBody? (cs.flatMap escape ++ '"' :: rest) = some (cs, rest) := by
  induction cs with
  | nil => exact readBody?_closing rest
  | cons c cs ih =>
    rw [List.flatMap_cons, List.append_assoc, readBody?_escape_append, ih]
    rfl

/-- A backslash at the end of a text does not escape the quotation mark behind it. -/
example : readBody? (['a', '\\'].flatMap escape ++ '"' :: ['"']) = some (['a', '\\'], ['"']) := by
  decide

/-- What is read was written that way. -/
theorem eq_of_readBody? {source cs rest : List Char} (h : readBody? source = some (cs, rest)) :
    source = cs.flatMap escape ++ '"' :: rest := by
  fun_induction readBody? source generalizing cs rest with
  | case1 => cases h
  | case2 rest' =>
    -- the closing quotation mark
    cases h
    rfl
  | case3 => cases h
  | case4 letter rest' hquote ih =>
    -- a backslash: the letter behind it says which character was written
    obtain ⟨meant, hlookup, hread⟩ := Option.bind_eq_some_iff.mp h
    obtain ⟨⟨cs', _⟩, hbody, heq⟩ := Option.map_eq_some_iff.mp hread
    cases heq
    have hescape : escape meant = ['\\', letter] :=
      escape_of_mem_escapes _ (List.mem_of_lookup_eq_some hlookup)
    rw [ih hbody, List.flatMap_cons, hescape]
    rfl
  | case5 c rest' hquote hslash hplain ih =>
    obtain ⟨⟨cs', _⟩, hbody, heq⟩ := Option.map_eq_some_iff.mp h
    cases heq
    rw [ih hbody, List.flatMap_cons, escape_of_isPlain hplain]
    rfl
  | case6 => cases h

/-- The reader accepts exactly the literals that are written. -/
theorem readLiteral?_eq_some_iff {source s rest : String} :
    readLiteral? source = some (s, rest) ↔ source = quote s ++ rest := by
  rw [← String.toList_inj, String.toList_append, toList_quote, List.cons_append, List.append_assoc,
    List.singleton_append]
  unfold readLiteral?
  constructor
  · intro h
    split at h
    next => cases h
    next c tail hsource =>
      split at h
      next hc =>
        obtain ⟨⟨cs, after⟩, hbody, heq⟩ := Option.map_eq_some_iff.mp h
        cases heq
        rw [hsource, hc, eq_of_readBody? hbody, String.toList_ofList, String.toList_ofList]
      next => cases h
  · intro h
    simp only [h, if_true, readBody?_flatMap_escape, Option.map_some, Prod.map_apply,
      String.ofList_toList]

/-- What follows a literal does not change where it ends. -/
theorem quote_append_inj {s t rest after : String} (h : quote s ++ rest = quote t ++ after) :
    s = t ∧ rest = after := by
  have hread : readLiteral? (quote t ++ after) = some (s, rest) :=
    readLiteral?_eq_some_iff.mpr h.symm
  rw [readLiteral?_eq_some_iff.mpr rfl] at hread
  cases hread
  exact ⟨rfl, rfl⟩

/-- Reading undoes quoting, whatever is quoted and whatever follows: the reader that starts at the
opening quotation mark of a literal meets no line ending and no tab in it, yields the quoted text
and leaves what follows. It accepts nothing but such literals. So a source begins with the literal
of one text at most, which no text can end early, and different texts have different literals. -/
theorem readLiteral?_quote :
    (∀ s rest, readLiteral? (quote s ++ rest) = some (s, rest)) ∧
    (∀ s, '\n' ∉ (quote s).toList ∧ '\r' ∉ (quote s).toList ∧ '\t' ∉ (quote s).toList) ∧
    (∀ source s rest, readLiteral? source = some (s, rest) ↔ source = quote s ++ rest) ∧
    (∀ s t rest after, quote s ++ rest = quote t ++ after ↔ s = t ∧ rest = after) ∧
    Function.Injective quote := by
  have hread (s rest : String) : readLiteral? (quote s ++ rest) = some (s, rest) :=
    readLiteral?_eq_some_iff.mpr rfl
  have hunique (s t rest after : String) :
      quote s ++ rest = quote t ++ after ↔ s = t ∧ rest = after := by
    constructor
    · intro heq
      -- both sides are read alike
      have hboth := (hread s rest).symm.trans ((congrArg readLiteral? heq).trans (hread t after))
      exact Prod.mk.inj (Option.some.inj hboth)
    · rintro ⟨rfl, rfl⟩
      rfl
  refine ⟨hread, fun s => ?_, fun _ _ _ => readLiteral?_eq_some_iff, hunique, fun s t heq => ?_⟩
  · exact ⟨newline_not_mem_quote s, return_not_mem_quote s, tab_not_mem_quote s⟩
  · exact ((hunique s t "" "").mp (congrArg (· ++ "") heq)).1

end AgentCanvas.Text
