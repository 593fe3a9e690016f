import AgentCanvas.Json.Reader

/-!
# What a text shows without being read

How deep the arrays and objects of a text are nested, how many digits it has in a row and whether it
escapes half of a pair of code units can be told by a look at its characters, whether it is JSON or
not. Only what stands outside of string literals nests or is a number, and only a backslash that is
not escaped itself begins an escape.

## Key definitions

- `Json.outside`: what stands outside of string literals.
- `Json.nesting`, `Json.HasLongDigits`, `Json.Paired`: what the limits of a reader are about.
- `Json.Fits`: a text that keeps within them.

## Key results

- `Json.outside_cons_of_isPlain`, `Json.nesting_cons_of_isPlain`, `Json.paired_cons_of_isPlain`:
  characters that show nothing.
- `Json.pairedFrom_true_eq_false`: a first half that nothing follows.
-/

namespace AgentCanvas.Json

/-! ## Outside of literals -/

mutual

/-- What stands outside of the string literals of a text, and the mark that opens each of them. -/
def outside : List Char → List Char
  | [] => []
  | '"' :: rest => '"' :: inside rest
  | c :: rest => c :: outside rest

/-- What stands outside of the string literals of a text that begins inside of one. -/
def inside : List Char → List Char
  | [] => []
  | '"' :: rest => outside rest
  | '\\' :: _ :: rest => inside rest
  | _ :: rest => inside rest

end

theorem outside_quote (rest : List Char) : outside ('"' :: rest) = '"' :: inside rest := by
  rw [outside]

theorem outside_cons {c : Char} (h : c ≠ '"') (rest : List Char) :
    outside (c :: rest) = c :: outside rest := by
  rw [outside]
  exact h

theorem outside_open {c : Char} (h : c = '[' ∨ c = '\x7b') (rest : List Char) :
    outside (c :: rest) = c :: outside rest :=
  outside_cons (by rcases h with rfl | rfl <;> decide) rest

theorem outside_close {c : Char} (h : c = ']' ∨ c = '\x7d') (rest : List Char) :
    outside (c :: rest) = c :: outside rest :=
  outside_cons (by rcases h with rfl | rfl <;> decide) rest

theorem inside_quote (rest : List Char) : inside ('"' :: rest) = outside rest := by
  rw [inside]

theorem inside_escape (c : Char) (rest : List Char) :
    inside ('\\' :: c :: rest) = inside rest := by
  rw [inside]

theorem inside_cons {c : Char} (hquote : c ≠ '"') (hescape : c ≠ '\\') (rest : List Char) :
    inside (c :: rest) = inside rest := by
  rw [inside]
  · exact hquote
  · exact fun _ _ h => absurd h hescape

/-! ## Nesting -/

/-- How many more brackets are opened than closed up to any place, at the most. -/
def depth : List Char → Nat
  | [] => 0
  | c :: rest =>
    if c = '[' ∨ c = '\x7b' then depth rest + 1
    else if c = ']' ∨ c = '\x7d' then depth rest - 1
    else depth rest

/-- How many arrays and objects of a text stand inside one another at the most. -/
def nesting (text : List Char) : Nat :=
  depth (outside text)

theorem nesting_open {c : Char} (h : c = '[' ∨ c = '\x7b') (cs : List Char) :
    nesting (c :: cs) = nesting cs + 1 := by
  rw [nesting, outside_open h, depth, if_pos h, nesting]

theorem nesting_close {c : Char} (h : c = ']' ∨ c = '\x7d') (cs : List Char) :
    nesting (c :: cs) = nesting cs - 1 := by
  have hopen : ¬(c = '[' ∨ c = '\x7b') := by rcases h with rfl | rfl <;> decide
  rw [nesting, outside_close h, depth, if_neg hopen, if_pos h, nesting]

theorem nesting_quote (cs : List Char) : nesting ('"' :: cs) = depth (inside cs) := by
  rw [nesting, outside_quote]
  rfl

/-! ## Digits -/

/-- A text has more digits in a row than an integer may have. -/
def HasLongDigits (limit : Nat) (cs : List Char) : Prop :=
  ∃ digits, digits <:+: cs ∧ (∀ c ∈ digits, c.isDigit) ∧ limit < digits.length

theorem HasLongDigits.mono {limit : Nat} {cs others : List Char} (h : cs <:+ others)
    (hlong : HasLongDigits limit cs) : HasLongDigits limit others := by
  obtain ⟨digits, hpart, hdigits, hlength⟩ := hlong
  exact ⟨digits, hpart.trans h.isInfix, hdigits, hlength⟩

theorem HasLongDigits.lt_length {limit : Nat} {cs : List Char} (h : HasLongDigits limit cs) :
    limit < cs.length := by
  obtain ⟨digits, hpart, -, hlength⟩ := h
  exact Nat.lt_of_lt_of_le hlength hpart.length_le

/-! ## Pairs of code units -/

/-- Whether all halves of pairs that a text escapes belong together; `opened` says that the first
half of a pair stands in front of the text. -/
def pairedFrom (opened : Bool) : List Char → Bool
  | [] => !opened
  | '\\' :: 'u' :: a :: b :: c :: d :: rest =>
    let unit := (codeUnit? a b c d).getD 0
    isLowSurrogate unit == opened && pairedFrom (isHighSurrogate unit) rest
  | '\\' :: _ :: rest => !opened && pairedFrom false rest
  | _ :: rest => !opened && pairedFrom false rest

/-- No half of a pair of code units is escaped without the other one. -/
def Paired (text : List Char) : Prop :=
  pairedFrom false text

instance (text : List Char) : Decidable (Paired text) :=
  inferInstanceAs (Decidable (pairedFrom false text = true))

theorem pairedFrom_unit (opened : Bool) (a b c d : Char) (rest : List Char) :
    pairedFrom opened ('\\' :: 'u' :: a :: b :: c :: d :: rest) =
      (isLowSurrogate ((codeUnit? a b c d).getD 0) == opened &&
        pairedFrom (isHighSurrogate ((codeUnit? a b c d).getD 0)) rest) := by
  rw [pairedFrom]

theorem pairedFrom_escape {c : Char} (h : c ≠ 'u') (opened : Bool) (rest : List Char) :
    pairedFrom opened ('\\' :: c :: rest) = (!opened && pairedFrom false rest) := by
  rw [pairedFrom]
  exact fun _ _ _ _ _ hu => absurd hu h

theorem pairedFrom_cons {c : Char} (h : c ≠ '\\') (opened : Bool) (rest : List Char) :
    pairedFrom opened (c :: rest) = (!opened && pairedFrom false rest) := by
  rw [pairedFrom]
  · exact fun _ _ _ _ _ hc => absurd hc h
  · exact fun _ _ hc => absurd hc h

theorem paired_cons {c : Char} (h : c ≠ '\\') (cs : List Char) :
    Paired (c :: cs) ↔ Paired cs := by
  rw [Paired, pairedFrom_cons h, Bool.not_false, Bool.true_and, Paired]

/-- A first half has to be followed by an escape of its second half. -/
theorem pairedFrom_true_eq_false {cs : List Char}
    (h : ∀ a b c d rest, cs = '\\' :: 'u' :: a :: b :: c :: d :: rest →
      isLowSurrogate ((codeUnit? a b c d).getD 0) = false) : pairedFrom true cs = false := by
  rw [pairedFrom.eq_def]
  split
  next => rfl
  next a b c d rest => simp [h a b c d rest rfl]
  next => rfl
  next => rfl

/-! ## Characters that show nothing -/

/-- Whether a character neither opens nor closes anything and begins no escape. -/
def isPlain (c : Char) : Bool :=
  !(['"', '\\', '[', ']', '\x7b', '\x7d'].contains c)

section

variable {c : Char} (h : isPlain c)
include h

theorem outside_cons_of_isPlain (rest : List Char) : outside (c :: rest) = c :: outside rest := by
  refine outside_cons ?_ rest
  rintro rfl
  cases h

theorem nesting_cons_of_isPlain (rest : List Char) : nesting (c :: rest) = nesting rest := by
  have hopen : ¬(c = '[' ∨ c = '\x7b') := by rintro (rfl | rfl) <;> cases h
  have hclose : ¬(c = ']' ∨ c = '\x7d') := by rintro (rfl | rfl) <;> cases h
  rw [nesting, outside_cons_of_isPlain h, depth, if_neg hopen, if_neg hclose, nesting]

theorem paired_cons_of_isPlain (rest : List Char) : Paired (c :: rest) ↔ Paired rest := by
  refine paired_cons ?_ rest
  rintro rfl
  cases h

end

theorem isPlain_of_isDigit {c : Char} (h : c.isDigit) : isPlain c := by
  rw [isPlain, Bool.not_eq_true', List.contains_eq_mem, decide_eq_false_iff_not]
  intro hspecial
  simp only [List.mem_cons, List.not_mem_nil, or_false] at hspecial
  rcases hspecial with rfl | rfl | rfl | rfl | rfl | rfl <;> cases h

/-! ## Limits -/

/-- A text keeps within the limits of a reader: outside of literals it has no more digits in a row
than an integer may have and nests no more arrays and objects than may stand inside one another, and
it escapes no half of a pair alone. -/
structure Fits (limits : Limits) (text : List Char) : Prop where
  digits : ¬HasLongDigits limits.digits (outside text)
  nesting : nesting text ≤ limits.nesting
  paired : Paired text

end AgentCanvas.Json
