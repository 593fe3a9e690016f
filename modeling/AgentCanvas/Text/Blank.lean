import AgentCanvas.Text.CodeRange

/-!
# Blank text

Which characters count as blank, and the trimming that follows from it. A text is blank when every
character of it is; the separators U+001C to U+001F are blank although they do not have the
property White_Space, which numbers are trimmed by.

## Key definitions

- `isBlank`, `isWhiteSpace`: the two classes.
- `isBlankText`, `trim`: what texts are made of them, and texts without them at either end.
-/

namespace AgentCanvas.Text

/-- Blank characters: the property White_Space together with U+001C to U+001F. -/
def blankRanges : List (Nat × Nat) :=
  [(0x9, 0xD), (0x1C, 0x20), (0x85, 0x85), (0xA0, 0xA0), (0x1680, 0x1680), (0x2000, 0x200A),
    (0x2028, 0x2029), (0x202F, 0x202F), (0x205F, 0x205F), (0x3000, 0x3000)]

/-- Whether a character is blank. -/
def isBlank (c : Char) : Bool :=
  inRanges blankRanges c

/-- Whether a character has the property White_Space. -/
def isWhiteSpace (c : Char) : Bool :=
  isBlank c && !(0x1C ≤ c.toNat && c.toNat ≤ 0x1F)

/-- A text is blank when it holds blank characters only; the empty text is. -/
def isBlankText (s : String) : Bool :=
  s.toList.all isBlank

/-- Leaves out the longest run of characters of the class `p` at the end. -/
def dropEndWhile (p : Char → Bool) (cs : List Char) : List Char :=
  (cs.reverse.dropWhile p).reverse

/-- Leaves out the longest runs of characters of the class `p` at both ends. -/
def trimWhile (p : Char → Bool) (cs : List Char) : List Char :=
  dropEndWhile p (cs.dropWhile p)

/-- A text without the blank characters at its two ends. -/
def trim (s : String) : String :=
  String.ofList (trimWhile isBlank s.toList)

end AgentCanvas.Text
