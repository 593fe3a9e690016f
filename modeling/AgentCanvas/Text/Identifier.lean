import AgentCanvas.Text.CodeRange
import AgentCanvas.Text.IdentifierTable

/-!
# Identifiers

When a text can stand as a name in a program: it begins with a letter or an underscore, goes on
with letters, digits and underscores, in the sense of Unicode, and is no reserved word.
-/

namespace AgentCanvas.Text

/-- Whether a character may begin an identifier. -/
def isIdentifierStart (c : Char) : Bool :=
  if c.toNat < 128 then c.isAlpha || c == '_' else inRanges identifierStartRanges c

/-- Whether a character may follow the first one of an identifier. -/
def isIdentifierContinue (c : Char) : Bool :=
  if c.toNat < 128 then c.isAlphanum || c == '_' else inRanges identifierContinueRanges c

/-- Whether a text is an identifier; reserved words are identifiers too. -/
def isIdentifier (s : String) : Bool :=
  match s.toList with
  | [] => false
  | c :: rest => isIdentifierStart c && rest.all isIdentifierContinue

/-- The reserved words, which name nothing although they are identifiers. -/
def reservedWords : List String :=
  ["False", "None", "True", "and", "as", "assert", "async", "await", "break", "class", "continue",
    "def", "del", "elif", "else", "except", "finally", "for", "from", "global", "if", "import",
    "in", "is", "lambda", "nonlocal", "not", "or", "pass", "raise", "return", "try", "while",
    "with", "yield"]

/-- Whether a text is a reserved word. -/
def isReserved (s : String) : Bool :=
  reservedWords.contains s

/-- Whether a text can name something: an identifier that is not reserved. -/
def isName (s : String) : Bool :=
  isIdentifier s && !isReserved s

end AgentCanvas.Text
