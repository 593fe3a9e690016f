/-!
# Quoted text

Free text as a string literal in double quotes. Backslash, double quote, newline, carriage return
and tab are escaped; every other character stands for itself, so a literal never spans lines and
ends at its first unescaped quote.
-/

namespace AgentCanvas.Text

/-- How a character is written inside a literal. -/
def escape (c : Char) : List Char :=
  if c = '\\' then ['\\', '\\']
  else if c = '"' then ['\\', '"']
  else if c = '\n' then ['\\', 'n']
  else if c = '\r' then ['\\', 'r']
  else if c = '\t' then ['\\', 't']
  else [c]

/-- The literal that stands for a text. -/
def quote (s : String) : String :=
  String.ofList ('"' :: (s.toList.flatMap escape ++ ['"']))

end AgentCanvas.Text
