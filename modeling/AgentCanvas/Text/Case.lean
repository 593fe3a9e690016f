import AgentCanvas.Text.CaseTable
import AgentCanvas.Text.CodeRange

/-!
# Lower and upper case

The full case mappings of texts: one character may become several, and a capital sigma becomes the
final form `ς` where it ends a word. ASCII letters are mapped directly, all others by table.

## Key definitions

- `lower`, `upper`: the mappings of texts.
- `endsWord`: where a capital sigma takes its final form.
-/

namespace AgentCanvas.Text

/-- The shift of the first run that holds the code point, if one does. -/
def shiftOf (runs : List CaseRun) (code : Nat) : Option Int :=
  (runs.find? fun run =>
    run.first ≤ code && code ≤ run.last && (code - run.first) % run.stride == 0).map (·.shift)

/-- Maps a character by a table of expansions and a table of runs; it stays itself if neither
holds it. -/
def mapCase (expansions : List (Nat × List Nat)) (runs : List CaseRun) (c : Char) : List Char :=
  match expansions.lookup c.toNat with
  | some codes => codes.map Char.ofNat
  | none =>
    match shiftOf runs c.toNat with
    | some shift => [Char.ofNat (c.toNat + shift).toNat]
    | none => [c]

/-- The lower-case form of a character on its own. -/
def lowerChar (c : Char) : List Char :=
  if c.toNat < 128 then [c.toLower] else mapCase lowerExpansions lowerRuns c

/-- The upper-case form of a character. -/
def upperChar (c : Char) : List Char :=
  if c.toNat < 128 then [c.toUpper] else mapCase upperExpansions upperRuns c

/-- Whether the nearest character that is not passed over has case. -/
def meetsCased (cs : List Char) : Bool :=
  match cs.dropWhile (inRanges caseIgnorableRanges) with
  | [] => false
  | c :: _ => inRanges casedRanges c

/-- A sigma ends a word when a cased character stands before it and none after it. The characters
before it are given nearest first. -/
def endsWord (before after : List Char) : Bool :=
  meetsCased before && !meetsCased after

/-- Lower-cases the characters that follow `before`, which is given nearest first. -/
def lowerAfter (before : List Char) : List Char → List Char
  | [] => []
  | c :: rest =>
    (if c = 'Σ' then [if endsWord before rest then 'ς' else 'σ'] else lowerChar c)
      ++ lowerAfter (c :: before) rest

/-- The lower-case form of a text. -/
def lower (s : String) : String :=
  String.ofList (lowerAfter [] s.toList)

/-- The upper-case form of a text. -/
def upper (s : String) : String :=
  String.ofList (s.toList.flatMap upperChar)

end AgentCanvas.Text
