import AgentCanvas.Graph.Document
import AgentCanvas.Json.Reader
import AgentCanvas.Text.Lines
import AgentCanvas.Text.Utf8

/-!
# Workflow files

Reading a workflow from the bytes of a file: they are decoded as UTF-8, line breaks are made
uniform, and the text is read as JSON. Each of these steps has failures of its own. The limits of
the reader and the ids drawn for edges without one are parameters.
-/

namespace AgentCanvas

/-- What stands at a path. -/
inductive FileContent where
  | missing
  | directory
  | bytes (bytes : List UInt8)

/-- Why a file holds no workflow. -/
inductive FileError where
  | missing
  | directory
  /-- The bytes are no UTF-8. -/
  | undecodable (fault : Text.Utf8.Fault)
  /-- The text is no JSON. -/
  | unreadable (text : List Char) (fault : Json.Fault)
  /-- The text goes beyond what the reader takes. -/
  | beyondLimit (cause : Json.Cause)
  /-- The JSON value is no workflow. -/
  | document (error : DocumentError)

/-- The wording of a file error; the path is named where the file itself or its text is at
fault. -/
def FileError.message (path : String) : FileError → String
  | missing => "[Errno 2] No such file or directory: '" ++ path ++ "'"
  | directory => "[Errno 21] Is a directory: '" ++ path ++ "'"
  | undecodable fault => fault.message
  | unreadable text fault => path ++ ": not valid JSON (" ++ fault.message text ++ ")"
  | beyondLimit cause => cause.message
  | document error => error.message

/-- The file error for a fault of a text. -/
def FileError.ofFault (text : List Char) (fault : Json.Fault) : FileError :=
  if fault.cause.isLimit then beyondLimit fault.cause else unreadable text fault

/-- The JSON value that the bytes of a file stand for. -/
def Json.ofFile (content : FileContent) (limits : Limits := .usual) : Except FileError Json :=
  match content with
  | .missing => .error .missing
  | .directory => .error .directory
  | .bytes bytes =>
    match Text.Utf8.decode bytes with
    | .error fault => .error (.undecodable fault)
    | .ok cs =>
      let text := Text.normalizeNewlines cs
      match Json.read text limits with
      | .error fault => .error (FileError.ofFault text fault)
      | .ok value => .ok value

/-- The workflow that a file holds. -/
def Workflow.ofFile (content : FileContent) (limits : Json.Limits := .usual)
    (draws : Draws := .same) : Except FileError Workflow :=
  match Json.ofFile content limits with
  | .error error => .error error
  | .ok value =>
    match Workflow.ofDocument value draws with
    | .error error => .error (.document error)
    | .ok w => .ok w

end AgentCanvas
