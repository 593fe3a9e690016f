import AgentCanvas.Graph.File
import AgentCanvas.Proofs.Json.Readers
import AgentCanvas.Proofs.Text.Utf8

/-!
# Answers to files

A file is asked for a workflow, and the answer that says the most is a workflow or what is wrong
with the format of the file. Bytes that are no text are answered in another way, and so are texts
beyond the limits of the reader. Of texts that escape half of a pair of code units nothing is said.

## Key definitions

- `FileError.IsOfFormat`: the text is no JSON, or the value no workflow.
- `Workflow.Answered`: the answer is a workflow or an error of this kind.

## Key results

- `Workflow.answered_of_fits`: texts within the limits are answered so, whatever they hold.
- `Workflow.not_answered_of_lt`: texts that are nested too deep are not.
- `Workflow.ofFile_answered`: how all files are answered.
-/

namespace AgentCanvas

open Text (normalizeNewlines)
open Text.Utf8 (decode)

/-- An error says that the format of a file is wrong: its text is no JSON, or the value no
workflow. -/
def FileError.IsOfFormat : FileError → Prop
  | .unreadable _ _ | .document _ => True
  | _ => False

/-- A fault of a text is one of its format, unless it is a limit that is met. -/
theorem FileError.isOfFormat_ofFault (text : List Char) (fault : Json.Fault) :
    (FileError.ofFault text fault).IsOfFormat ↔ fault.cause.isLimit = false := by
  cases hlimit : fault.cause.isLimit <;> simp [FileError.ofFault, FileError.IsOfFormat, hlimit]

namespace Workflow

/-- A file is answered with a workflow or with what is wrong with its format. -/
def Answered (content : FileContent) (limits : Json.Limits) (draws : Draws) : Prop :=
  (∃ w, ofFile content limits draws = .ok w) ∨
    ∃ error, ofFile content limits draws = .error error ∧ error.IsOfFormat

variable {bytes : List UInt8} {text : List Char} {limits : Json.Limits} {draws : Draws}

/-! ## Texts -/

/-- A file whose text is read is answered with a workflow or with what is wrong with the value. -/
theorem answered_of_read {value : Json} (h : decode bytes = .ok text)
    (hread : Json.read (normalizeNewlines text) limits = .ok value) :
    Answered (.bytes bytes) limits draws := by
  have hfile : Json.ofFile (.bytes bytes) limits = .ok value := by
    simp only [Json.ofFile, h, hread]
  cases hdocument : ofDocument value draws with
  | ok w => exact .inl ⟨w, by simp only [ofFile, hfile, hdocument]⟩
  | error error => exact .inr ⟨.document error, by simp only [ofFile, hfile, hdocument], trivial⟩

theorem ofFile_of_read_eq_error {fault : Json.Fault} (h : decode bytes = .ok text)
    (hread : Json.read (normalizeNewlines text) limits = .error fault) :
    ofFile (.bytes bytes) limits draws = .error (.ofFault (normalizeNewlines text) fault) := by
  simp only [ofFile, Json.ofFile, h, hread]

/-- A file whose text is not read is answered so exactly if no limit is met. -/
theorem answered_iff_of_read_eq_error {fault : Json.Fault} (h : decode bytes = .ok text)
    (hread : Json.read (normalizeNewlines text) limits = .error fault) :
    Answered (.bytes bytes) limits draws ↔ fault.cause.isLimit = false := by
  rw [Answered, ofFile_of_read_eq_error h hread, ← FileError.isOfFormat_ofFault]
  constructor
  · rintro (⟨w, hw⟩ | ⟨error, herror, hformat⟩)
    · cases hw
    · cases herror
      exact hformat
  · exact fun hformat => .inr ⟨_, rfl, hformat⟩

/-- Texts within the limits are answered with a workflow or with what is wrong with their format,
whether they are JSON or not. -/
theorem answered_of_fits (h : decode bytes = .ok text)
    (hfits : Json.Fits limits (normalizeNewlines text)) :
    Answered (.bytes bytes) limits draws := by
  cases hread : Json.read (normalizeNewlines text) limits with
  | ok value => exact answered_of_read h hread
  | error fault =>
    exact (answered_iff_of_read_eq_error h hread).mpr (hfits.isLimit_eq_false hread)

/-- Texts of a value that are nested too deep are answered in another way. -/
theorem not_answered_of_lt {value : Json} (h : decode bytes = .ok text)
    (hvalue : Json.StandsFor (normalizeNewlines text) value)
    (hdeep : limits.nesting < Json.nesting (normalizeNewlines text)) :
    ¬Answered (.bytes bytes) limits draws := by
  obtain ⟨fault, hread, hlimit⟩ := hvalue.exists_fault_of_lt hdeep
  rw [answered_iff_of_read_eq_error h hread, hlimit]
  exact Bool.noConfusion

/-! ## Bytes -/

theorem ofFile_of_decode_eq_error {fault : Text.Utf8.Fault} (h : decode bytes = .error fault) :
    ofFile (.bytes bytes) limits draws = .error (.undecodable fault) := by
  simp only [ofFile, Json.ofFile, h]

/-- Of bytes that are a text, nothing is said about the encoding. -/
theorem ofFile_ne_undecodable (h : decode bytes = .ok text) (fault : Text.Utf8.Fault) :
    ofFile (.bytes bytes) limits draws ≠ .error (.undecodable fault) := by
  cases hread : Json.read (normalizeNewlines text) limits with
  | ok value => cases hdocument : ofDocument value draws <;> simp [ofFile, Json.ofFile, *]
  | error cause =>
    cases hlimit : cause.cause.isLimit <;> simp [ofFile, Json.ofFile, FileError.ofFault, *]

/-- Bytes that encode a text are answered with a workflow or with what is wrong with their format,
if the text keeps within the limits of the reader, and never if the text of a value is nested
deeper than the limits allow. Bytes that encode no text are answered as such, and no others are. -/
theorem ofFile_answered (limits : Json.Limits) (draws : Draws) (bytes : List UInt8) :
    (∀ text : List Char, text.flatMap String.utf8EncodeChar = bytes →
      (Json.Fits limits (normalizeNewlines text) → Answered (.bytes bytes) limits draws) ∧
      ((∃ value, Json.StandsFor (normalizeNewlines text) value) →
        limits.nesting < Json.nesting (normalizeNewlines text) →
        ¬Answered (.bytes bytes) limits draws)) ∧
    ((∃ fault, ofFile (.bytes bytes) limits draws = .error (.undecodable fault)) ↔
      ¬∃ text : List Char, text.flatMap String.utf8EncodeChar = bytes) := by
  simp only [← Text.Utf8.decode_eq_ok_iff]
  constructor
  · intro text hdecode
    exact ⟨answered_of_fits hdecode, fun ⟨_, hvalue⟩ => not_answered_of_lt hdecode hvalue⟩
  · cases hdecode : decode bytes with
    | ok text => simp [ofFile_ne_undecodable hdecode]
    | error fault => simp [ofFile_of_decode_eq_error hdecode]

/-- A letter of two bytes in two arrays is answered by a reader of two levels and not by one of
one. -/
theorem ofFile_answered_letter :
    ['[', '[', '"', 'é', '"', ']', ']'].flatMap String.utf8EncodeChar =
        [0x5B, 0x5B, 0x22, 0xC3, 0xA9, 0x22, 0x5D, 0x5D] ∧
      Answered (.bytes [0x5B, 0x5B, 0x22, 0xC3, 0xA9, 0x22, 0x5D, 0x5D]) ⟨7, 2⟩ .same ∧
      ¬Answered (.bytes [0x5B, 0x5B, 0x22, 0xC3, 0xA9, 0x22, 0x5D, 0x5D]) ⟨7, 1⟩ .same := by
  have hbytes : ['[', '[', '"', 'é', '"', ']', ']'].flatMap String.utf8EncodeChar =
      [0x5B, 0x5B, 0x22, 0xC3, 0xA9, 0x22, 0x5D, 0x5D] := by decide
  have hfits : Json.Fits ⟨7, 2⟩ (normalizeNewlines ['[', '[', '"', 'é', '"', ']', ']']) :=
    ⟨fun hlong => absurd hlong.lt_length (by decide), by decide, by decide⟩
  have hvalue : Json.StandsFor (normalizeNewlines ['[', '[', '"', 'é', '"', ']', ']'])
      (.arr [.arr [.str "é"]]) := ⟨⟨7, 2⟩, by rfl⟩
  exact ⟨hbytes, ((ofFile_answered ⟨7, 2⟩ .same _).1 _ hbytes).1 hfits,
    ((ofFile_answered ⟨7, 1⟩ .same _).1 _ hbytes).2 ⟨_, hvalue⟩ (by decide)⟩

/-- A byte that begins no character is answered with neither a workflow nor an error of the
format. -/
theorem not_answered_invalidByte : ¬Answered (.bytes [0xFF]) .usual .same := by
  have hdecode : decode [0xFF] = .error _ := rfl
  rw [Answered, ofFile_of_decode_eq_error hdecode]
  rintro (⟨w, hw⟩ | ⟨error, herror, hformat⟩)
  · cases hw
  · cases herror
    exact hformat

end Workflow

end AgentCanvas
