import Runbook.Engine
import Runbook.Proofs.Text.Splitting

/-! # Scripts in files

A script that is read from a file has its line ends unified before its text is split into
lines. Every break is one line end before and after that, so that the lines, their numbers
and their margins stay the same, and with them the outline or the error that reading ends in.
-/

namespace Runbook.Script

theorem ofFileText_eq_ofText (text : String) : ofFileText text = ofText text := by
  rw [ofFileText, ofText, Text.splitLines_unifyNewlines]

/-- Read the script that a file holds, if its text can be read. -/
def ofFile (files : Files.FileSystem) (path : String) :
    Except Fault (Except IndentationError Outline) :=
  (files.readText (Files.Path.tidy path)).map ofFileText

variable {files : Files.FileSystem} {path text : String}

theorem readText_of_read (held : files.read path = .ok text.toUTF8) :
    files.readText path = .ok text := by
  rw [Files.FileSystem.readText, held]
  change orFault .encoding (Text.Utf8.decode text.toUTF8) = .ok text
  rw [Text.Utf8.decode_toUTF8]
  rfl

/-- Reading a file comes to what reading the text that it holds comes to: the same outline,
or the same fault at the same line. -/
theorem ofFile_eq_ofText (held : files.read (Files.Path.tidy path) = .ok text.toUTF8) :
    ofFile files path = .ok (ofText text) := by
  rw [ofFile, readText_of_read held, ← ofFileText_eq_ofText]
  rfl

/-- A script with line ends of all kinds, whose last line is not aligned with another one. -/
def brokenText : String := "a\r\n\r\x0b  b\n\r\x0c\u0085   c\r\r\n\u2028 d"

def brokenFiles : Files.FileSystem :=
  ⟨.directory (.cons "s" (.file brokenText.toUTF8) .nil), []⟩

theorem ofFile_eq_ofText_broken :
    brokenFiles.read (Files.Path.tidy "s") = .ok brokenText.toUTF8 ∧
      ofFile brokenFiles "s" = .ok (ofText brokenText) ∧
      ofText brokenText = .error ⟨.unmatched, ⟨11, " d".toList⟩⟩ := by
  have held : brokenFiles.read (Files.Path.tidy "s") = .ok brokenText.toUTF8 := rfl
  exact ⟨held, ofFile_eq_ofText held, rfl⟩

end Runbook.Script

namespace Runbook.Engine

open Script (ofFile)

/-- What a command makes of a script file is what reading it comes to. -/
theorem readScript_eq_ofFile (file : String) :
    readScript file = do
      match ofFile (← get).files file with
      | .error fault =>
          if fault.isSystem then
            return .error (.failed [s!"Failed to read script '{file}': {fault.message}"])
          else throw fault
      | .ok (.error error) => return .error (.failed [error.message])
      | .ok (.ok outline) =>
          Run.record .debug
            s!"Parsed {outline.entryCount} instructions in {outline.blocks.length} blocks"
          return .ok outline := by
  unfold readScript
  congr 1
  funext state
  rw [ofFile]
  cases state.files.readText (Files.Path.tidy file) with
  | error fault => rfl
  | ok text =>
      simp only [Except.map]
      cases Script.ofFileText text <;> rfl

end Runbook.Engine
