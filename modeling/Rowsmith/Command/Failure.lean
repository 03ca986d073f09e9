/-
How a command fails: its settings cannot be read or are refused, the
declarations do not make a schema, or the files cannot be written. A
failure is reported by its messages, from what was attempted down to what
went wrong.
-/
import Rowsmith.Files.Writing
import Rowsmith.Settings.Error
import Rowsmith.Stop

namespace Rowsmith.Command

/-- Why a command fails. -/
inductive CommandFailure
  | settingsUnreadable (path : Path) (reason : Files.FileError)
  | settingsRefused (path : Path) (reason : Settings.SettingsError)
  | stopped (reason : Stop)
  | unwritten (reason : Files.WriteError)
deriving Repr

/-- A message of a report. -/
inductive Message
  | text (s : String)
  -- What is wrong with settings, which may have no text of its own.
  | settings (reason : Settings.SettingsError)
deriving DecidableEq, Repr

namespace CommandFailure

def messages : CommandFailure → List Message
  | .settingsUnreadable path reason =>
    [.text ("failed to read " ++ path.text), .text reason.message]
  | .settingsRefused path reason =>
    [.text ("invalid configuration in " ++ path.text), .settings reason]
  | .stopped (.failure e) => .text e.message :: e.sources.map .text
  | .stopped (.defect d) => d.message.toList.map .text
  | .unwritten (.directory path reason) =>
    [.text ("failed to create directory " ++ path.text), .text reason.message]
  | .unwritten (.file path reason) =>
    [.text ("failed to write " ++ path.text), .text reason.message]

end CommandFailure

end Rowsmith.Command
