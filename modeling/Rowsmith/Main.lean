/-
The program: a command line, run on the files of the machine.
-/
import Rowsmith.Command

namespace Rowsmith

open Files Command

/-- The refusal that an error of the system means. -/
def refusal (e : IO.Error) : FileError :=
  match e with
  | .noFileOrDirectory .. => .missing
  | .alreadyExists .. => .exists
  | .inappropriateType _ code details =>
    if code = 21 then .isDirectory
    else if code = 20 then .notDirectory
    else .other (details ++ " (os error " ++ toString code ++ ")")
  | e => .other (toString e)

/-- Tries an access to the files of the machine. -/
def attempt {α : Type} (access : IO α) : IO (Except FileError α) := do
  try
    return .ok (← access)
  catch e =>
    return .error (refusal e)

/-- Access to the files of the machine. -/
def machineAccess : FileAccess IO where
  read p := do
    match ← attempt (IO.FS.readBinFile p.text) with
    | .error e => return .error e
    | .ok bytes =>
      match String.fromUTF8? bytes with
      | some text => return .ok text
      | none => return .error .notText
  makeDirectories p :=
    if p.components.isEmpty then return .ok () else attempt (IO.FS.createDirAll p.text)
  write p text := attempt (IO.FS.writeFile p.text text)

/-- What is told about a command line that is not accepted. -/
def usageText : UsageError → String
  | .helpShown | .nothingGiven =>
    "Usage: archgen [--verbose] <generate | check> [--config <PATH>] [--dry-run]"
  | .versionShown => "archgen"
  | .commandMissing => "error: a command is needed: generate or check"
  | .commandUnknown => "error: unknown command"
  | .argumentUnknown => "error: unknown argument"
  | .valueInvalid => "error: an option lacks its value"
  | .optionRepeated => "error: an option is given twice"
  | .valueSurplus => "error: an option takes no value"

def messageText : Message → String
  | .text s => s
  | .settings e => e.message.getD "the text is not in the format of settings"

end Rowsmith

open Rowsmith Command in
/-- Runs the command that the arguments ask for. -/
def main (arguments : List String) : IO UInt32 := do
  match Invocation.ofArguments arguments with
  | .error e =>
    match e with
    | .helpShown | .versionShown =>
      IO.println (usageText e)
      return 0
    | e =>
      IO.eprintln (usageText e)
      return 2
  | .ok invocation =>
    let (result, printed) ← invocation.run machineAccess
    IO.print printed
    match result with
    | .ok () => return 0
    | .error e =>
      IO.eprintln ("Error: " ++ String.intercalate "\n  caused by: " (e.messages.map messageText))
      return 1
