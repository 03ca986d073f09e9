/-
Commands: checking what the settings describe, and generating it. Both
read the settings and the sources and resolve a schema; then the one lists
the tables and adapters, and the other writes the generated files.

A command prints as it goes along. What it has printed stays when it
fails.
-/
import Rowsmith.Command.Arguments
import Rowsmith.Command.Failure
import Rowsmith.Emit
import Rowsmith.Run

namespace Rowsmith.Command

open Files

/-- A part of a command: it works on files, prints, and may fail. -/
abbrev Action (m : Type → Type) := ExceptT CommandFailure (StateT String m)

namespace Action

variable {m : Type → Type} [Monad m]

def print (line : String) : Action m Unit := modify fun printed => printed ++ line ++ "\n"

def ofStop {α : Type} (step : Except Stop α) : Action m α :=
  match step with
  | .ok a => pure a
  | .error e => throw (.stopped e)

/-- An access to files that may be refused. -/
def ofAccess {ε α : Type} (explain : ε → CommandFailure) (access : m (Except ε α)) :
    Action m α := do
  match ← (liftM access : StateT String m (Except ε α)) with
  | .ok a => pure a
  | .error e => throw (explain e)

end Action

open Rowsmith.Command.Action

variable {m : Type → Type} [Monad m]

-- =============================================================== reading

/-- Reads settings. Their paths are then seen from where the command
runs. -/
def readSettings (access : FileAccess m) (path : Path) : Action m Settings := do
  let text ← ofAccess (.settingsUnreadable path) (access.read path)
  match Settings.ofText text with
  | .ok s => return s.within (path.parent?.getD ⟨""⟩)
  | .error e => throw (.settingsRefused path e)

def sourceFailure (path : Path) (reason : FileError) : CommandFailure :=
  .stopped (.failure (.ofReport (.foreign ("failed to read " ++ path.text) [reason.message])))

def readSource (access : FileAccess m) (e : Settings.SourceEntry) :
    Action m Source.SourceText := do
  return ⟨e.path.text, e.module, ← ofAccess (sourceFailure e.path) (access.read e.path)⟩

/-- Reads the sources and resolves the schema they describe. -/
def readSchema (access : FileAccess m) (s : Settings) : Action m Schema := do
  let sources ← s.sources.mapM (readSource access)
  let catalog ← ofStop (Source.parseSources sources)
  ofStop (s.schemaOf catalog)

-- ============================================================== checking

def tableSummary (t : Table) : Except Defect String := do
  let key ← match t.primaryKey? with
    | some f => do pure ("primary key `" ++ (← f.column).name ++ "`")
    | none => pure "no primary key"
  return t.accessor ++ " -> `" ++ t.name ++ "` (" ++ toString t.columnCount ++ " columns, " ++
    key ++ ")"

/-- What is told about the adapter of a nested structure. -/
def adapterSummary (s : Structure) : String :=
  s.adapterName ++ " -> `" ++ s.type.print ++ "` (" ++ toString s.columnCount ++ " columns)"

def printHeading (title : String) : Action m Unit := do
  print ""
  print ("  " ++ title)
  print ""

def printClosing (line : String) : Action m Unit := do
  print ""
  print ("  " ++ line)
  print ""

/-- Resolves the schema and lists what is in it. -/
def check (access : FileAccess m) (settings : Path) : Action m Unit := do
  let s ← readSettings access settings
  let schema ← readSchema access s
  printHeading "Check Models"
  for t in schema.tables do
    print ("  ✓ " ++ (← ofStop (Stop.ofDefect (tableSummary t))))
  for a in schema.structures do
    print ("  ✓ " ++ adapterSummary a)
  printClosing (toString schema.tables.length ++ " tables and " ++
    toString schema.structures.length ++ " adapters resolved")

-- ============================================================ generating

/-- Resolves the schema and writes the generated files, or only lists
them. -/
def generate (access : FileAccess m) (settings : Path) (isDryRun : Bool) : Action m Unit := do
  let s ← readSettings access settings
  let schema ← readSchema access s
  let files ← ofStop (Stop.ofDefect (Emit.generate schema s.target))
  printHeading "Generate Sources"
  if isDryRun then
    for file in files do
      print ("  · " ++ (s.target.outDir.join file.path).text)
    printClosing (toString files.length ++ " files would be written")
  else
    let summary ← ofAccess .unwritten (writeFiles access s.target.outDir files).run
    for path in summary.written do
      print ("  ✓ Wrote " ++ path.text)
    printClosing (toString summary.written.length ++ " written, " ++
      toString summary.unchanged.length ++ " unchanged")

-- =============================================================== running

/-- The level down to which steps are logged. -/
def Invocation.logLevel (i : Invocation) : String := if i.isVerbose then "debug" else "info"

def Invocation.action (i : Invocation) (access : FileAccess m) : Action m Unit :=
  match i.task with
  | .check => check access ⟨i.settingsPath⟩
  | .generate isDryRun => generate access ⟨i.settingsPath⟩ isDryRun

/-- Runs a command. The result comes with all that was printed. -/
def Invocation.run (i : Invocation) (access : FileAccess m) :
    m (Except CommandFailure Unit × String) :=
  (i.action access).run.run ""

end Rowsmith.Command
