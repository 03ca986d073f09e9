/-
Reading the values of settings: texts, lists, names to choose from, and
records, which are tables with known keys.

Values are read in the order in which they stand in the text, and the
first one that does not fit is the one that is reported. A key that is
missing is noticed after all that are there have been read.
-/
import Rowsmith.Settings.Error

namespace Rowsmith.Settings

abbrev Decoder (α : Type) := Value → Except SettingsError α

def decodeText (wanted : String) : Decoder String
  | .text s => .ok s
  | v => .error (.mismatch v.kind wanted)

def decodeList {α : Type} (item : Decoder α) : Decoder (List α) := fun v =>
  match v.items? with
  | some items => items.mapM item
  | none => .error (.mismatch v.kind "a sequence")

/-- A value without content, which may stand behind a name. -/
def Value.isVoid : Value → Bool
  | .list [] | .tables [] | .table _ [] => true
  | _ => false

/-- Reads one of several names. A table whose only key is the name, with
nothing under it, is another way to write it. -/
def decodeName {α : Type} (names : List String) (ofName? : String → Option α) : Decoder α :=
  let find (name : String) : Except SettingsError α :=
    match ofName? name with
    | some a => .ok a
    | none => .error (.unknownName name names)
  fun
  | .text s => find s
  | .table _ [(key, v)] => do
    let a ← find key
    if v.isVoid then return a else throw .malformed
  | _ => .error .malformed

-- =============================================================== records

/-- When a key may be left out. -/
inductive Need
  | always
  -- Only where keys are written; not in the middle of a list.
  | ifNamed
  | never
deriving DecidableEq, Repr

/-- A key of a record, with what its value does to the record that has
been read so far. -/
structure Key (σ : Type) where
  name : String
  need : Need
  put : Value → σ → Except SettingsError σ

/-- The keys of a record, and what a record is called in messages. -/
structure RecordShape (σ : Type) where
  label : String
  keys : List (Key σ)

namespace RecordShape

variable {σ : Type}

def names (r : RecordShape σ) : List String := r.keys.map (·.name)

def readEntry (r : RecordShape σ) (read : σ) (entry : String × Value) :
    Except SettingsError σ :=
  match r.keys.find? fun key => key.name == entry.1 with
  | some key => key.put entry.2 read
  | none => .error (.unknownKey entry.1 r.names)

/-- The first key that has to be there and is not. -/
def missing? (r : RecordShape σ) (entries : Entries) : Option String :=
  (r.keys.find? fun key =>
    key.need == .always && !entries.any fun entry => entry.1 == key.name).map (·.name)

def readTable (r : RecordShape σ) (start : σ) (entries : Entries) : Except SettingsError σ := do
  let read ← entries.foldlM r.readEntry start
  match r.missing? entries with
  | some name => throw (.missingKey name)
  | none => return read

/-- Reads a list, whose items are the values of the keys in order. Keys
that are never needed may be missing at the end; items beyond the last key
do not count. -/
def readItems : List (Key σ) → σ → List Value → Except SettingsError σ
  | [], read, _ => .ok read
  | key :: keys, read, item :: items => do readItems keys (← key.put item read) items
  | key :: keys, read, [] =>
    if key.need == .never then readItems keys read [] else .error .malformed

/-- The key under which a date would show its parts. -/
def momentKey : String := "$__toml_private_datetime"

/-- Reads a record from what it is before any key is read. -/
def decode (r : RecordShape σ) (start : σ) : Decoder σ
  | .table _ entries => r.readTable start entries
  | .list items | .tables items => readItems r.keys start items
  | .moment => .error (.unknownKey momentKey r.names)
  | v => .error (.mismatch v.kind ("struct " ++ r.label))

end RecordShape

end Rowsmith.Settings
