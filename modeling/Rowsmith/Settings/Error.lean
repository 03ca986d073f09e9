/-
Why settings are refused. A text that does not follow the format has no
message of its own; the other errors name the key, the name or the kind of
value that is out of place, and what could stand there instead.
-/
import Rowsmith.Settings.Value
import Rowsmith.Text.Quoted

namespace Rowsmith.Settings

/-- Why settings are refused. -/
inductive SettingsError
  -- The text does not follow the format, or a value has a form that no
  -- setting has.
  | malformed
  -- A key that the table has no room for.
  | unknownKey (key : String) (known : List String)
  -- A key that the table does not have.
  | missingKey (key : String)
  -- A name that is none of those to choose from.
  | unknownName (name : String) (known : List String)
  -- A value of the wrong kind.
  | mismatch (found wanted : String)
deriving DecidableEq, Repr

/-- The kind of a value, with the value where it is short. -/
def Value.kind : Value → String
  | .text s => "string " ++ Text.quoted s
  | .whole n => "integer `" ++ toString n ++ "`"
  | .real n => "floating point `" ++ n.text ++ "`"
  | .truth b => "boolean `" ++ (if b then "true" else "false") ++ "`"
  | .list _ | .tables _ => "sequence"
  | .moment | .table _ _ => "map"

namespace SettingsError

def choice (names : List String) : String :=
  let quoted := names.map fun name => "`" ++ name ++ "`"
  match quoted with
  | [] => ""
  | [name] => name
  | [name, other] => name ++ " or " ++ other
  | _ => "one of " ++ String.intercalate ", " quoted

/-- The message of an error, if it has one. -/
def message : SettingsError → Option String
  | .malformed => none
  | .unknownKey key known => some ("unknown field `" ++ key ++ "`, expected " ++ choice known)
  | .missingKey key => some ("missing field `" ++ key ++ "`")
  | .unknownName name known =>
    some ("unknown variant `" ++ name ++ "`, expected " ++ choice known)
  | .mismatch found wanted => some ("invalid type: " ++ found ++ ", expected " ++ wanted)

end SettingsError

end Rowsmith.Settings
