/-
Naming rules: how the names of tables, columns, accessors and files are
derived from the names of declared types and fields.

Every rule first cuts a name into words. A character that is neither a
letter nor a digit separates words, and so does a change of case: a word
ends where an upper case letter follows a lower case one, and a run of
upper case letters gives its last letter to the word that follows, so
that `HTTPLog` is `HTTP` and `Log`.
-/
import Rowsmith.Text.Letter
import Rowsmith.Text.LetterCase

namespace Rowsmith.Naming

open Text

-- ================================================================ words

/-- The case of the last cased character of the current word. -/
inductive WordMode
  | start
  | lower
  | upper
deriving DecidableEq, Repr

/-- The mode after a character that does not end its word. -/
def WordMode.next (mode : WordMode) (c : Char) : WordMode :=
  if isLower c then .lower else if isUpper c then .upper else mode

/-- Cuts a run of letters and digits at its changes of case. The
characters of the current word are held in reverse. -/
def cutCase : WordMode → List Char → List Char → List (List Char)
  | _, current, [] => if current.isEmpty then [] else [current.reverse]
  | _, current, [c] => [(c :: current).reverse]
  | mode, current, c :: following :: rest =>
    if mode.next c == .lower && isUpper following then
      (c :: current).reverse :: cutCase .start [] (following :: rest)
    else if mode == .upper && isUpper c && isLower following then
      current.reverse :: cutCase .start [c] (following :: rest)
    else
      cutCase (mode.next c) (c :: current) (following :: rest)

/-- The maximal runs of letters and digits, the empty ones between two
separators included. -/
def runs : List Char → List (List Char)
  | [] => [[]]
  | c :: rest =>
    match runs rest with
    | [] => [[c]]
    | run :: more => if isAlphanumeric c then (c :: run) :: more else [] :: run :: more

def words (name : String) : List (List Char) :=
  (runs name.toList).flatMap (cutCase .start [])

-- ====================================================== writing a word

/-- A word in lower case. A capital sigma that ends the word becomes the
final form of the letter. -/
def lowerWord : List Char → List Char
  | [] => []
  | [c] => if c == 'Σ' then ['ς'] else lowerCase c
  | c :: rest => lowerCase c ++ lowerWord rest

def upperWord (word : List Char) : List Char :=
  word.flatMap upperCase

def capitalized : List Char → List Char
  | [] => []
  | c :: rest => upperCase c ++ lowerWord rest

/-- Lower case words joined by underscores. -/
def snakeCase (name : String) : String :=
  String.intercalate "_" ((words name).map fun w => String.ofList (lowerWord w))

/-- Capitalized words run together. -/
def camelCase (name : String) : String :=
  String.ofList ((words name).flatMap capitalized)

/-- Upper case words joined by underscores. -/
def screamingCase (name : String) : String :=
  String.intercalate "_" ((words name).map fun w => String.ofList (upperWord w))

-- ================================================================ rules

/-- Drops every raw-identifier marker at the front. -/
def dropRawMarks : List Char → List Char
  | 'r' :: '#' :: rest => dropRawMarks rest
  | name => name

/-- The storage name of an identifier. -/
def storageName (ident : String) : String :=
  snakeCase (String.ofList (dropRawMarks ident.toList))

/-- The default table name of a model type. -/
def tableName (model : String) : String := storageName model

/-- The default accessor of a model type. -/
def accessorName (model : String) : String := camelCase model ++ "Table"

/-- The generated adapter of a nested structure type. -/
def adapterName (structureName : String) : String := camelCase structureName ++ "Adapter"

/-- The field name that by convention holds the primary key of a
model. -/
def idField (model : String) : String := storageName model ++ "_id"

/-- The column of a foreign key held by a field of the given storage
name: the name itself if it already ends as a key column does. -/
def foreignKeyColumn (field : String) : String :=
  if "_id".toList.isSuffixOf field.toList then field else field ++ "_id"

/-- The column of a part nested under a name. -/
def compound (outer part : String) : String := outer ++ "_" ++ part

/-- The file, without extension, that holds a generated type. -/
def fileStem (typeName : String) : String := storageName typeName

end Rowsmith.Naming
