/-
A tree of files in memory, as seen from the directory that a run works in.

A path is followed from its front: every step leaves a directory that has
to be there, and only the last one may lead to something new. Paths may
lead above the working directory and to the root; those directories are
there, and what is below them is what has been put there.
-/
import Rowsmith.Assoc
import Rowsmith.Files.Access

namespace Rowsmith.Files

/-- What a file holds. -/
inductive Content
  | text (s : String)
  -- Bytes that are not text.
  | bytes
deriving DecidableEq, Repr

/-- A place in a tree: the names that lead there from the working
directory. It begins with dots above that directory and with a slash at the
root. -/
abbrev Place := List String

/-- The directories and files of a tree. -/
structure FileTree where
  directories : List Place
  files : List (Place × Content)
deriving DecidableEq, Repr

namespace FileTree

def empty : FileTree := ⟨[], []⟩

/-- A place that is a directory in every tree: the working directory, one
above it, or the root. -/
def isAnchor (place : Place) : Bool := place == ["/"] || place.all (· == "..")

/-- The content of the file at a place. -/
def content? (t : FileTree) (place : Place) : Option Content := findAssoc? t.files place

def isFile (t : FileTree) (place : Place) : Bool := (t.content? place).isSome

def isDirectoryAt (t : FileTree) (place : Place) : Bool :=
  isAnchor place || t.directories.contains place

-- ================================================================= paths

def above (place : Place) : Place :=
  if place == ["/"] then place
  else if place.all (· == "..") then place ++ [".."]
  else place.dropLast

/-- The longest name of a file, in bytes. -/
def maxName : Nat := 255

/-- The bytes of a path that is too long. -/
def maxPath : Nat := 4096

def follow (t : FileTree) : Place → List String → Except FileError Place
  | place, [] => .ok place
  | place, step :: steps =>
    if t.isFile place then .error .notDirectory
    else if !t.isDirectoryAt place then .error .missing
    else if step == "" || step == "." then follow t place steps
    else if step == ".." then follow t (above place) steps
    else if maxName < step.utf8ByteSize then .error .nameTooLong
    else follow t (place ++ [step]) steps

/-- The place that a path leads to. -/
def locate (t : FileTree) (p : Path) : Except FileError Place :=
  if p.text.toList.contains '\x00' then .error .zeroInPath
  else if p.text.isEmpty then .error .missing
  else if maxPath ≤ p.text.utf8ByteSize then .error .nameTooLong
  else follow t (if p.isAbsolute then ["/"] else []) (p.text.splitOn "/")

-- ============================================================ operations

/-- The text of the file that a path leads to. -/
def read (t : FileTree) (p : Path) : Except FileError String := do
  let place ← t.locate p
  match t.content? place with
  | some (.text s) => return s
  | some .bytes => throw .notText
  | none => throw (if t.isDirectoryAt place then .isDirectory else .missing)

def write (t : FileTree) (p : Path) (text : String) : Except FileError FileTree := do
  let place ← t.locate p
  if t.isDirectoryAt place then throw .isDirectory
  return { t with files := putAssoc t.files place (.text text) }

def makeDirectory (t : FileTree) (p : Path) : Except FileError FileTree := do
  let place ← t.locate p
  if t.isFile place || t.isDirectoryAt place then throw .exists
  return { t with directories := t.directories ++ [place] }

def isDirectory (t : FileTree) (p : Path) : Bool :=
  match t.locate p with
  | .ok place => t.isDirectoryAt place
  | .error _ => false

/-- A path and those of the directories above it, at most a given number
of them. -/
def ancestors : Nat → Path → List Path
  | 0, _ => []
  | bound + 1, p => p :: (p.parent?.map (ancestors bound)).getD []

/-- Makes the first directory of a list, after those above it if they are
not there. The tree is that of the directories made so far, also when one
of them is refused. -/
def makeFirst (t : FileTree) : List Path → Except FileError Unit × FileTree
  | [] => (.ok (), t)
  | p :: above =>
    if p.components.isEmpty then (.ok (), t)
    else
      match t.makeDirectory p with
      | .ok t => (.ok (), t)
      | .error .missing =>
        match t.makeFirst above with
        | (.error e, t) => (.error e, t)
        | (.ok (), t) =>
          match t.makeDirectory p with
          | .ok t => (.ok (), t)
          | .error e => if t.isDirectory p then (.ok (), t) else (.error e, t)
      | .error e => if t.isDirectory p then (.ok (), t) else (.error e, t)

/-- Makes a directory and those above it, unless they are there. -/
def makeDirectories (t : FileTree) (p : Path) : Except FileError Unit × FileTree :=
  t.makeFirst (ancestors (p.components.length + 1) p)

def access : FileAccess (StateM FileTree) where
  read p := do return (← get).read p
  makeDirectories p := fun t => t.makeDirectories p
  write p text := fun t =>
    match t.write p text with
    | .ok t => (.ok (), t)
    | .error e => (.error e, t)

-- =============================================================== changes

/-- Puts a file at a place, and directories on the way. -/
def put (t : FileTree) (place : Place) (content : Content) : FileTree :=
  let onTheWay := ((List.range place.length).map fun n => place.take n).filter fun d =>
    !t.isDirectoryAt d
  { directories := t.directories ++ onTheWay, files := putAssoc t.files place content }

/-- Removes the file at a place. Its directory stays. -/
def remove (t : FileTree) (place : Place) : FileTree :=
  { t with files := t.files.filter fun entry => entry.1 != place }

/-- The files below the working directory that are new or differ from those
of another tree. -/
def changesFrom (t before : FileTree) : List (Place × Content) :=
  t.files.filter fun (place, content) =>
    place.head? != some "/" && place.head? != some ".." &&
      before.content? place != some content

end FileTree

end Rowsmith.Files
