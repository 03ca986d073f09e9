/-
Paths of files, as text with slashes. Joining keeps the text as it is
written; comparing and taking a parent go by the components, in which
repeated slashes and single dots do not count, except for a dot that
begins the path.
-/

namespace Rowsmith

/-- The components of a path, in the order in which they compare. -/
inductive PathComponent
  | root
  | current
  | parent
  | normal (name : String)
deriving DecidableEq, Repr

namespace PathComponent

def text : PathComponent → String
  | .root => "/"
  | .current => "."
  | .parent => ".."
  | .normal name => name

/-- The position of the kind of a component. -/
def rank : PathComponent → Nat
  | .root => 0
  | .current => 1
  | .parent => 2
  | .normal _ => 3

/-- Components compare by kind, and names by their characters. -/
def order (a b : PathComponent) : Ordering :=
  (compare a.rank b.rank).then (compare a.text b.text)

end PathComponent

/-- The path of a file or directory. -/
structure Path where
  text : String
deriving DecidableEq, Repr

namespace Path

def isAbsolute (p : Path) : Bool := p.text.toList.head? == some '/'

/-- A path below another one. An absolute path stands for itself. -/
def join (base below : Path) : Path :=
  if below.isAbsolute then below
  else if base.text.isEmpty || base.text.toList.getLast? == some '/' then
    ⟨base.text ++ below.text⟩
  else ⟨base.text ++ "/" ++ below.text⟩

/-- The path that leads through directories, from the empty path on. -/
def below (names : List String) : Path := names.foldl (fun path name => path.join ⟨name⟩) ⟨""⟩

/-- The stretches between slashes, each with the text up to its end. The
current stretch and the text before the next character are held in
reverse. -/
def stretches : List Char → List Char → List Char → List (List Char × List Char)
  | current, before, [] => [(current.reverse, before.reverse)]
  | current, before, c :: rest =>
    if c == '/' then (current.reverse, before.reverse) :: stretches [] (c :: before) rest
    else stretches (c :: current) (c :: before) rest

/-- What a stretch is, given whether it is the first of a relative path. A
stretch that does not count is nothing. -/
def componentOf (isFirst : Bool) (stretch : List Char) : Option PathComponent :=
  match stretch with
  | [] => none
  | ['.'] => if isFirst then some .current else none
  | ['.', '.'] => some .parent
  | name => some (.normal (String.ofList name))

/-- The components of a path, each with the text of the path up to its
end. -/
def cuts (p : Path) : List (PathComponent × List Char) :=
  let found := ((stretches [] [] p.text.toList).zipIdx).filterMap fun ((stretch, upTo), i) =>
    (componentOf (i == 0) stretch).map fun c => (c, upTo)
  if p.isAbsolute then (.root, ['/']) :: found else found

def components (p : Path) : List PathComponent := p.cuts.map (·.1)

/-- The path without its last component. The root has no parent, and
neither has the empty path. -/
def parent? (p : Path) : Option Path :=
  match p.cuts.reverse with
  | [] => none
  | (.root, _) :: _ => none
  | [_] => some ⟨""⟩
  | _ :: (_, upTo) :: _ => some ⟨String.ofList upTo⟩

/-- The last component, if it is a name. -/
def fileName? (p : Path) : Option String :=
  match p.components.getLast? with
  | some (.normal name) => some name
  | _ => none

/-- A file name without its extension: what stands before the last dot,
unless that dot begins the name. -/
def stemOf (name : List Char) : List Char :=
  match name.reverse.dropWhile (· != '.') with
  | [] => name
  | _ :: before => if before.isEmpty then name else before.reverse

/-- The file name without its extension. -/
def stem? (p : Path) : Option String :=
  p.fileName?.map fun name => String.ofList (stemOf name.toList)

/-- Lists of components compare like words. -/
def orderComponents : List PathComponent → List PathComponent → Ordering
  | [], [] => .eq
  | [], _ :: _ => .lt
  | _ :: _, [] => .gt
  | a :: as, b :: bs => (a.order b).then (orderComponents as bs)

/-- Paths compare component by component. -/
def order (a b : Path) : Ordering := orderComponents a.components b.components

/-- A path comes before another or names the same file. -/
def le (a b : Path) : Bool := a.order b != .gt

end Path

end Rowsmith
