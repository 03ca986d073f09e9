/-
Line buffers: the texts every statement and every generated file is made
of. A buffer is a list of lines together with the memory of whether
multi-line text went into it; it counts as a block when it has several
lines or remembers having been given a text with a line feed.

Lines enter one at a time through `push`, which refuses a line break, so
every buffer built from the empty one by adding lines or texts holds
single lines only. Two operations bypass the test: `append` and
`appendIndented` take over lines that were tested before, and `map`
changes lines freely.
-/
import Rowsmith.Defect

namespace Rowsmith.Text

/-- An ordered list of lines, and whether a block was forced. -/
structure Lines where
  lines : List String
  forced : Bool
deriving DecidableEq, Repr

-- ========================================================== indentation

/-- The spaces of `n` levels, four to a level. -/
def indentation (n : Nat) : String :=
  String.ofList (List.replicate (4 * n) ' ')

/-- The delimiter that places each following line at level `n`. -/
def lineDelimiter (n : Nat) : String :=
  "\n" ++ indentation n

-- ============================================================== joining

/-- Items with a comma and a space between them. -/
def commaJoin (items : List String) : String :=
  String.intercalate ", " items

/-- Items with the conjunction of conditions between them. -/
def andJoin (items : List String) : String :=
  String.intercalate " AND " items

/-- `n` copies of an item, joined by commas. -/
def commaRepeat (item : String) (n : Nat) : String :=
  commaJoin (List.replicate n item)

-- ======================================================== lines of text

/-- A line break is a line feed or a carriage return. -/
def isLineBreak (c : Char) : Bool :=
  c == '\n' || c == '\r'

def isSingleLine (s : String) : Bool :=
  s.toList.all fun c => !isLineBreak c

/-- The lines of a text. A line feed ends a line, and so does a carriage
return directly before a line feed; a text that ends in a line feed has
no further, empty line. -/
def textLines : List Char → List (List Char)
  | [] => []
  | '\n' :: rest => [] :: textLines rest
  | '\r' :: '\n' :: rest => [] :: textLines rest
  | c :: rest =>
    match textLines rest with
    | [] => [[c]]
    | line :: more => (c :: line) :: more

namespace Lines

-- ============================================================= building

def empty : Lines := ⟨[], false⟩

instance : Inhabited Lines := ⟨empty⟩

/-- Adds one line, which must hold no line break. -/
def push (b : Lines) (line : String) : Except Defect Lines :=
  if isSingleLine line then .ok { b with lines := b.lines ++ [line] }
  else .error (.lineBreak line)

/-- Adds lines one after another; the first that holds a line break is
reported. -/
def pushAll (b : Lines) (lines : List String) : Except Defect Lines :=
  lines.foldlM push b

/-- Adds the lines of a text, forcing a block if the text holds a line
feed. -/
def pushText (b : Lines) (text : String) : Except Defect Lines := do
  let b ← b.pushAll ((textLines text.toList).map String.ofList)
  return { b with forced := b.forced || text.toList.contains '\n' }

/-- Adds the lines of several texts. -/
def pushTexts (b : Lines) (texts : List String) : Except Defect Lines :=
  texts.foldlM pushText b

/-- Adds the lines of another buffer, which passes on its memory of
being a block. -/
def append (a b : Lines) : Lines :=
  ⟨a.lines ++ b.lines, a.forced || b.forced⟩

instance : Append Lines := ⟨append⟩

/-- One line at level `n`; an empty line stays empty. -/
def indentLine (n : Nat) (line : String) : String :=
  if line.isEmpty then line else indentation n ++ line

/-- Adds the lines of another buffer at level `n`. Its memory of being a
block stays behind. -/
def appendIndented (a b : Lines) (n : Nat) : Lines :=
  ⟨a.lines ++ b.lines.map (indentLine n), a.forced⟩

/-- Forces a block if asked to; a forced block is never released. -/
def forceBlock (b : Lines) (block : Bool) : Lines :=
  { b with forced := b.forced || block }

/-- Changes every line, forgetting that a block was forced. -/
def map (b : Lines) (convert : String → String) : Lines :=
  ⟨b.lines.map convert, false⟩

-- ============================================================== reading

def isEmpty (b : Lines) : Bool := b.lines.isEmpty

def length (b : Lines) : Nat := b.lines.length

/-- Several lines, or a forced block. -/
def isBlock (b : Lines) : Bool :=
  b.forced || b.lines.length > 1

/-- The lines with a delimiter between them. -/
def join (b : Lines) (delimiter : String) : String :=
  String.intercalate delimiter b.lines

/-- The text of the buffer: one line per line. -/
def text (b : Lines) : String := b.join "\n"

/-- The text with every line after the first placed at level `n`. -/
def textIndented (b : Lines) (n : Nat) : String := b.join (lineDelimiter n)

-- =============================================================== lemmas

@[simp] theorem lines_append (a b : Lines) : (a ++ b).lines = a.lines ++ b.lines := rfl

@[simp] theorem length_append (a b : Lines) : (a ++ b).length = a.length + b.length :=
  List.length_append

/-- What `push` accepts, it adds at the end. -/
theorem push_eq_ok {b b' : Lines} {line : String} :
    b.push line = .ok b' ↔
      isSingleLine line = true ∧ b' = { b with lines := b.lines ++ [line] } := by
  unfold push
  by_cases h : isSingleLine line = true
  · simp only [h, if_true, true_and, Except.ok.injEq]
    exact ⟨Eq.symm, Eq.symm⟩
  · simp [h]

end Lines

end Rowsmith.Text
