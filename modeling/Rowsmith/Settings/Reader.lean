/-
The text of settings, in the TOML format: lines with a pair or a heading,
comments, and values that are strings of four kinds, numbers, truth
values, dates and times, lists and tables.

A reader takes characters off the front of a text. A text that breaks a
rule of the format is refused as a whole, and it does not matter by which
rule.
-/
import Rowsmith.Settings.Value
import Rowsmith.Text.CharCode

namespace Rowsmith.Settings

/-- Takes characters off the front of a text, or refuses it. -/
abbrev Reader := StateT (List Char) Option

namespace Reader

-- ================================================================ basics

def rest : Reader (List Char) := get

def accept (c : Char) : Reader Unit := do
  match ← get with
  | d :: chars => if c == d then set chars else failure
  | [] => failure

def acceptText (text : String) : Reader Unit := text.toList.forM accept

def isNext (text : String) : Reader Bool := do return text.toList.isPrefixOf (← rest)

/-- Reads a given text if it comes next, and tells whether it did. -/
def acceptIf (text : String) : Reader Bool := do
  if ← isNext text then
    acceptText text
    return true
  return false

/-- Reads all characters of a class that come next. -/
def takeWhile (p : Char → Bool) : Reader (List Char) := do
  let chars ← get
  set (chars.dropWhile p)
  return chars.takeWhile p

/-- Reads one character of a class. -/
def takeOne (p : Char → Bool) : Reader Char := do
  match ← get with
  | c :: chars => if p c then set chars *> pure c else failure
  | [] => failure

/-- Repeats a step until it has no result, at most a given number of
times. -/
def collectUpTo {α : Type} (step : Reader (Option α)) : Nat → Reader (List α)
  | 0 => failure
  | bound + 1 => do
    match ← step with
    | none => return []
    | some a => return a :: (← collectUpTo step bound)

/-- Repeats a step until it has no result. A step with a result reads a
character, so there are at most as many as characters left. -/
def collect {α : Type} (step : Reader (Option α)) : Reader (List α) := do
  collectUpTo step ((← rest).length + 1)

-- ================================================================ blanks

def isBlank (c : Char) : Bool := c == ' ' || c == '\t'

/-- Characters that strings and comments hold as they are. -/
def isPlain (c : Char) : Bool := c == '\t' || (' ' ≤ c && c != '\x7f')

def blanks : Reader Unit := do
  let _ ← takeWhile isBlank

/-- Reads a line break if one comes next, and tells whether it did. -/
def lineBreakIf : Reader Bool := do
  if ← acceptIf "\n" then return true
  acceptIf "\r\n"

/-- Reads what may follow at the end of a line, and its line break unless
the text ends. -/
def lineEnd : Reader Unit := do
  blanks
  if ← acceptIf "#" then
    let _ ← takeWhile isPlain
  if (← rest).isEmpty then return
  if ← lineBreakIf then return
  failure

/-- A text without the blanks, line breaks and comments at its front. The
flag tells that the text is inside a comment. -/
def dropGap : Bool → List Char → List Char
  | false, ' ' :: chars => dropGap false chars
  | false, '\t' :: chars => dropGap false chars
  | false, '#' :: chars => dropGap true chars
  | _, '\n' :: chars => dropGap false chars
  | _, '\r' :: '\n' :: chars => dropGap false chars
  | true, c :: chars => if isPlain c then dropGap true chars else c :: chars
  | _, chars => chars

/-- Skips blanks, line breaks and comments. -/
def gap : Reader Unit := modify (dropGap false)

def blankLines : Reader Unit := do
  let _ ← collect do
    if ← lineBreakIf then return some ()
    if (← takeWhile isBlank).isEmpty then return none
    return some ()

-- =============================================================== strings

/-- The character of a code in base sixteen. -/
def charOfDigits? (digits : List Char) : Option Char := do
  let values ← digits.mapM Text.hexValue?
  Text.charOfCode? (values.foldl (fun code digit => 16 * code + digit) 0)

/-- Reads the code of a character, of a given number of digits. -/
def charCode (count : Nat) : Reader Char := do
  let chars ← rest
  if chars.length < count then failure
  set (chars.drop count)
  match charOfDigits? (chars.take count) with
  | some c => return c
  | none => failure

/-- Reads what follows the backslash of an escape. -/
def escape : Reader Char := do
  match ← takeOne fun _ => true with
  | 'b' => return '\x08'
  | 't' => return '\t'
  | 'n' => return '\n'
  | 'f' => return '\x0c'
  | 'r' => return '\r'
  | '"' => return '"'
  | '\\' => return '\\'
  | 'u' => charCode 4
  | 'U' => charCode 8
  | _ => failure

/-- Reads a piece of a string on one line, unless it ends here. -/
def piece (quote : Char) (hasEscapes : Bool) : Reader (Option (List Char)) := do
  let chars ← takeWhile fun c => isPlain c && c != quote && !(hasEscapes && c == '\\')
  if !chars.isEmpty then return some chars
  if hasEscapes then
    if ← acceptIf "\\" then return some [← escape]
  return none

def quotesAhead (quote : Char) : Reader (List Char) := do
  return (← rest).takeWhile (· == quote)

/-- A backslash at the end of a line comes next. -/
def isContinuation (chars : List Char) : Bool :=
  match chars with
  | '\\' :: more =>
    match more.dropWhile isBlank with
    | '\n' :: _ => true
    | '\r' :: '\n' :: _ => true
    | _ => false
  | _ => false

/-- Reads a piece of a string on several lines, unless it ends here. A
backslash at the end of a line takes the blanks and line breaks that
follow with it; one or two quotes are part of the string. -/
def longPiece (quote : Char) (hasEscapes : Bool) : Reader (Option (List Char)) := do
  if hasEscapes && isContinuation (← rest) then
    accept '\\'
    blankLines
    return some []
  if ← lineBreakIf then return some ['\n']
  let quotes ← quotesAhead quote
  if 0 < quotes.length && quotes.length < 3 then
    set ((← rest).drop quotes.length)
    return some quotes
  piece quote hasEscapes

/-- Reads a string on one line, from its quote on. -/
def shortString (quote : Char) (hasEscapes : Bool) : Reader String := do
  accept quote
  let pieces ← collect (piece quote hasEscapes)
  accept quote
  return String.ofList pieces.flatten

/-- Reads a string on several lines, from its three quotes on. A line break
right behind them does not count. Up to two quotes before the three last
ones belong to the string. -/
def longString (quote : Char) (hasEscapes : Bool) : Reader String := do
  acceptText (String.ofList [quote, quote, quote])
  let _ ← lineBreakIf
  let pieces ← collect (longPiece quote hasEscapes)
  let quotes ← quotesAhead quote
  if quotes.length < 3 || 5 < quotes.length then failure
  set ((← rest).drop quotes.length)
  return String.ofList (pieces.flatten ++ quotes.drop 3)

def string : Reader String := do
  if ← isNext "\"\"\"" then longString '"' true
  else if ← isNext "'''" then longString '\'' false
  else if ← isNext "'" then shortString '\'' false
  else shortString '"' true

-- ================================================================== keys

/-- Characters of a key without quotes. -/
def isKeyChar (c : Char) : Bool := c.isAlphanum || c == '-' || c == '_'

/-- Reads one part of a key, with the blanks around it. -/
def keyPart : Reader String := do
  blanks
  let part ←
    if ← isNext "\"" then shortString '"' true
    else if ← isNext "'" then shortString '\'' false
    else do
      let chars ← takeWhile isKeyChar
      if chars.isEmpty then failure
      pure (String.ofList chars)
  blanks
  return part

/-- The depth that keys and values do not reach. -/
def maxDepth : Nat := 80

/-- Reads a key: its last part and the parts before it. -/
def key : Reader (List String × String) := do
  let first ← keyPart
  let more ← collect do
    if ← acceptIf "." then return some (← keyPart)
    return none
  let parts := first :: more
  if maxDepth ≤ parts.length then failure
  return (parts.dropLast, more.getLast?.getD first)

-- =============================================================== numbers

/-- The digits of a base up to sixteen. -/
def isDigitOf (base : Nat) (c : Char) : Bool :=
  match Text.hexValue? c with
  | some value => value < base
  | none => false

/-- The digits at the front of a text. An underscore may stand between
two. -/
def digitsOf (base : Nat) : List Char → List Char × List Char
  | [] => ([], [])
  | '_' :: c :: chars =>
    if isDigitOf base c then
      let (digits, more) := digitsOf base chars
      (c :: digits, more)
    else ([], '_' :: c :: chars)
  | c :: chars =>
    if isDigitOf base c then
      let (digits, more) := digitsOf base chars
      (c :: digits, more)
    else ([], c :: chars)

def digits (base : Nat) : Reader (List Char) := do
  let first ← takeOne (isDigitOf base)
  let (more, left) := digitsOf base (← rest)
  set left
  return first :: more

/-- The number that digits stand for. -/
def numberOf (base : Nat) (digits : List Char) : Nat :=
  digits.foldl (fun n c => base * n + (Text.hexValue? c).getD 0) 0

/-- A whole number, if it fits into 64 bits. -/
def wholeNumber (n : Int) : Reader Value :=
  if -9223372036854775808 ≤ n ∧ n ≤ 9223372036854775807 then pure (.whole n) else failure

/-- Reads a whole number in another base, from behind its mark on. -/
def basedNumber (base : Nat) : Reader Value := do
  wholeNumber (numberOf base (← digits base))

def sign : Reader Bool := do
  if ← acceptIf "-" then return true
  let _ ← acceptIf "+"
  return false

/-- Reads the whole part of a decimal, which begins with a zero only if it
is zero. -/
def wholePart : Reader (List Char) := do
  if ← acceptIf "0" then return ['0'] else digits 10

/-- Reads a decimal: a whole number, or one with a fraction, an exponent or
both. A number too large for the binary format is refused, unless it is
negative. -/
def decimal : Reader Value := do
  let negative ← sign
  if ← acceptIf "inf" then return .real (.infinite negative)
  if ← acceptIf "nan" then return .real .undefined
  let whole ← wholePart
  let fraction ← if ← acceptIf "." then some <$> digits 10 else pure none
  let power : Option Int ←
    if ← acceptIf "e" <||> acceptIf "E" then do
      let negative ← sign
      let size := numberOf 10 (← digits 10)
      pure (some (if negative then -size else size))
    else pure none
  match fraction, power with
  | none, none =>
    let size : Int := numberOf 10 whole
    wholeNumber (if negative then -size else size)
  | _, _ =>
    let places := fraction.getD []
    match Decimal.Binary.nearest negative (numberOf 10 (whole ++ places))
        (power.getD 0 - places.length) with
    | .infinite false => failure
    | n => return .real n

def number : Reader Value := do
  if ← acceptIf "0x" then basedNumber 16
  else if ← acceptIf "0o" then basedNumber 8
  else if ← acceptIf "0b" then basedNumber 2
  else decimal

-- ======================================================= dates and times

/-- Reads a number of exactly so many digits, within bounds. -/
def field (count low high : Nat) : Reader Nat := do
  let chars ← rest
  let shown := chars.take count
  if shown.length < count || !shown.all Char.isDigit then failure
  set (chars.drop count)
  let value := numberOf 10 shown
  if low ≤ value ∧ value ≤ high then return value else failure

def daysOf (year month : Nat) : Nat :=
  if month = 2 then
    if year % 4 = 0 ∧ (year % 100 ≠ 0 ∨ year % 400 = 0) then 29 else 28
  else if month ∈ [4, 6, 9, 11] then 30
  else 31

def date : Reader Unit := do
  let year ← field 4 0 9999
  accept '-'
  let month ← field 2 1 12
  accept '-'
  let _ ← field 2 1 (daysOf year month)

/-- Reads a time of day. A minute may have a leap second. -/
def time : Reader Unit := do
  let _ ← field 2 0 23
  accept ':'
  let _ ← field 2 0 59
  accept ':'
  let _ ← field 2 0 60
  if ← acceptIf "." then
    let _ ← takeOne Char.isDigit
    let _ ← takeWhile Char.isDigit

/-- Reads a difference to the time of reference, if one comes next. -/
def offset : Reader Unit := do
  if ← acceptIf "Z" <||> acceptIf "z" then return
  if ← acceptIf "+" <||> acceptIf "-" then
    let _ ← field 2 0 23
    accept ':'
    let _ ← field 2 0 59

/-- Digits of a given number come next, followed by a given character. -/
def isField (count : Nat) (follower : Char) : Reader Bool := do
  let chars ← rest
  return (chars.takeWhile Char.isDigit).length = count && (chars.drop count).head? == some follower

/-- Reads a time of day and its offset, if one follows a date. A blank
behind a date may also be just a blank. -/
def timeOfDate : Reader Unit := do
  let begins ← match ← rest with
    | ' ' :: c :: _ => pure c.isDigit
    | c :: _ => pure (c == 'T' || c == 't')
    | [] => pure false
  if begins then
    let _ ← takeOne fun _ => true
    time
    offset

/-- Reads a number, a date or a time. -/
def numberOrMoment : Reader Value := do
  if ← isField 4 '-' then
    date
    timeOfDate
    return .moment
  if ← isField 2 ':' then
    time
    return .moment
  number

-- ================================================================ values

/-- Reads the pair of a key and a value. -/
def pair (value : Reader Value) : Reader Pair := do
  let (path, key) ← key
  accept '='
  blanks
  return ⟨path, key, ← value⟩

/-- Reads a list, from behind its bracket on. A comma may follow the last
item. -/
def listItems (value : Reader Value) : Reader Value := do
  let items ← collect do
    gap
    if ← acceptIf "]" then return none
    let item ← value
    gap
    if !(← acceptIf ",") && !(← isNext "]") then failure
    return some item
  return .list items

/-- Reads a table, from behind its brace on. No comma may follow the last
pair. -/
def tablePairs (value : Reader Value) : Reader Value := do
  blanks
  if ← acceptIf "\x7d" then return .table .braces []
  let first ← pair value
  blanks
  let more ← collect do
    if ← acceptIf "\x7d" then return none
    accept ','
    let next ← pair value
    blanks
    return some next
  match Value.ofPairs? (first :: more) with
  | some table => return table
  | none => failure

/-- Reads a value that holds no others. -/
def scalar : Reader Value := do
  match (← rest).head? with
  | some '"' | some '\'' => return .text (← string)
  | some 't' => acceptText "true" *> pure (.truth true)
  | some 'f' => acceptText "false" *> pure (.truth false)
  | _ => numberOrMoment

/-- Reads a value of less than a given depth. -/
def value : Nat → Reader Value
  | 0 => scalar
  | depth + 1 => do
    if ← acceptIf "[" then listItems (value depth)
    else if ← acceptIf "\x7b" then tablePairs (value depth)
    else scalar

-- ================================================================= lines

/-- What a line adds to a text. -/
inductive Line
  | nothing
  | pair (p : Pair)
  | heading (h : Heading)

/-- Reads a line, unless the text ends. -/
def line : Reader (Option Line) := do
  blanks
  match (← rest).head? with
  | none => return none
  | some '#' | some '\n' | some '\r' =>
    lineEnd
    return some .nothing
  | some '[' =>
    if ← acceptIf "[[" then
      let (path, key) ← key
      acceptText "]]"
      lineEnd
      return some (.heading (.item path key))
    else
      accept '['
      let (path, key) ← key
      accept ']'
      lineEnd
      return some (.heading (.table path key))
  | some _ =>
    let p ← pair (value (maxDepth - 1))
    lineEnd
    return some (.pair p)

/-- The sections of a text, with the pairs before the first heading. -/
def sectionsOf (lines : List Line) : List Section :=
  let (pairs, sections) := lines.foldr (fun line (pairs, sections) =>
    match line with
    | .nothing => (pairs, sections)
    | .pair p => (p :: pairs, sections)
    | .heading h => ([], ⟨h, pairs⟩ :: sections)) ([], [])
  ⟨.top, pairs⟩ :: sections

end Reader

/-- The table that a settings text describes. A byte order mark at the
front does not count. -/
def Value.ofText? (text : String) : Option Value := do
  let chars := match text.toList with
    | '\uFEFF' :: chars => chars
    | chars => chars
  let (lines, _) ← (Reader.collect Reader.line).run chars
  Value.ofSections? (Reader.sectionsOf lines)

end Rowsmith.Settings
