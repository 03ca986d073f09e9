/-
Literals of the source language: how far a literal reaches, and the value
of a string literal.

Every scanner takes the characters from the first of the literal on and
gives those after it, or nothing if no such literal begins here. What
looks like the beginning of a literal but has no end is therefore no
literal at all.
-/
import Rowsmith.Text.CharCode
import Rowsmith.Text.IdentChar

namespace Rowsmith.Source

open Text

/-- The rest of a text after some of its characters were read. -/
abbrev Scanner := List Char → Option (List Char)

-- ========================================================== identifiers

/-- Reads an identifier or keyword without a marker. -/
def scanWord : Scanner
  | [] => none
  | c :: rest => if isIdentStart c then some (rest.dropWhile isIdentContinue) else none

/-- Reads the suffix of a literal, if it has one. -/
def dropSuffix (chars : List Char) : List Char := (scanWord chars).getD chars

-- ============================================================== escapes

/-- Reads the braces of an escape by code: one to six digits, with
underscores after the first. The value and the number of digits so far
come first. -/
def scanCode : Nat → Nat → List Char → Option (Char × List Char)
  | _, _, [] => none
  | value, digits, c :: rest =>
    match hexValue? c with
    | some digit => if digits = 6 then none else scanCode (16 * value + digit) (digits + 1) rest
    | none =>
      if c == '_' && digits > 0 then scanCode value digits rest
      else if c == '\x7d' && digits > 0 then (charOfCode? value).map fun char => (char, rest)
      else none

/-- The kinds of text that escapes may stand in. -/
inductive EscapeMode
  -- Characters; an escaped byte is below 128.
  | chars
  -- Bytes; there are no escapes by code.
  | bytes
  -- Characters, among which there is no zero.
  | nonzero
deriving DecidableEq, Repr

/-- The characters that a backslash and one letter stand for. -/
def simpleEscape? (mode : EscapeMode) : Char → Option Char
  | 'n' => some '\n'
  | 'r' => some '\r'
  | 't' => some '\t'
  | '\\' => some '\\'
  | '\'' => some '\''
  | '"' => some '"'
  | '0' => if mode = .nonzero then none else some '\x00'
  | _ => none

/-- Reads an escape after its backslash. -/
def scanEscape (mode : EscapeMode) : List Char → Option (Char × List Char)
  | 'x' :: a :: b :: rest => do
    let code := 16 * (← hexValue? a) + (← hexValue? b)
    if mode = .chars ∧ code > 127 then none
    else if mode = .nonzero ∧ code = 0 then none
    else some (Char.ofNat code, rest)
  | 'u' :: '\x7b' :: rest => do
    let (char, rest) ← scanCode 0 0 rest
    if mode = .bytes then none
    else if mode = .nonzero ∧ char.toNat = 0 then none
    else some (char, rest)
  | c :: rest => (simpleEscape? mode c).map fun char => (char, rest)
  | [] => none

/-- Drops the blanks that follow an escaped end of line. A lone carriage
return is not among them. -/
def dropContinuation : Scanner
  | [] => none
  | '\r' :: '\n' :: rest => dropContinuation rest
  | '\r' :: _ => none
  | c :: rest =>
    if c == ' ' || c == '\t' || c == '\n' then dropContinuation rest else some (c :: rest)

-- ============================================================== strings

/-- Reads a string from its first character on, with its value. A carriage
return must stand before a line feed, and the two are one line feed in the
value. The bound is at least the number of characters left. -/
def scanCooked (mode : EscapeMode) : Nat → List Char → Option (List Char × List Char)
  | 0, _ => none
  | _ + 1, [] => none
  | bound + 1, c :: rest =>
    let keep (char : Char) (rest : List Char) :=
      (scanCooked mode bound rest).map fun (value, rest) => (char :: value, rest)
    match c, rest with
    | '"', rest => some ([], rest)
    | '\r', '\n' :: rest => keep '\n' rest
    | '\r', _ => none
    | '\\', '\n' :: rest => (dropContinuation ('\n' :: rest)).bind (scanCooked mode bound)
    | '\\', '\r' :: rest => (dropContinuation ('\r' :: rest)).bind (scanCooked mode bound)
    | '\\', rest => (scanEscape mode rest).bind fun (char, rest) => keep char rest
    | c, rest =>
      if (mode = .bytes ∧ c.toNat > 127) ∨ (mode = .nonzero ∧ c.toNat = 0) then none
      else keep c rest

/-- Reads a string after its opening quote, with its value. -/
def scanString (mode : EscapeMode) (chars : List Char) : Option (List Char × List Char) :=
  scanCooked mode (chars.length + 1) chars

/-- Reads raw text up to a quote and the same number of marks, with its
value. -/
def scanRawText (mode : EscapeMode) (marks : Nat) : List Char → Option (List Char × List Char)
  | [] => none
  | '"' :: rest =>
    if (rest.take marks).length = marks ∧ (rest.take marks).all (· == '#') then
      some ([], rest.drop marks)
    else (scanRawText mode marks rest).map fun (value, rest) => ('"' :: value, rest)
  | '\r' :: '\n' :: rest =>
    (scanRawText mode marks rest).map fun (value, rest) => ('\r' :: '\n' :: value, rest)
  | '\r' :: _ => none
  | c :: rest =>
    if (mode = .bytes ∧ c.toNat > 127) ∨ (mode = .nonzero ∧ c.toNat = 0) then none
    else (scanRawText mode marks rest).map fun (value, rest) => (c :: value, rest)

/-- Reads a raw string after its letter, with its value. At most 255 marks
may stand before the quote. -/
def scanRaw (mode : EscapeMode) (chars : List Char) : Option (List Char × List Char) :=
  let marks := (chars.takeWhile (· == '#')).length
  match chars.drop marks with
  | '"' :: rest => if marks > 255 then none else scanRawText mode marks rest
  | _ => none

/-- Reads a string literal of any kind, with its value. -/
def scanText : List Char → Option (List Char × List Char)
  | '"' :: rest => scanString .chars rest
  | 'r' :: rest => scanRaw .chars rest
  | 'b' :: '"' :: rest => scanString .bytes rest
  | 'b' :: 'r' :: rest => scanRaw .bytes rest
  | 'c' :: '"' :: rest => scanString .nonzero rest
  | 'c' :: 'r' :: rest => scanRaw .nonzero rest
  | _ => none

-- =========================================================== characters

/-- Reads a character or byte after its opening quote. -/
def scanChar (mode : EscapeMode) : Scanner
  | '\\' :: rest => do
    let (_, rest) ← scanEscape mode rest
    match rest with
    | '\'' :: rest => some rest
    | _ => none
  | c :: '\'' :: rest => if mode = .bytes ∧ c.toNat > 127 then none else some rest
  | _ => none

/-- Reads a character or byte literal. -/
def scanQuotedChar : Scanner
  | 'b' :: '\'' :: rest => scanChar .bytes rest
  | '\'' :: rest => scanChar .chars rest
  | _ => none

-- ============================================================== numbers

def isDecimal (c : Char) : Bool := '0' ≤ c && c ≤ '9'

/-- Reads the suffix of a number and refuses what runs on after it. -/
def endNumber (chars : List Char) : Option (List Char) :=
  let rest := dropSuffix chars
  match rest with
  | c :: _ => if isIdentContinue c then none else some rest
  | [] => some []

/-- Reads the digits of an exponent after its letter and sign; there must
be one. -/
def scanExponent (chars : List Char) : Option (List Char) :=
  let unsigned := match chars.dropWhile (· == '_') with
    | '+' :: rest => rest.dropWhile (· == '_')
    | '-' :: rest => rest.dropWhile (· == '_')
    | rest => rest
  match unsigned with
  | c :: rest => if isDecimal c then some (rest.dropWhile fun c => isDecimal c || c == '_') else none
  | [] => none

/-- Reads digits with a point or an exponent, or both. A point before a
second point or a name does not belong to a number, and an exponent
without digits leaves a number that ends before its letter, if that has a
point. -/
def scanFloatDigits : Scanner
  | [] => none
  | c :: rest =>
    if isDecimal c then
      let run (chars : List Char) := chars.dropWhile fun c => isDecimal c || c == '_'
      let withExponent (pointed : Bool) (chars : List Char) : Option (List Char) :=
        match chars with
        | 'e' :: more => (scanExponent more).or (if pointed then some chars else none)
        | 'E' :: more => (scanExponent more).or (if pointed then some chars else none)
        | _ => if pointed then some chars else none
      match run rest with
      | '.' :: after =>
        match after with
        | c :: _ => if c == '.' || isIdentStart c then none else withExponent true (run after)
        | [] => some []
      | chars => withExponent false chars
    else none

/-- Reads the digits of a base. A base with a letter takes underscores
before the first digit; a digit that the base does not have ends the
reading, or refuses it where it is a decimal digit. -/
def scanDigits (base : Nat) : Bool → Scanner
  | isEmpty, [] => if isEmpty then none else some []
  | isEmpty, c :: rest =>
    if c == '_' then if isEmpty && base == 10 then none else scanDigits base isEmpty rest
    else
      match hexValue? c with
      | some digit =>
        if digit < base then scanDigits base false rest
        else if isDecimal c || isEmpty then none
        else some (c :: rest)
      | none => if isEmpty then none else some (c :: rest)

/-- Reads an integer without its suffix. -/
def scanInteger : Scanner
  | '0' :: 'x' :: rest => scanDigits 16 true rest
  | '0' :: 'o' :: rest => scanDigits 8 true rest
  | '0' :: 'b' :: rest => scanDigits 2 true rest
  | chars => scanDigits 10 true chars

def scanNumber (chars : List Char) : Option (List Char) :=
  ((scanFloatDigits chars).bind endNumber).or ((scanInteger chars).bind endNumber)

-- ============================================================= literals

def scanLiteral (chars : List Char) : Option (List Char) :=
  ((scanText chars).map fun (_, rest) => dropSuffix rest).or
    (((scanQuotedChar chars).map dropSuffix).or (scanNumber chars))

/-- The value of a string literal; other literals have none. -/
def stringValue? (literal : String) : Option String :=
  match literal.toList with
  | '"' :: rest => (scanString .chars rest).map fun (value, _) => String.ofList value
  | 'r' :: rest => (scanRaw .chars rest).map fun (value, _) => String.ofList value
  | _ => none

def isNumberLiteral (literal : String) : Bool := (literal.toList.head?.map isDecimal).getD false

/-- The literal is a number with a point or an exponent. -/
def isFloatLiteral (literal : String) : Bool :=
  ((scanFloatDigits literal.toList).bind endNumber).isSome

end Rowsmith.Source
