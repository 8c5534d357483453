import GraphQLProjections.Literal
import GraphQLProjections.Text.Numeral

/-! Tokens of GraphQL documents and their positions. Names, numbers and strings carry their
decoded values, so a token that cannot be decoded is unreadable as a whole. A document is cut
into tokens up to its end or up to the first unreadable token; both end the list. -/
namespace GraphQLProjections.Document

/-- Lines and columns count from one. -/
structure Position where
  line : Nat
  column : Nat
  deriving DecidableEq, Repr, Inhabited

def Position.start : Position := ⟨1, 1⟩

inductive Lexeme where
  | mark (symbol : Char)
  | spread
  | name (text : String)
  | integer (value : Int)
  | float (value : Binary64)
  | string (value : String)
  | unreadable
  | finish
  deriving DecidableEq, Repr, Inhabited

structure Token where
  lexeme : Lexeme
  position : Position
  deriving Repr, Inhabited

def nestingLimit : Nat := 50

def isNameStart (c : Char) : Bool := c.isAlpha || c == '_'
def isNamePart (c : Char) : Bool := c.isAlphanum || c == '_'

/-- The first character after blanks and comments, and where it stands. A tab is eight columns
wide, a carriage return and a byte order mark have no width, and the end of a comment starts a
line. -/
def skipBlanks (position : Position) : List Char → List Char × Position
  | [] => ([], position)
  | c :: rest =>
    if c = '\n' then skipBlanks ⟨position.line + 1, 1⟩ rest
    else if c = '\t' then skipBlanks ⟨position.line, position.column + 8⟩ rest
    else if c = ' ' ∨ c = ',' then skipBlanks ⟨position.line, position.column + 1⟩ rest
    else if c = '\r' ∨ c.toNat = 0xFEFF then skipBlanks position rest
    else if c = '#' then skipComment position rest
    else (c :: rest, position)
where
  /-- A comment that runs to the end of the document has no width. -/
  skipComment (position : Position) : List Char → List Char × Position
  | [] => ([], position)
  | c :: rest =>
    if c = '\n' ∨ c = '\r' then skipBlanks ⟨position.line + 1, 1⟩ rest
    else skipComment position rest

/-! ### Numbers -/

/-- The characters that end a number; anything else up to them must be part of it. -/
def endsNumber (c : Char) : Bool :=
  " \n\r\t,#!$:=@|&()[]\x7b\x7d".toList.contains c

def digitsValue (digits : List Char) : Nat :=
  digits.foldl (fun value c => 10 * value + (c.toNat - '0'.toNat)) 0

def areDigits (cs : List Char) : Bool := cs.all Char.isDigit

def unsigned : List Char → Bool × List Char
  | '-' :: rest => (true, rest)
  | cs => (false, cs)

def isIntegerText (cs : List Char) : Bool :=
  match (unsigned cs).2 with
  | [] => false
  | ['0'] => true
  | '0' :: _ => false
  | digits => areDigits digits

/-- The power of a float starts with a sign or a digit from 1 to 8. -/
def isPowerText : List Char → Bool
  | [] => false
  | c :: rest => (c == '-' || c == '+' || ('1' ≤ c && c ≤ '8')) && areDigits rest

def powerValue? (cs : List Char) : Option Int :=
  let (negative, digits) := match cs with
    | '-' :: rest => (true, rest)
    | '+' :: rest => (false, rest)
    | digits => (false, digits)
  if digits.isEmpty then none
  else if negative then some (-(digitsValue digits : Int))
  else some (digitsValue digits)

def splitAtLast? (p : Char → Bool) : List Char → Option (List Char × List Char)
  | [] => none
  | c :: rest =>
    match splitAtLast? p rest with
    | some (before, after) => some (c :: before, after)
    | none => if p c then some ([], rest) else none

def isPoint (c : Char) : Bool := c == '.'
def isPowerMark (c : Char) : Bool := c == 'e' || c == 'E'

def floatOf (whole fraction : List Char) (power : Int) : Lexeme :=
  let (negative, digits) := unsigned whole
  .float (Binary64.ofDecimal negative (digitsValue (digits ++ fraction)) (power - fraction.length))

/-- A number text is an integer of 64 bits, or a float split at its last point and at its last
power mark. -/
def numberLexeme (cs : List Char) : Lexeme :=
  match splitAtLast? isPowerMark cs with
  | some (mantissa, power) =>
    match (if power.any isPoint then none else powerValue? power) with
    | none => .unreadable
    | some value =>
      let (whole, fraction) := (splitAtLast? isPoint mantissa).getD (mantissa, ['0'])
      if isIntegerText whole && !fraction.isEmpty && areDigits fraction && isPowerText power then
        floatOf whole fraction value
      else .unreadable
  | none =>
    match splitAtLast? isPoint cs with
    | some (whole, fraction) =>
      if isIntegerText whole && !fraction.isEmpty && areDigits fraction then
        floatOf whole fraction 0
      else .unreadable
    | none =>
      if isIntegerText cs then
        let (negative, digits) := unsigned cs
        let value : Int := if negative then -(digitsValue digits : Int) else digitsValue digits
        let limit : Int := Nat.pow 2 63
        if -limit ≤ value ∧ value < limit then .integer value else .unreadable
      else .unreadable

/-! ### Strings -/

/-- The character of four hexadecimal digits; a plus sign may stand for the first of them. -/
def escapedCode? (cs : List Char) : Option Char :=
  let digits := match cs with
    | '+' :: rest => rest
    | _ => cs
  match Text.hexNumber? digits with
  | some code => if code.isValidChar then some (Char.ofNat code) else none
  | none => none

def unescape? : List Char → Option (List Char)
  | [] => some []
  | '\\' :: 'u' :: a :: b :: c :: d :: rest =>
    match escapedCode? [a, b, c, d], unescape? rest with
    | some code, some decoded => some (code :: decoded)
    | _, _ => none
  | '\\' :: c :: rest =>
    match simpleEscape? c, unescape? rest with
    | some decodedChar, some decoded => some (decodedChar :: decoded)
    | _, _ => none
  | ['\\'] => none
  | c :: rest => (unescape? rest).map (c :: ·)
where
  /-- The letter b stands for U+0010. -/
  simpleEscape? (c : Char) : Option Char :=
    if c = '"' ∨ c = '\\' ∨ c = '/' then some c
    else if c = 'b' then some '\x10'
    else if c = 'f' then some '\x0c'
    else if c = 'n' then some '\n'
    else if c = 'r' then some '\r'
    else if c = 't' then some '\t'
    else none

def stringBody? : List Char → Option (List Char × List Char)
  | [] => none
  | '"' :: rest => some ([], rest)
  | '\n' :: _ => none
  | '\\' :: '\n' :: _ => none
  | '\\' :: c :: rest => (stringBody? rest).map fun (body, after) => ('\\' :: c :: body, after)
  | c :: rest => (stringBody? rest).map fun (body, after) => (c :: body, after)

/-- The characters of a block string up to three quotes that follow no backslash. -/
def blockBody? (escaped : Bool) : List Char → Option (List Char × List Char)
  | '"' :: '"' :: '"' :: rest =>
    if escaped then
      (blockBody? false rest).map fun (body, after) => ('"' :: '"' :: '"' :: body, after)
    else some ([], rest)
  | [] => none
  | c :: rest => (blockBody? (c == '\\') rest).map fun (body, after) => (c :: body, after)

def withoutReturn (line : List Char) : List Char :=
  if line.getLast? = some '\r' then line.dropLast else line

/-- Lines without their ends; a final line end opens no further line. -/
def linesOf (cs : List Char) : List (List Char) :=
  let pieces := cs.splitOn '\n'
  let ended := pieces.dropLast.map withoutReturn
  match pieces.getLast? with
  | none | some [] => ended
  | some last => ended ++ [last]

def width (cs : List Char) : Nat := cs.foldl (fun total c => total + c.utf8Size) 0

/-- The indentation of a line in bytes, if it is not blank. -/
def indentation? (line : List Char) : Option Nat :=
  if line.all Text.isBlank then none else some (width (line.takeWhile Text.isBlank))

def dropBytes : Nat → List Char → List Char
  | 0, cs => cs
  | _, [] => []
  | count, c :: rest => dropBytes (count - c.utf8Size) rest

def unescapeQuotes : List Char → List Char
  | '\\' :: '"' :: '"' :: '"' :: rest => '"' :: '"' :: '"' :: unescapeQuotes rest
  | [] => []
  | c :: rest => c :: unescapeQuotes rest

def isBlankLine (line : List Char) : Bool := line.all Text.isBlank

def leastIndentation (lines : List (List Char)) : Nat :=
  (lines.filterMap indentation?).min?.getD 0

/-- Take an indentation off a line; a line shorter than that stays as it is. -/
def outdented (indent : Nat) (line : List Char) : List Char :=
  if indent ≤ width line then dropBytes indent line else line

def innerLines (lines : List (List Char)) : List (List Char) :=
  ((lines.dropWhile isBlankLine).reverse.dropWhile isBlankLine).reverse

/-- The lines of a block string: the first line stays as it is, the later ones lose their common
indentation, and blank lines at either end are no lines of the text. -/
def blockLines (cs : List Char) : List (List Char) :=
  let lines := match linesOf cs with
    | [] => []
    | first :: rest => first :: rest.map (outdented (leastIndentation rest))
  (innerLines lines).map unescapeQuotes

/-- The text of a block string has its lines separated, not ended, by line ends. -/
def blockText (cs : List Char) : List Char :=
  (blockLines cs).intersperse ['\n'] |>.flatten

/-! ### The list of tokens -/

def Position.advance (position : Position) (cs : List Char) : Position :=
  cs.foldl (fun p c => if c = '\n' then ⟨p.line + 1, 1⟩ else ⟨p.line, p.column + 1⟩) position

def lexeme : List Char → Lexeme × List Char × List Char
  | '.' :: '.' :: '.' :: rest => (.spread, ['.', '.', '.'], rest)
  | '"' :: '"' :: '"' :: rest =>
    match blockBody? false rest with
    | some (body, after) =>
      let quotes := ['"', '"', '"']
      (.string (String.ofList (blockText body)), quotes ++ body ++ quotes, after)
    | none => (.unreadable, [], [])
  | '"' :: rest =>
    match stringBody? rest with
    | some (body, after) =>
      match unescape? body with
      | some decoded => (.string (String.ofList decoded), '"' :: body ++ ['"'], after)
      | none => (.unreadable, [], [])
    | none => (.unreadable, [], [])
  | c :: rest =>
    if "!$:=@|&()[]\x7b\x7d".toList.contains c then (.mark c, [c], rest)
    else if isNameStart c then
      let text := c :: rest.takeWhile isNamePart
      (.name (String.ofList text), text, rest.dropWhile isNamePart)
    else if c = '-' ∨ c.isDigit then
      let text := c :: rest.takeWhile (!endsNumber ·)
      (numberLexeme text, text, rest.dropWhile (!endsNumber ·))
    else (.unreadable, [], [])
  | [] => (.finish, [], [])

def isOpening (c : Char) : Bool := c == '(' || c == '[' || c == '\x7b'
def isClosing (c : Char) : Bool := c == ')' || c == ']' || c == '\x7d'

/-- Cut a text into tokens. `nesting` brackets may still be opened; each token takes at least one
character, so `fuel` above the length of the text suffices. -/
def tokensFrom (nesting : Nat) (position : Position) (cs : List Char) : Nat → List Token
  | 0 => [⟨.unreadable, position⟩]
  | fuel + 1 =>
    let (cs, position) := skipBlanks position cs
    let (found, text, rest) := lexeme cs
    let next := position.advance text
    match found with
    | .finish | .unreadable => [⟨found, position⟩]
    | .mark symbol =>
      if isOpening symbol then
        if nesting = 0 then [⟨.unreadable, position⟩]
        else ⟨found, position⟩ :: tokensFrom (nesting - 1) next rest fuel
      else if isClosing symbol then ⟨found, position⟩ :: tokensFrom (nesting + 1) next rest fuel
      else ⟨found, position⟩ :: tokensFrom nesting next rest fuel
    | _ => ⟨found, position⟩ :: tokensFrom nesting next rest fuel

def tokens (text : String) : List Token :=
  let cs := text.toList
  tokensFrom nestingLimit .start cs (cs.length + 1)

end GraphQLProjections.Document
