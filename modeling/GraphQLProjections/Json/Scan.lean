import GraphQLProjections.Error
import GraphQLProjections.Text.Numeral

/-! Reading JSON texts from front to back. A failure names its cause and the place up to which the
text was read, or the place just after the character that does not fit. -/
namespace GraphQLProjections.Json

/-- The unread part of a text; the column counts the bytes read on the line. -/
structure Cursor where
  rest : List Char
  line : Nat
  column : Nat
  deriving Repr, Inhabited

abbrev Scan := StateT Cursor (Except JsonFault)

/-- A number as it is written: without a fraction and power it is exact. -/
inductive Number where
  | natural (value : Nat)
  | negative (value : Int)
  | float (value : Binary64)
  deriving Repr, Inhabited

namespace Cursor

def ofText (text : String) : Cursor := ⟨text.toList, 1, 0⟩

def past (cursor : Cursor) (c : Char) (rest : List Char) : Cursor :=
  if c = '\n' then ⟨rest, cursor.line + 1, 0⟩
  else ⟨rest, cursor.line, cursor.column + c.utf8Size⟩

/-- Read a number of bytes; a character cut in the middle stays unread. -/
def pastBytes (cursor : Cursor) : Nat → Cursor
  | 0 => cursor
  | count => go count cursor.rest cursor
where
  go (count : Nat) : List Char → Cursor → Cursor
  | [], cursor => cursor
  | c :: rest, cursor =>
    if count = 0 then cursor
    else if c.utf8Size ≤ count then go (count - c.utf8Size) rest (cursor.past c rest)
    else { cursor with column := cursor.column + count }

def next (cursor : Cursor) : Nat × Nat :=
  match cursor.rest with
  | [] => (cursor.line, cursor.column)
  | c :: _ => if c = '\n' then (cursor.line + 1, 0) else (cursor.line, cursor.column + 1)

end Cursor

namespace Scan

def isJsonBlank (c : Char) : Bool := c == ' ' || c == '\n' || c == '\t' || c == '\r'

def peek : Scan (Option Char) := do
  return (← get).rest.head?

def skip : Scan Unit :=
  modify fun cursor => match cursor.rest with
    | [] => cursor
    | c :: rest => cursor.past c rest

def next : Scan (Option Char) := do
  let found ← peek
  skip
  return found

def failHere (cause : JsonCause) : Scan α := do
  let cursor ← get
  throw ⟨cause, cursor.line, cursor.column⟩

def failNext (cause : JsonCause) : Scan α := do
  let (line, column) := (← get).next
  throw ⟨cause, line, column⟩

def skipWhile (p : Char → Bool) : Scan (List Char) := do
  let cursor ← get
  let taken := cursor.rest.takeWhile p
  set (taken.foldl (fun cursor c => cursor.past c (cursor.rest.drop 1)) cursor)
  return taken

def peekPastBlanks : Scan (Option Char) := do
  discard (skipWhile isJsonBlank)
  peek

def word : List Char → Scan Unit
  | [] => pure ()
  | expected :: rest => do
    match ← peek with
    | none => failHere .endInValue
    | some c =>
      if c = expected then
        skip
        word rest
      else failNext .expectedWord

/-! ### Strings -/

def hexEscape : Scan Nat := do
  let cursor ← get
  if Document.width cursor.rest < 4 then
    set (cursor.pastBytes 4)
    failHere .endInString
  else
    set (cursor.pastBytes 4)
    match Text.hexNumber? (cursor.rest.take 4) with
    | some code => return code
    | none => failHere .invalidEscape

def escapePart (c : Char) : Scan Unit := do
  match ← peek with
  | none => failHere .endInString
  | some found => if found = c then skip else failNext .endInHexEscape

def isLeading (code : Nat) : Bool := 0xD800 ≤ code && code ≤ 0xDBFF
def isTrailing (code : Nat) : Bool := 0xDC00 ≤ code && code ≤ 0xDFFF

/-- A character by code; one beyond the first plane is written as two surrogates. -/
def codeEscape : Scan Char := do
  let code ← hexEscape
  if isTrailing code then failHere .loneSurrogate
  else if isLeading code then
    escapePart '\\'
    escapePart 'u'
    let trailing ← hexEscape
    if isTrailing trailing then
      return Char.ofNat ((code - 0xD800) * 0x400 + (trailing - 0xDC00) + 0x10000)
    else failHere .loneSurrogate
  else return Char.ofNat code

def simpleEscape? (c : Char) : Option Char :=
  if c = '"' ∨ c = '\\' ∨ c = '/' then some c
  else if c = 'b' then some '\x08'
  else if c = 'f' then some '\x0c'
  else if c = 'n' then some '\n'
  else if c = 'r' then some '\r'
  else if c = 't' then some '\t'
  else none

def escape : Scan Char := do
  match ← peek with
  | none => failHere .endInString
  | some 'u' => skip; codeEscape
  | some c =>
    match simpleEscape? c with
    | some decoded => skip; return decoded
    | none => failNext .invalidEscape

/-- The characters of a string up to its closing quote; each step reads one or more. -/
def stringCharacters : Nat → Scan (List Char)
  | 0 => failHere .endInString
  | bound + 1 => do
    match ← next with
    | none => failHere .endInString
    | some c =>
      if c = '"' then return []
      else if c = '\\' then
        let decoded ← escape
        return decoded :: (← stringCharacters bound)
      else if c.toNat < 0x20 then failHere .controlCharacter
      else return c :: (← stringCharacters bound)

def quotedString : Scan String := do
  skip
  return String.ofList (← stringCharacters ((← get).rest.length + 1))

/-! ### Numbers -/

def naturalLimit : Nat := Nat.pow 2 64

/-- The rounded value of a significand times a power of ten. Powers beyond the range of floats are
taken in steps, each rounded; a positive one of them is out of range. -/
def scaled (value : Binary64) (exponent : Int) : Nat → Option Binary64
  | 0 => some (.zero false)
  | steps + 1 =>
    if exponent.natAbs ≤ 308 then
      let power := Binary64.ofDecimal false 1 exponent.natAbs
      if 0 ≤ exponent then
        let product := value.magnitudeProduct power
        if product.isInfinite then none else some product
      else some (value.magnitudeQuotient power)
    else if value = .zero false then some value
    else if 0 ≤ exponent then none
    else scaled (value.magnitudeQuotient (.ofDecimal false 1 308)) (exponent + 308) steps

def floatNumber (positive : Bool) (significand : Nat) (exponent : Int) : Scan Number := do
  match scaled (.ofRatio false significand 1) exponent 8 with
  | some value => return .float (if positive then value else value.negated)
  | none => failHere .numberOutOfRange

def digitOf? (c : Option Char) : Option Nat :=
  c.bind fun c => if c.isDigit then some (c.toNat - '0'.toNat) else none

/-- Read digits while they keep the value below a limit: the value, the number of digits read, and
whether a further digit was left. -/
def boundedDigits (limit : Nat) (value count : Nat) : Nat → Scan (Nat × Nat × Bool)
  | 0 => return (value, count, false)
  | bound + 1 => do
    match digitOf? (← peek) with
    | none => return (value, count, false)
    | some digit =>
      if limit ≤ 10 * value + digit then return (value, count, true)
      else
        skip
        boundedDigits limit (10 * value + digit) (count + 1) bound

def powerLimit : Nat := Nat.pow 2 31

/-- The power after its mark. A power out of range makes the number zero or is out of range. -/
def powerPart (positive : Bool) (significand : Nat) (exponent : Int) : Scan Number := do
  skip
  let sign ← peek
  if sign = some '+' || sign = some '-' then skip
  let upward := sign != some '-'
  match ← peek with
  | none => failHere .endInValue
  | some c =>
    if c.isDigit then
      skip
      let (power, _, overflow) ←
        boundedDigits powerLimit (c.toNat - '0'.toNat) 0 (← get).rest.length
      if overflow then
        skip
        if significand ≠ 0 ∧ upward then failHere .numberOutOfRange
        else
          discard (skipWhile Char.isDigit)
          return .float (.zero (!positive))
      else
        floatNumber positive significand (if upward then exponent + power else exponent - power)
    else failNext .invalidNumber

def isPowerMark (c : Option Char) : Bool := c == some 'e' || c == some 'E'

/-- The fraction after the point; digits past the range of the significand are dropped. -/
def fractionPart (positive : Bool) (significand : Nat) (exponent : Int) : Scan Number := do
  skip
  let (value, count, overflow) ← boundedDigits naturalLimit significand 0 (← get).rest.length
  if overflow then discard (skipWhile Char.isDigit)
  else if count = 0 then
    if (← peek).isSome then failNext .invalidNumber else failNext .endInValue
  if isPowerMark (← peek) then powerPart positive value (exponent - count)
  else floatNumber positive value (exponent - count)

def afterWhole (positive : Bool) (significand : Nat) (exponent : Int) (exact : Bool) :
    Scan Number := do
  let following ← peek
  if following = some '.' then fractionPart positive significand exponent
  else if isPowerMark following then powerPart positive significand exponent
  else if !exact then floatNumber positive significand exponent
  else if positive then return .natural significand
  else if significand = 0 ∨ Nat.pow 2 63 < significand then
    return .float (Binary64.ofRatio true significand 1)
  else return .negative (-(significand : Int))

def unsignedNumber (positive : Bool) : Scan Number := do
  match ← peek with
  | none => failHere .endInValue
  | some c =>
    if c = '0' then
      skip
      if (digitOf? (← peek)).isSome then failNext .invalidNumber
      else afterWhole positive 0 0 true
    else if c.isDigit then
      skip
      let (value, _, overflow) ←
        boundedDigits naturalLimit (c.toNat - '0'.toNat) 0 (← get).rest.length
      if overflow then
        let more ← skipWhile Char.isDigit
        afterWhole positive value more.length false
      else afterWhole positive value 0 true
    else failNext .invalidNumber

def number : Scan Number := do
  if (← peek) = some '-' then
    skip
    unsignedNumber false
  else unsignedNumber true

def startsNumber (c : Char) : Bool := c.isDigit || c == '-'

def shownNumber : Number → String
  | .natural value => "integer `" ++ toString value ++ "`"
  | .negative value => "integer `" ++ toString value ++ "`"
  | .float value => "floating point `" ++ Decimal.text Decimal.messageNotation value ++ "`"

/-! ### Values of a wanted type -/

def unwanted (expected : String) : Scan α := do
  match ← peek with
  | some 'n' => skip; word "ull".toList; failHere (.wrongType "null" expected)
  | some 't' => skip; word "rue".toList; failHere (.wrongType "boolean `true`" expected)
  | some 'f' => skip; word "alse".toList; failHere (.wrongType "boolean `false`" expected)
  | some '"' =>
    let value ← quotedString
    failHere (.wrongType ("string " ++ Text.diagnosticQuoted value) expected)
  | some '[' => failHere (.wrongType "sequence" expected)
  | some '\x7b' => failHere (.wrongType "map" expected)
  | some c =>
    if startsNumber c then
      let value ← number
      failHere (.wrongType (shownNumber value) expected)
    else failNext .expectedValue
  | none => failNext .expectedValue

def natural (expected : String) : Scan Nat := do
  match ← peekPastBlanks with
  | none => failNext .endInValue
  | some c =>
    if startsNumber c then
      match ← number with
      | .natural value => return value
      | .negative value => failHere (.wrongValue (shownNumber (.negative value)) expected)
      | .float value => failHere (.wrongType (shownNumber (.float value)) expected)
    else unwanted expected

def naturalOrNull (expected : String) : Scan (Option Nat) := do
  if (← peekPastBlanks) = some 'n' then
    skip
    word "ull".toList
    return none
  else return some (← natural expected)

def boolean : Scan Bool := do
  match ← peekPastBlanks with
  | none => failNext .endInValue
  | some 't' => skip; word "rue".toList; return true
  | some 'f' => skip; word "alse".toList; return false
  | some _ => unwanted "a boolean"

def string : Scan String := do
  match ← peekPastBlanks with
  | none => failNext .endInValue
  | some '"' => quotedString
  | some _ => unwanted "a string"

/-! ### Objects and arrays -/

def hasMember (first : Bool) : Scan Bool := do
  match ← peekPastBlanks with
  | none => failNext .endInObject
  | some '\x7d' => return false
  | some c =>
    if first then
      if c = '"' then return true else failNext .keyNotString
    else if c = ',' then
      skip
      match ← peekPastBlanks with
      | some '"' => return true
      | some '\x7d' => failNext .trailingComma
      | some _ => failNext .keyNotString
      | none => failNext .endInValue
    else failNext .expectedObjectCommaOrEnd

def colon : Scan Unit := do
  match ← peekPastBlanks with
  | some ':' => skip
  | some _ => failNext .expectedColon
  | none => failNext .endInObject

/-- Fail because of the member name just read. The place is after a closing brace that follows. -/
def refuseMember (cause : JsonCause) : Scan α := do
  if (← peekPastBlanks) = some '\x7d' then skip
  failHere cause

/-- Read members one after the other into a value; each reads one or more characters. -/
def members (member : String → α → Scan α) (first : Bool) (value : α) : Nat → Scan α
  | 0 => return value
  | bound + 1 => do
    if ← hasMember first then
      let name ← quotedString
      members member false (← member name value) bound
    else return value

def object (member : String → α → Scan α) (value : α) : Scan α := do
  skip
  let result ← members member true value ((← get).rest.length + 1)
  skip
  return result

def hasItem (first : Bool) : Scan Bool := do
  match ← peekPastBlanks with
  | none => failNext .endInList
  | some ']' => return false
  | some c =>
    if first then return true
    else if c = ',' then
      skip
      match ← peekPastBlanks with
      | some ']' => failNext .trailingComma
      | some _ => return true
      | none => failNext .endInValue
    else failNext .expectedListCommaOrEnd

def arrayEnd : Scan Unit := do
  match ← peekPastBlanks with
  | some ']' => skip
  | some ',' =>
    skip
    if (← peekPastBlanks) = some ']' then failNext .trailingComma
    else failNext .trailingCharacters
  | some _ => failNext .trailingCharacters
  | none => failNext .endInList

def whole (scan : Scan α) (text : String) : Except JsonFault α := do
  let all : Scan α := do
    let value ← scan
    if (← peekPastBlanks).isSome then failNext .trailingCharacters
    return value
  (all.run (.ofText text)).map Prod.fst

end Scan
end GraphQLProjections.Json
