import GraphQLProjections.Endpoint.Domain
import GraphQLProjections.Endpoint.Percent
import GraphQLProjections.Error

/-! Hosts of URLs: domain names in lower case ASCII, and addresses in their canonical forms. -/
namespace GraphQLProjections.Host

/-! ### Numeric addresses -/

/-- A part of a dotted address: hexadecimal after `0x`, octal after a zero, else decimal. -/
def addressPart? : List Char → Option Nat
  | [] => none
  | '0' :: 'x' :: rest | '0' :: 'X' :: rest => Text.numberTo? 16 rest
  | ['0'] => some 0
  | '0' :: rest => Text.numberTo? 8 rest
  | cs => Text.numberTo? 10 cs

/-- A name whose last part is a number can only be an address. -/
def endsInNumber (domain : List Char) : Bool :=
  let parts := (domain.splitOn '.').reverse
  let last := match parts with
    | [] :: rest => rest.head?
    | last :: _ => some last
    | [] => none
  match last with
  | none => false
  | some part => (!part.isEmpty && part.all Char.isDigit) || (addressPart? part).isSome

/-- The four bytes of an address as one number. The last of fewer than four parts fills the rest. -/
def ipv4Number? (domain : List Char) : Option Nat :=
  let parts := domain.splitOn '.'
  let parts := if parts.getLast? = some [] then parts.dropLast else parts
  if 4 < parts.length then none
  else
    match parts.mapM addressPart? with
    | none => none
    | some numbers =>
      match numbers.getLast? with
      | none => none
      | some last =>
        let leading := numbers.dropLast
        if Nat.pow 256 (4 - leading.length) ≤ last || leading.any (255 < ·) then none
        else
          some (leading.zipIdx.foldl
            (fun total (part, index) => total + part * Nat.pow 256 (3 - index)) last)

def ipv4Text (number : Nat) : List Char :=
  let part (index : Nat) := Nat.toDigits 10 (number / Nat.pow 256 index % 256)
  part 3 ++ '.' :: part 2 ++ '.' :: part 1 ++ '.' :: part 0

/-- Four decimal bytes without leading zeros, as the last two pieces of a long address. -/
def embeddedIpv4? (cs : List Char) : Option (List Nat) :=
  let parts := cs.splitOn '.'
  let byte? (part : List Char) : Option Nat :=
    let padded := part.length ≠ 1 && part.head? = some '0'
    if part.isEmpty || !part.all Char.isDigit || padded then none
    else (Text.numberTo? 10 part).filter (· ≤ 255)
  match parts.mapM byte? with
  | some [a, b, c, d] => some [256 * a + b, 256 * c + d]
  | _ => none

def piece? (cs : List Char) : Option Nat :=
  if cs.isEmpty || 4 < cs.length then none else Text.numberTo? 16 cs

def pieces? (cs : List Char) : Option (List Nat) :=
  if cs.isEmpty then some []
  else
    let parts := cs.splitOn ':'
    let last := parts.getLast?.getD []
    match parts.dropLast.mapM piece? with
    | none => none
    | some leading =>
      match (if last.contains '.' then embeddedIpv4? last else (piece? last).map ([·])) with
      | none => none
      | some trailing => some (leading ++ trailing)

def splitAtGap? : List Char → Option (List Char × List Char)
  | ':' :: ':' :: rest => some ([], rest)
  | c :: rest => (splitAtGap? rest).map fun (before, after) => (c :: before, after)
  | [] => none

/-- The eight pieces of a long address; a pair of colons stands for one zero piece or more. -/
def ipv6Pieces? (cs : List Char) : Option (List Nat) :=
  match splitAtGap? cs with
  | none => (pieces? cs).filter (·.length = 8)
  | some (before, after) =>
    match pieces? before, pieces? after with
    | some front, some back =>
      if before.contains '.' || 7 < front.length + back.length then none
      else some (front ++ List.replicate (8 - front.length - back.length) 0 ++ back)
    | _, _ => none

def longestZeros (pieces : List Nat) : Nat × Nat :=
  let run (start : Nat) := ((pieces.drop start).takeWhile (· = 0)).length
  (List.range pieces.length).foldl
    (fun best start => if best.2 < run start then (start, run start) else best) (0, 0)

def joinPieces (pieces : List Nat) : List Char :=
  [':'].intercalate (pieces.map (Nat.toDigits 16))

/-- The longest run of two or more zeros is written as a pair of colons. -/
def ipv6Text (pieces : List Nat) : List Char :=
  let (start, length) := longestZeros pieces
  if length < 2 then joinPieces pieces
  else joinPieces (pieces.take start) ++ [':', ':'] ++ joinPieces (pieces.drop (start + length))

def bracketed (cs : List Char) : Except UrlFault (List Char) :=
  if cs.getLast? = some ']' then
    match ipv6Pieces? (cs.drop 1).dropLast with
    | some pieces => .ok ('[' :: ipv6Text pieces ++ [']'])
    | none => .error .ipv6Address
  else .error .ipv6Address

/-! ### Whole hosts -/

/-- The host of a URL of a known scheme. -/
def special (cs : List Char) : Except UrlFault (List Char) :=
  if cs.head? = some '[' then bracketed cs
  else
    match (Percent.decode? cs).bind Domain.ascii? with
    | none => .error .domainName
    | some [] => .error .emptyHost
    | some domain =>
      if endsInNumber domain then
        match ipv4Number? domain with
        | some number => .ok (ipv4Text number)
        | none => .error .ipv4Address
      else .ok domain

def isForbiddenInHost (c : Char) : Bool :=
  "\x00\t\n\r #/:<>?@[\\]^|".toList.contains c

/-- The host of a URL of another scheme. -/
def opaqueHost (cs : List Char) : Except UrlFault (List Char) :=
  if cs.head? = some '[' then bracketed cs
  else if cs.any isForbiddenInHost then .error .domainCharacter
  else .ok (Percent.encode [] cs)

end GraphQLProjections.Host
