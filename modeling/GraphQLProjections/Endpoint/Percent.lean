import GraphQLProjections.Text.Numeral
import GraphQLProjections.Text.Quoted

/-! Percent-encoding: bytes written as a percent sign and two hexadecimal digits. -/
namespace GraphQLProjections.Percent

def upperHexDigit (value : Nat) : Char :=
  if value < 10 then Char.ofNat (0x30 + value) else Char.ofNat (0x41 + value - 10)

def encodeByte (byte : UInt8) : List Char :=
  ['%', upperHexDigit (byte.toNat / 16), upperHexDigit (byte.toNat % 16)]

/-- Encode the characters of a set, all controls and everything beyond ASCII. -/
def encodeChar (set : List Char) (c : Char) : List Char :=
  if c.toNat < 0x20 || 0x7F ≤ c.toNat || set.contains c then
    (String.utf8EncodeChar c).flatMap encodeByte
  else [c]

def encode (set : List Char) (cs : List Char) : List Char := cs.flatMap (encodeChar set)

/-! The characters to encode in each part of a URL, apart from controls. -/

def fragmentSet : List Char := " \"<>`".toList
def querySet : List Char := " \"#<>".toList
def specialQuerySet : List Char := '\'' :: querySet
def pathSet : List Char := "#?\x7b\x7d".toList ++ fragmentSet
def userInfoSet : List Char := "/:;=@[\\]^|".toList ++ pathSet

def decodeBytes : List Char → List UInt8
  | [] => []
  | '%' :: a :: b :: rest =>
    match Text.digitValue? a, Text.digitValue? b with
    | some high, some low => UInt8.ofNat (16 * high + low) :: decodeBytes rest
    | _, _ => 0x25 :: decodeBytes (a :: b :: rest)
  | c :: rest => String.utf8EncodeChar c ++ decodeBytes rest

def decode? (cs : List Char) : Option (List Char) :=
  (String.fromUTF8? ⟨(decodeBytes cs).toArray⟩).map String.toList

end GraphQLProjections.Percent
