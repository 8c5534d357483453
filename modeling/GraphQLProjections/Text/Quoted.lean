import GraphQLProjections.Text.Glyph

/-! Two quoted forms of a text. The data form escapes what a JSON string must escape. The
diagnostic form shows every character unambiguously: those without a glyph of their own are
written by code point. -/
namespace GraphQLProjections.Text

def hexDigits (code : Nat) : List Char := Nat.toDigits 16 code

def paddedHex (code : Nat) : List Char :=
  let digits := hexDigits code
  List.replicate (4 - digits.length) '0' ++ digits

/-- One character of a JSON string; only controls, the quote and the backslash are escaped. -/
def dataEscape (c : Char) : List Char :=
  if c = '"' then ['\\', '"']
  else if c = '\\' then ['\\', '\\']
  else if c = '\n' then ['\\', 'n']
  else if c = '\r' then ['\\', 'r']
  else if c = '\t' then ['\\', 't']
  else if c.toNat = 0x8 then ['\\', 'b']
  else if c.toNat = 0xC then ['\\', 'f']
  else if c.toNat < 0x20 then ['\\', 'u'] ++ paddedHex c.toNat
  else [c]

def diagnosticEscape (c : Char) : List Char :=
  if c = '"' then ['\\', '"']
  else if c = '\\' then ['\\', '\\']
  else if c = '\n' then ['\\', 'n']
  else if c = '\r' then ['\\', 'r']
  else if c = '\t' then ['\\', 't']
  else if c.toNat = 0 then ['\\', '0']
  else if hasGlyph c then [c]
  else ['\\', 'u', '\x7b'] ++ hexDigits c.toNat ++ ['\x7d']

def quotedBy (escape : Char → List Char) (text : String) : String :=
  String.ofList ('"' :: (text.toList.flatMap escape ++ ['"']))

def dataQuoted (text : String) : String := quotedBy dataEscape text

def diagnosticQuoted (text : String) : String := quotedBy diagnosticEscape text

end GraphQLProjections.Text
