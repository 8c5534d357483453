import GraphQLProjections.Error

/-! Names and values of request headers. -/
namespace GraphQLProjections.Header

def isNamePart (c : Char) : Bool :=
  c.isAlphanum || "!#$%&'*+-.^_`|~".toList.contains c

def name? (text : String) : Option String :=
  let cs := (Text.trimmed text).toList
  if !cs.isEmpty && cs.all isNamePart then some (String.ofList (cs.map Char.toLower)) else none

/-- No controls but the tab. -/
def isValuePart (c : Char) : Bool := (0x20 ≤ c.toNat && c.toNat ≠ 0x7F) || c == '\t'

def value? (text : String) : Option String :=
  let value := Text.trimmed text
  if value.toList.all isValuePart then some value else none

end GraphQLProjections.Header
