import GraphQLProjections.Document.Token

/-! Everything that can go wrong, as causes, and the wording of each cause. -/
namespace GraphQLProjections

inductive SettingsFault where
  | blankSkipDirective
  | skipDirectiveWithSign (text : String)
  | blankMappedType
  | blankMappingTarget (type : String)
  | noOperationKind
  | noOperationDocument
  | noSchema
  | endpointScheme (url : String)
  | headerName (name : String)
  | headerValue (name : String)
  deriving DecidableEq, Repr

inductive KeyFault where
  | groupWithoutField
  | unbalancedClose
  | emptyGroup (field : String)
  | unclosedGroup (field : String)
  | emptySelection
  deriving DecidableEq, Repr

inductive JsonCause where
  | endInValue
  | endInObject
  | endInList
  | endInString
  | expectedColon
  | expectedObjectCommaOrEnd
  | expectedListCommaOrEnd
  | expectedWord
  | expectedValue
  | invalidEscape
  | invalidNumber
  | numberOutOfRange
  | controlCharacter
  | keyNotString
  | loneSurrogate
  | endInHexEscape
  | trailingComma
  | trailingCharacters
  | wrongType (found expected : String)
  | wrongValue (found expected : String)
  | unknownField (name : String) (known : List String)
  | duplicateField (name : String)
  deriving DecidableEq, Repr

/-- A cause and its place; the column counts the bytes of the line before it. -/
structure JsonFault where
  cause : JsonCause
  line : Nat
  column : Nat
  deriving DecidableEq, Repr

inductive UrlFault where
  | emptyHost
  | domainName
  | port
  | ipv4Address
  | ipv6Address
  | domainCharacter
  | relativeWithoutBase
  deriving DecidableEq, Repr

inductive FileFault where
  | missing
  | isDirectory
  | notDirectory
  | noSpace
  | nameTooLong
  | other (text : String)
  deriving DecidableEq, Repr

inductive Error where
  | settings (fault : SettingsFault)
  | schemaSyntax (position : Document.Position)
  | querySyntax (position : Document.Position)
  | unresolvedType (owner field type : String)
  | malformedKey (entity selection : String) (fault : KeyFault)
  | unknownOperationField (operation field : String)
  | nameCollision (name : String)
  | file (fault : FileFault)
  | url (fault : UrlFault)
  | json (fault : JsonFault)
  | request (reason : String)
  | endlessUnion (type : String)
  deriving DecidableEq, Repr

namespace SettingsFault

def message : SettingsFault → String
  | blankSkipDirective => "skip directive cannot be empty"
  | skipDirectiveWithSign text => "skip directive must be given without `@`: " ++ text
  | blankMappedType => "type mapping key cannot be empty"
  | blankMappingTarget type => "type mapping for `" ++ type ++ "` has an empty target"
  | noOperationKind => "at least one operation kind must be enabled"
  | noOperationDocument => "defined-query generation needs at least one operation document"
  | noSchema => "no schema given, pass --schema or --url"
  | endpointScheme url => "schema url must be http or https: " ++ url
  | headerName name => "invalid header name `" ++ name ++ "`: invalid HTTP header name"
  | headerValue name => "invalid value for header `" ++ name ++ "`: failed to parse header value"

end SettingsFault

namespace KeyFault

def message : KeyFault → String
  | groupWithoutField => "`\x7b` without a field before it"
  | unbalancedClose => "unbalanced `\x7d`"
  | emptyGroup field => "empty selection for `" ++ field ++ "`"
  | unclosedGroup field => "unclosed `\x7b` after `" ++ field ++ "`"
  | emptySelection => "empty key selection"

end KeyFault

namespace JsonCause

def message : JsonCause → String
  | endInValue => "EOF while parsing a value"
  | endInObject => "EOF while parsing an object"
  | endInList => "EOF while parsing a list"
  | endInString => "EOF while parsing a string"
  | expectedColon => "expected `:`"
  | expectedObjectCommaOrEnd => "expected `,` or `\x7d`"
  | expectedListCommaOrEnd => "expected `,` or `]`"
  | expectedWord => "expected ident"
  | expectedValue => "expected value"
  | invalidEscape => "invalid escape"
  | invalidNumber => "invalid number"
  | numberOutOfRange => "number out of range"
  | controlCharacter => "control character (\\u0000-\\u001F) found while parsing a string"
  | keyNotString => "key must be a string"
  | loneSurrogate => "lone leading surrogate in hex escape"
  | endInHexEscape => "unexpected end of hex escape"
  | trailingComma => "trailing comma"
  | trailingCharacters => "trailing characters"
  | wrongType found expected => "invalid type: " ++ found ++ ", expected " ++ expected
  | wrongValue found expected => "invalid value: " ++ found ++ ", expected " ++ expected
  | unknownField name known =>
    "unknown field `" ++ name ++ "`, expected one of " ++
      ", ".intercalate (known.map fun field => "`" ++ field ++ "`")
  | duplicateField name => "duplicate field `" ++ name ++ "`"

end JsonCause

def JsonFault.message (fault : JsonFault) : String :=
  fault.cause.message ++ " at line " ++ toString fault.line ++ " column " ++ toString fault.column

namespace UrlFault

def message : UrlFault → String
  | emptyHost => "empty host"
  | domainName => "invalid international domain name"
  | port => "invalid port number"
  | ipv4Address => "invalid IPv4 address"
  | ipv6Address => "invalid IPv6 address"
  | domainCharacter => "invalid domain character"
  | relativeWithoutBase => "relative URL without a base"

end UrlFault

namespace FileFault

def message : FileFault → String
  | missing => "No such file or directory (os error 2)"
  | isDirectory => "Is a directory (os error 21)"
  | notDirectory => "Not a directory (os error 20)"
  | noSpace => "No space left on device (os error 28)"
  | nameTooLong => "File name too long (os error 36)"
  | other text => text

end FileFault

def Document.Position.message (position : Document.Position) : String :=
  "Parse error at " ++ toString position.line ++ ":" ++ toString position.column

namespace Error

def message : Error → String
  | settings fault => "config error: " ++ fault.message
  | schemaSyntax position => "schema parse error: " ++ position.message
  | querySyntax position => "query parse error: " ++ position.message
  | unresolvedType owner field type =>
    "field `" ++ owner ++ "." ++ field ++ "` references unknown type `" ++ type ++ "`"
  | malformedKey entity selection fault =>
    "malformed key selection on `" ++ entity ++ "` (" ++ Text.diagnosticQuoted selection ++
      "): " ++ fault.message
  | unknownOperationField operation field =>
    "operation selects unknown root field `" ++ operation ++ "." ++ field ++ "`"
  | nameCollision name => "name allocator handed out `" ++ name ++ "` twice"
  | file fault => "io error: " ++ fault.message
  | url fault => "url error: " ++ fault.message
  | json fault => "json error: " ++ fault.message
  | request reason => "http error: " ++ reason
  | endlessUnion type => "union `" ++ type ++ "` contains itself"

/-- The documents are at fault, not the surroundings. -/
def isDocumentFault : Error → Bool
  | schemaSyntax _ | querySyntax _ | unresolvedType .. | malformedKey .. |
    unknownOperationField .. => true
  | _ => false

end Error
end GraphQLProjections
