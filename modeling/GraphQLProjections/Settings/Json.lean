import GraphQLProjections.Json.Scan
import GraphQLProjections.Json.Value
import GraphQLProjections.Settings

/-! Settings as JSON. An object gives settings by name, an array by position; what is not given
stays as in the standard settings. -/
namespace GraphQLProjections.Settings

open GraphQLProjections.Json

def fieldNames : List String :=
  ["maxProjectionDepth", "shortProjectionNames", "skipEntityQueries",
   "generateClientApiForDefinedQuery", "typeMapping", "skipDirective", "includeQueries",
   "includeMutations", "includeSubscriptions"]

def expectedWhole : String := "struct CodegenConfig"

/-- An object of strings; a later value for a name counts. -/
def scanMapping : Scan (Entries String) := do
  match ← Scan.peekPastBlanks with
  | none => Scan.failNext .endInValue
  | some '\x7b' =>
    Scan.object
      (fun type mapping => do
        Scan.colon
        return Entries.insertSorted type (← Scan.string) mapping)
      []
  | some _ => Scan.unwanted "a map"

def scanField (name : String) (settings : Settings) : Scan Settings := do
  match name with
  | "maxProjectionDepth" => return { settings with maxDepth := ← Scan.naturalOrNull "usize" }
  | "shortProjectionNames" => return { settings with shortNames := ← Scan.boolean }
  | "skipEntityQueries" => return { settings with skipEntities := ← Scan.boolean }
  | "generateClientApiForDefinedQuery" => return { settings with definedOnly := ← Scan.boolean }
  | "typeMapping" => return { settings with typeMapping := ← scanMapping }
  | "skipDirective" => return { settings with skipDirective := ← Scan.string }
  | "includeQueries" => return { settings with queries := ← Scan.boolean }
  | "includeMutations" => return { settings with mutations := ← Scan.boolean }
  | "includeSubscriptions" => return { settings with subscriptions := ← Scan.boolean }
  | _ => return settings

/-- Read one member; an unknown or repeated name is refused before its value is looked at. -/
def scanMember (name : String) (state : List String × Settings) :
    Scan (List String × Settings) := do
  let (seen, settings) := state
  if name ∉ fieldNames then Scan.refuseMember (.unknownField name fieldNames)
  else if name ∈ seen then Scan.refuseMember (.duplicateField name)
  else
    Scan.colon
    return (name :: seen, ← scanField name settings)

def scanItems (first : Bool) (settings : Settings) : List String → Scan Settings
  | [] => return settings
  | name :: rest => do
    if ← Scan.hasItem first then scanItems false (← scanField name settings) rest
    else return settings

def scan : Scan Settings := do
  match ← Scan.peekPastBlanks with
  | none => Scan.failNext .endInValue
  | some '\x7b' => return (← Scan.object scanMember ([], standard)).2
  | some '[' =>
    Scan.skip
    let settings ← scanItems true standard fieldNames
    Scan.arrayEnd
    return settings
  | some _ => Scan.unwanted expectedWhole

def ofJson (text : String) : Except Error Settings :=
  match Scan.whole scan text with
  | .error fault => .error (.json fault)
  | .ok settings =>
    match settings.fault? with
    | some fault => .error (.settings fault)
    | none => .ok settings

def json (settings : Settings) : Json :=
  .object [
    ("maxProjectionDepth",
      Json.optional (fun depth => .integer (depth : Nat)) settings.maxDepth),
    ("shortProjectionNames", .bool settings.shortNames),
    ("skipEntityQueries", .bool settings.skipEntities),
    ("generateClientApiForDefinedQuery", .bool settings.definedOnly),
    ("typeMapping", .object (settings.typeMapping.map fun entry => (entry.1, .string entry.2))),
    ("skipDirective", .string settings.skipDirective),
    ("includeQueries", .bool settings.queries),
    ("includeMutations", .bool settings.mutations),
    ("includeSubscriptions", .bool settings.subscriptions)]

end GraphQLProjections.Settings
