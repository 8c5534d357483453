import GraphQLProjections.CommandLine.Files
import GraphQLProjections.CommandLine.Invocation
import GraphQLProjections.Endpoint.Basic
import GraphQLProjections.Generation.Report
import GraphQLProjections.Settings.Json

/-! One run of the command line: from its arguments to what it prints, what it writes and how it
ends. Reading files and fetching from an endpoint are given to it as functions. -/
namespace GraphQLProjections

structure Surroundings where
  read : String → Except FileFault String
  fetch : Endpoint → Except Error String

structure Report where
  code : Nat
  stdout : String
  stderr : String
  file : Option (String × String)
  deriving DecidableEq, Repr, Inhabited

namespace CommandLine

def versionText : String := "projection-codegen 0.1.0\n"

def usageText : String :=
  "usage: projection-codegen [--schema FILE]... [--url URL] [--header NAME:VALUE]...\n" ++
  "  [--timeout SECS] [--config FILE] [--query FILE]... [--max-depth N | --unbounded]\n" ++
  "  [--short-names] [--skip-entities] [-o FILE] [-v | -q]\n"

def readFile (surroundings : Surroundings) (path : String) : Except Error String :=
  match surroundings.read path with
  | .ok text => .ok text
  | .error fault => .error (.file fault)

def settingsOf (surroundings : Surroundings) (invocation : Invocation) : Except Error Settings := do
  let settings ← match invocation.config with
    | some path => Settings.ofJson (← readFile surroundings path)
    | none => pure Settings.standard
  return invocation.adjust settings

def remoteSchema (surroundings : Surroundings) (invocation : Invocation) :
    Except Error (List String) := do
  match invocation.url with
  | none => return []
  | some url =>
    let endpoint ← (← Endpoint.ofUrl url).withHeaders invocation.headers
    let timeout := invocation.timeout.getD Endpoint.standardTimeout
    return [← surroundings.fetch { endpoint with timeout }]

def generate (surroundings : Surroundings) (invocation : Invocation) : Except Error Output := do
  let settings ← settingsOf surroundings invocation
  let files ← invocation.schemas.mapM (readFile surroundings)
  let schemas := files ++ (← remoteSchema surroundings invocation)
  if schemas.isEmpty then throw (.settings .noSchema)
  let queries ← invocation.queries.mapM (readFile surroundings)
  settings.check
  Generation.generateFromDocuments settings schemas queries

def failure (text : String) : Report := ⟨1, "", text, none⟩

def report (surroundings : Surroundings) (invocation : Invocation) : Report :=
  match generate surroundings invocation with
  | .error error => failure ("codegen failed: " ++ error.message)
  | .ok output =>
    let text := output.json.pretty 0
    match invocation.out with
    | some path => ⟨0, "", "", some (path, text)⟩
    | none => ⟨0, text ++ "\n", "", none⟩

def run (surroundings : Surroundings) (arguments : List String) : Report :=
  match Invocation.parse arguments with
  | .ok invocation => report surroundings invocation
  | .error .usage => ⟨2, "", usageText, none⟩
  | .error .version => ⟨0, versionText, "", none⟩
  | .error .help => ⟨0, usageText, "", none⟩

def writeFailure (fault : FileFault) : Report :=
  failure ("failed to write output: " ++ (Error.file fault).message)

def runIn (tree : FileTree) (fetch : Endpoint → Except Error String) (arguments : List String) :
    Report × FileTree :=
  let report := run ⟨tree.read, fetch⟩ arguments
  match report.file with
  | none => (report, tree)
  | some (path, text) =>
    match tree.write path text with
    | .ok written => ({ report with stdout := written.printed }, written.tree)
    | .error fault => (writeFailure fault, tree)

end CommandLine
end GraphQLProjections
