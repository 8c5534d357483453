import GraphQLProjections.CommandLine.Run

/-! The command line program: it reads the files that its arguments name, leaves the work to a run,
and delivers what the run reports. -/
namespace GraphQLProjections.CommandLine

def fileFault (error : IO.Error) : FileFault :=
  match error with
  | .noFileOrDirectory .. => .missing
  | .inappropriateType .. => .isDirectory
  | other => .other (toString other)

def readEntry (path : String) : IO (String × Except FileFault String) := do
  try
    return (path, .ok (← IO.FS.readFile path))
  catch error => return (path, .error (fileFault error))

def namedFiles (arguments : List String) : List String :=
  match Invocation.parse arguments with
  | .ok invocation => invocation.config.toList ++ invocation.schemas ++ invocation.queries
  | .error _ => []

/-- There is no connection to fetch from. -/
def refuseFetch (endpoint : Endpoint) : Except Error String :=
  .error (.request ("cannot reach " ++ endpoint.url.text))

def deliver (report : Report) : IO UInt32 := do
  IO.print report.stdout
  unless report.stderr.isEmpty do IO.eprintln report.stderr
  match report.file with
  | none => return report.code.toUInt32
  | some (path, text) =>
    try
      IO.FS.writeFile path text
      return report.code.toUInt32
    catch error =>
      IO.eprintln (writeFailure (fileFault error)).stderr
      return 1

def runProgram (arguments : List String) : IO UInt32 := do
  let entries ← (namedFiles arguments).mapM readEntry
  let read (path : String) : Except FileFault String :=
    (entries.lookup path).getD (.error .missing)
  deliver (run ⟨read, refuseFetch⟩ arguments)

end GraphQLProjections.CommandLine

def main (arguments : List String) : IO UInt32 :=
  GraphQLProjections.CommandLine.runProgram arguments
