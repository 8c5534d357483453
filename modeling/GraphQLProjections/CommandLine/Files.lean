import GraphQLProjections.Entries
import GraphQLProjections.Error

/-! Text files in and around a working directory, held in memory. A path is followed part by part.
Outside the working directory only the usual top directories and a few devices are known. -/
namespace GraphQLProjections

/-- Files that are no stored texts. -/
inductive Device where
  /-- Always empty; what is written is dropped. -/
  | sink
  /-- Nothing can be written. -/
  | full
  /-- What is written is printed. -/
  | output
  deriving DecidableEq, Repr, Inhabited

/-- Files by their paths. A path has neither idle nor empty parts; it starts with `..` outside the
working directory, and with `/` at the top of all directories. -/
structure FileTree where
  files : List (List String × String)
  deriving DecidableEq, Repr, Inhabited

namespace FileTree

/-- Where a path leads. -/
inductive Place where
  | file (path : List String)
  | directory (path : List String)
  | device (device : Device)
  | absent (path : List String)
  deriving DecidableEq, Repr, Inhabited

/-- In bytes. -/
def longestPath : Nat := 4095

def longestName : Nat := 255

/-! ### Paths -/

/-- The parts of a path between slashes; several slashes count as one. -/
def components (path : String) : List String :=
  ((path.toList.splitOn '/').map String.ofList).filter (· ≠ "")

def isAbsolute (path : String) : Bool := path.toList.head? == some '/'

def endsInSlash (path : String) : Bool := path.toList.getLast? == some '/'

def start (path : String) : List String := if isAbsolute path then ["/"] else []

/-- The last part; a path without parts means the directory where it starts. -/
def lastName (path : String) : String := (components path).getLast?.getD "."

def parent (directory : List String) : List String :=
  if directory = ["/"] then directory
  else if directory.all (· == "..") then directory ++ [".."]
  else directory.dropLast

/-! ### Known files -/

def topDirectories : List String :=
  ["bin", "boot", "dev", "etc", "home", "lib", "media", "mnt", "opt", "proc", "root", "run", "sbin",
   "srv", "sys", "tmp", "usr", "var"]

def devices : List (List String × Device) :=
  [(["/", "dev", "null"], .sink), (["/", "dev", "stdin"], .sink), (["/", "dev", "full"], .full),
   (["/", "dev", "stdout"], .output)]

def ofEntries (entries : List (String × String)) : FileTree :=
  ⟨entries.map fun entry => ((components entry.1).filter (· ≠ "."), entry.2)⟩

def isFile (tree : FileTree) (path : List String) : Bool := (tree.files.lookup path).isSome

/-- A directory exists if there is a file in it, or if it is known to be there. -/
def isDirectory (tree : FileTree) (path : List String) : Bool :=
  path.all (· == "..") || path == ["/"] || topDirectories.any (["/", ·] == path) ||
    tree.files.any fun entry =>
      path.length < entry.1.length && entry.1.take path.length == path

/-! ### Following paths -/

def step (tree : FileTree) (directory : List String) (name : String) : Except FileFault Place :=
  if name = "." then .ok (.directory directory)
  else if name = ".." then .ok (.directory (parent directory))
  else if longestName < name.utf8ByteSize then .error .nameTooLong
  else
    let path := directory ++ [name]
    if tree.isFile path then .ok (.file path)
    else if tree.isDirectory path then .ok (.directory path)
    else
      match devices.lookup path with
      | some device => .ok (.device device)
      | none => .ok (.absent path)

def enter (tree : FileTree) (directory : List String) (name : String) :
    Except FileFault (List String) := do
  match ← tree.step directory name with
  | .directory path => .ok path
  | .file _ | .device _ => .error .notDirectory
  | .absent _ => .error .missing

/-- The directory in which a path has its last part. -/
def folder (tree : FileTree) (path : String) : Except FileFault (List String) :=
  if longestPath < path.utf8ByteSize then .error .nameTooLong
  else if path = "" then .error .missing
  else (components path).dropLast.foldlM tree.enter (start path)

/-- A path that ends in a slash leads to a directory. -/
def read (tree : FileTree) (path : String) : Except FileFault String := do
  match ← tree.step (← tree.folder path) (lastName path) with
  | .file found =>
    if endsInSlash path then .error .notDirectory
    else
      match tree.files.lookup found with
      | some text => .ok text
      | none => .error .missing
  | .device _ => if endsInSlash path then .error .notDirectory else .ok ""
  | .directory _ => .error .isDirectory
  | .absent _ => .error .missing

structure Written where
  printed : String
  tree : FileTree
  deriving DecidableEq, Repr, Inhabited

def replaced (tree : FileTree) (path : List String) (text : String) : FileTree :=
  ⟨tree.files.map fun entry => if entry.1 = path then (path, text) else entry⟩

def added (tree : FileTree) (path : List String) (text : String) : FileTree :=
  ⟨tree.files ++ [(path, text)]⟩

/-- Write a file in a directory that exists. A path that ends in a slash names no file. -/
def write (tree : FileTree) (path text : String) : Except FileFault Written := do
  let directory ← tree.folder path
  if endsInSlash path then throw .isDirectory
  match ← tree.step directory (lastName path) with
  | .file found => return ⟨"", tree.replaced found text⟩
  | .absent found => return ⟨"", tree.added found text⟩
  | .directory _ => throw .isDirectory
  | .device .sink => return ⟨"", tree⟩
  | .device .full => throw .noSpace
  | .device .output => return ⟨text, tree⟩

end FileTree
end GraphQLProjections
