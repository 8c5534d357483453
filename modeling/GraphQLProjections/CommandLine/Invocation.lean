import GraphQLProjections.Settings

/-! What a command line asks for. Options are taken from left to right, and the first one that
cannot be taken ends the reading. -/
namespace GraphQLProjections

structure Invocation where
  schemas : List String := []
  url : Option String := none
  headers : List (String × String) := []
  timeout : Option Nat := none
  config : Option String := none
  queries : List String := []
  maxDepth : Option Nat := none
  unbounded : Bool := false
  shortNames : Bool := false
  skipEntities : Bool := false
  out : Option String := none
  verbose : Bool := false
  quiet : Bool := false
  deriving DecidableEq, Repr, Inhabited

inductive Interruption where
  | usage
  | version
  | help
  deriving DecidableEq, Repr, Inhabited

namespace Invocation

/-- Options without a value. -/
inductive Switch where
  | unbounded
  | shortNames
  | skipEntities
  | verbose
  | quiet
  | version
  | help
  deriving DecidableEq, Repr

inductive Setting where
  | schema
  | url
  | header
  | timeout
  | config
  | query
  | maxDepth
  | out
  deriving DecidableEq, Repr

def longSwitches : List (String × Switch) :=
  [("unbounded", .unbounded), ("short-names", .shortNames), ("skip-entities", .skipEntities),
   ("verbose", .verbose), ("quiet", .quiet), ("version", .version), ("help", .help)]

def longSettings : List (String × Setting) :=
  [("schema", .schema), ("url", .url), ("header", .header), ("timeout", .timeout),
   ("config", .config), ("query", .query), ("max-depth", .maxDepth), ("out", .out)]

def shortSwitches : List (Char × Switch) :=
  [('v', .verbose), ('q', .quiet), ('V', .version), ('h', .help)]

def refuse : Except Interruption α := .error .usage

def switchedOn (set : Bool) (result : Invocation) : Except Interruption Invocation :=
  if set then refuse else .ok result

def applySwitch (invocation : Invocation) : Switch → Except Interruption Invocation
  | .unbounded => switchedOn invocation.unbounded { invocation with unbounded := true }
  | .shortNames => switchedOn invocation.shortNames { invocation with shortNames := true }
  | .skipEntities => switchedOn invocation.skipEntities { invocation with skipEntities := true }
  | .verbose => switchedOn invocation.verbose { invocation with verbose := true }
  | .quiet => switchedOn invocation.quiet { invocation with quiet := true }
  | .version => .error .version
  | .help => .error .help

/-- A number of 64 bits, with or without a plus sign. -/
def number? (text : String) : Option Nat :=
  let digits := match text.toList with
    | '+' :: rest => rest
    | cs => cs
  let value := Document.digitsValue digits
  if !digits.isEmpty && digits.all Char.isDigit && value < Nat.pow 2 64 then some value else none

/-- A name that is not blank, a colon and a value, both without outer blanks. -/
def header? (text : String) : Option (String × String) :=
  let cs := text.toList
  if cs.contains ':' then
    let name := Text.trimmed (String.ofList (cs.takeWhile (· ≠ ':')))
    let value := Text.trimmed (String.ofList ((cs.dropWhile (· ≠ ':')).drop 1))
    if name.isEmpty then none else some (name, value)
  else none

def file? (text : String) : Option String := if text.isEmpty then none else some text

def single (held : Option α) (value : Option β) (result : β → Invocation) :
    Except Interruption Invocation :=
  match held, value with
  | none, some value => .ok (result value)
  | _, _ => refuse

def applySetting (invocation : Invocation) (setting : Setting) (text : String) :
    Except Interruption Invocation :=
  match setting with
  | .schema =>
    match file? text with
    | some file => .ok { invocation with schemas := invocation.schemas ++ [file] }
    | none => refuse
  | .query =>
    match file? text with
    | some file => .ok { invocation with queries := invocation.queries ++ [file] }
    | none => refuse
  | .header =>
    match header? text with
    | some header => .ok { invocation with headers := invocation.headers ++ [header] }
    | none => refuse
  | .url => single invocation.url (some text) fun url => { invocation with url := some url }
  | .config =>
    single invocation.config (file? text) fun file => { invocation with config := some file }
  | .out => single invocation.out (file? text) fun file => { invocation with out := some file }
  | .timeout =>
    single invocation.timeout (number? text) fun value => { invocation with timeout := some value }
  | .maxDepth =>
    single invocation.maxDepth (number? text) fun value =>
      { invocation with maxDepth := some value }

def looksLikeOption (text : String) : Bool :=
  match text.toList with
  | '-' :: _ :: _ => true
  | _ => false

inductive Piece where
  | switches (all : List Switch)
  | complete (before : List Switch) (setting : Setting) (value : String)
  | awaiting (before : List Switch) (setting : Setting)
  /-- After these switches the argument makes no sense. -/
  | senseless (before : List Switch)
  | terminator

/-- A group of short options; the one with a value takes the rest of the group. -/
def shortPiece (before : List Switch) : List Char → Piece
  | [] => .switches before
  | 'o' :: [] => .awaiting before .out
  | 'o' :: '=' :: rest => .complete before .out (String.ofList rest)
  | 'o' :: rest => .complete before .out (String.ofList rest)
  | c :: rest =>
    match shortSwitches.lookup c with
    | some switch => shortPiece (before ++ [switch]) rest
    | none => .senseless before

def longPiece (cs : List Char) : Piece :=
  let name := String.ofList (cs.takeWhile (· ≠ '='))
  let attached := (cs.dropWhile (· ≠ '=')).head?.map fun _ =>
    String.ofList ((cs.dropWhile (· ≠ '=')).drop 1)
  match longSettings.lookup name, longSwitches.lookup name, attached with
  | some setting, _, some value => .complete [] setting value
  | some setting, _, none => .awaiting [] setting
  | none, some switch, none => .switches [switch]
  | _, _, _ => .senseless []

def piece (argument : String) : Piece :=
  match argument.toList with
  | ['-', '-'] => .terminator
  | '-' :: '-' :: rest => longPiece rest
  | '-' :: c :: rest => shortPiece [] (c :: rest)
  | _ => .senseless []

def applyAll (invocation : Invocation) (switches : List Switch) :
    Except Interruption Invocation :=
  switches.foldlM applySwitch invocation

def take (invocation : Invocation) : List String → Except Interruption Invocation
  | [] => .ok invocation
  | argument :: rest =>
    match piece argument with
    | .terminator => if rest.isEmpty then .ok invocation else refuse
    | .switches all => do take (← invocation.applyAll all) rest
    | .senseless before => do
      discard <| invocation.applyAll before
      refuse
    | .complete before setting value => do
      take (← (← invocation.applyAll before).applySetting setting value) rest
    | .awaiting before setting =>
      match rest with
      | [] => do
        discard <| invocation.applyAll before
        refuse
      | value :: rest => do
        let invocation ← invocation.applyAll before
        if looksLikeOption value then refuse
        else take (← invocation.applySetting setting value) rest

def isConsistent (invocation : Invocation) : Bool :=
  !(invocation.unbounded && invocation.maxDepth.isSome) && !(invocation.verbose && invocation.quiet)

/-- Read a command line without the name of the program. -/
def parse (arguments : List String) : Except Interruption Invocation :=
  match take {} arguments with
  | .error interruption => .error interruption
  | .ok invocation => if invocation.isConsistent then .ok invocation else refuse

def adjust (invocation : Invocation) (settings : Settings) : Settings :=
  { settings with
    maxDepth := if invocation.unbounded then none
      else if invocation.maxDepth.isSome then invocation.maxDepth
      else settings.maxDepth
    shortNames := settings.shortNames || invocation.shortNames
    skipEntities := settings.skipEntities || invocation.skipEntities
    definedOnly := settings.definedOnly || !invocation.queries.isEmpty }

end Invocation
end GraphQLProjections
