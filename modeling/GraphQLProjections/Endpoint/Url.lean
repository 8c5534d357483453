import GraphQLProjections.Endpoint.Host

/-! Absolute URLs in normal form: a lower case scheme, a canonical host, no standard port, a path
without dot segments, and percent-encoding where a part needs it. -/
namespace GraphQLProjections

structure Authority where
  userInfo : String
  host : String
  port : Option Nat
  deriving DecidableEq, Repr, Inhabited

structure Url where
  scheme : String
  authority : Option Authority
  path : String
  query : Option String
  fragment : Option String
  deriving DecidableEq, Repr, Inhabited

namespace Url

/-- The schemes whose URLs always have a host, with their standard ports. -/
def standardPorts : List (String × Nat) :=
  [("http", 80), ("https", 443), ("ws", 80), ("wss", 443), ("ftp", 21)]

def isSpecial (scheme : String) : Bool :=
  scheme == "file" || (standardPorts.lookup scheme).isSome

def isSlash (special : Bool) (c : Char) : Bool := c == '/' || (special && c == '\\')

def endsAuthority (special : Bool) (c : Char) : Bool :=
  isSlash special c || c == '?' || c == '#'

def Authority.text (authority : Authority) : String :=
  let user := if authority.userInfo.isEmpty then "" else authority.userInfo ++ "@"
  let port := match authority.port with
    | some port => ":" ++ toString port
    | none => ""
  user ++ authority.host ++ port

/-- A path that starts with two slashes would be taken for an authority where there is none. -/
def text (url : Url) : String :=
  let place := match url.authority with
    | some authority => "//" ++ Authority.text authority
    | none => if url.path.toList.take 2 = ['/', '/'] then "/." else ""
  let query := match url.query with
    | some query => "?" ++ query
    | none => ""
  let fragment := match url.fragment with
    | some fragment => "#" ++ fragment
    | none => ""
  url.scheme ++ ":" ++ place ++ url.path ++ query ++ fragment

/-! ### Authority -/

def upTo (p : Char → Bool) (cs : List Char) : List Char × List Char :=
  (cs.takeWhile (!p ·), cs.dropWhile (!p ·))

def splitUser? : List Char → Option (List Char × List Char)
  | [] => none
  | c :: rest =>
    match splitUser? rest with
    | some (before, after) => some (c :: before, after)
    | none => if c = '@' then some ([], rest) else none

/-- The user, and a password after the first colon if it is not empty. -/
def userInfoText (cs : List Char) : String :=
  let (user, rest) := upTo (· == ':') cs
  let password := rest.drop 1
  String.ofList <| Percent.encode Percent.userInfoSet user ++
    if password.isEmpty then [] else ':' :: Percent.encode Percent.userInfoSet password

/-- The host text ends at a colon that stands in no brackets. -/
def splitHost (inside : Bool) : List Char → List Char × List Char
  | [] => ([], [])
  | c :: rest =>
    if c = ':' ∧ !inside then ([], c :: rest)
    else
      let inside := if c = '[' then true else if c = ']' then false else inside
      let (host, after) := splitHost inside rest
      (c :: host, after)

/-- A port of 16 bits; the standard one of the scheme and an empty one are left out. -/
def portOf (scheme : String) (cs : List Char) : Except UrlFault (Option Nat) :=
  if !cs.all Char.isDigit then .error .port
  else
    let port := Document.digitsValue cs
    if 65535 < port then .error .port
    else if cs.isEmpty || standardPorts.lookup scheme == some port then .ok none
    else .ok (some port)

/-- Where a port of a URL ends; there a backslash counts as a slash in every scheme. -/
def splitPort (cs : List Char) : List Char × List Char := upTo (endsAuthority true) cs

def authorityOf (scheme : String) (cs : List Char) : Except UrlFault (Authority × List Char) := do
  let special := isSpecial scheme
  let (whole, rest) := upTo (endsAuthority special) cs
  let (user, place) ← match splitUser? whole with
    | none => pure ([], whole)
    | some ([], []) => if rest.isEmpty then pure ([], []) else throw .emptyHost
    | some parts => pure parts
  let (hostText, after) := splitHost false place
  let host ← if special then
      if hostText.isEmpty then throw UrlFault.emptyHost else Host.special hostText
    else Host.opaqueHost hostText
  let userInfo := userInfoText user
  if host.isEmpty && !after.isEmpty then throw .emptyHost
  if host.isEmpty && !userInfo.isEmpty then throw .emptyHost
  let (portText, beyond) := splitPort (after.drop 1)
  let port ← portOf scheme portText
  return (⟨userInfo, String.ofList host, port⟩, beyond ++ rest)

/-! ### Path -/

def lowerAscii (cs : List Char) : List Char := cs.map Char.toLower

def isSingleDot (segment : List Char) : Bool :=
  [".", "%2e"].any (·.toList == lowerAscii segment)

def isDoubleDot (segment : List Char) : Bool :=
  ["..", ".%2e", "%2e.", "%2e%2e"].any (·.toList == lowerAscii segment)

def isDriveLetter : List Char → Bool
  | [letter, mark] => letter.isAlpha && (mark == ':' || mark == '|')
  | _ => false

def startsWithDriveLetter (segment : List Char) : Bool :=
  isDriveLetter (segment.take 2) && (segment.drop 2).head?.all (· == '\\')

def withColon (segment : List Char) : List Char :=
  if isDriveLetter segment then segment.take 1 ++ [':'] else segment

def segmentsOf (special : Bool) (cs : List Char) : List (List Char) :=
  (cs.map fun c => if isSlash special c then '/' else c).splitOn '/'

/-- Drop the last segment, but none that starts with a drive letter. -/
def withoutLast (path : List (List Char)) : List (List Char) :=
  if path.getLast?.any startsWithDriveLetter then path else path.dropLast

/-- Resolve the dot segments of a path; one at the end leaves an empty segment. A file path may
start with a drive letter. -/
def resolve (file : Bool) (path : List (List Char)) : List (List Char) → List (List Char)
  | [] => path
  | segment :: rest =>
    let shown := Percent.encode Percent.pathSet segment
    let ending := if rest.isEmpty then [[]] else []
    if isDoubleDot shown then resolve file (withoutLast path ++ ending) rest
    else if isSingleDot shown then resolve file (path ++ ending) rest
    else if file && path.isEmpty then resolve file [withColon shown] rest
    else resolve file (path ++ [shown]) rest

def joined (segments : List (List Char)) : String :=
  String.ofList (segments.flatMap ('/' :: ·))

def pathAfterSlash (special : Bool) (cs : List Char) : String :=
  joined (resolve false [] (segmentsOf special cs))

def pathOf (special : Bool) (cs : List Char) : String :=
  match cs with
  | [] => if special then "/" else ""
  | c :: rest =>
    if isSlash special c then pathAfterSlash special rest
    else pathAfterSlash special cs

/-! ### Query and fragment -/

def splitSuffix (cs : List Char) : List Char × Option (List Char) × Option (List Char) :=
  let (front, fragment) := upTo (· == '#') cs
  let (path, query) := upTo (· == '?') front
  (path, if query.isEmpty then none else some (query.drop 1),
    if fragment.isEmpty then none else some (fragment.drop 1))

def withSuffix (scheme : String) (authority : Option Authority) (path : String)
    (query fragment : Option (List Char)) : Url :=
  let querySet := if isSpecial scheme then Percent.specialQuerySet else Percent.querySet
  { scheme, authority, path
    query := query.map fun cs => String.ofList (Percent.encode querySet cs)
    fragment := fragment.map fun cs => String.ofList (Percent.encode Percent.fragmentSet cs) }

/-! ### Whole URLs -/

def hierarchical (scheme : String) (cs : List Char) : Except UrlFault Url := do
  let (authority, rest) ← authorityOf scheme cs
  let (pathText, query, fragment) := splitSuffix rest
  return withSuffix scheme (some authority) (pathOf (isSpecial scheme) pathText) query fragment

/-- A file path has no empty segments at its start. -/
def filePath (segments : List (List Char)) : String :=
  match segments.dropWhile List.isEmpty with
  | [] => joined [[]]
  | segments => joined segments

/-- A file URL with a host and a path text. A path that starts with a drive letter is on no host. -/
def fileUrl (host : String) (cs : List Char) (query fragment : Option (List Char)) : Url :=
  let segments := resolve true [] (segmentsOf true cs)
  let host := if segments.head?.any isDriveLetter then "" else host
  withSuffix "file" (some ⟨"", host, none⟩) (filePath segments) query fragment

def withoutSlash (cs : List Char) : List Char :=
  if cs.head?.any (isSlash true) then cs.drop 1 else cs

/-- A file URL: a host is only read after two slashes, and a drive letter in its place is part of
the path. Where the host is empty, the slash after it counts as a segment. -/
def ofFile (cs : List Char) : Except UrlFault Url := do
  let (beforeSuffix, query, fragment) := splitSuffix cs
  match beforeSuffix with
  | a :: b :: rest =>
    if isSlash true a && isSlash true b then
      let (hostText, after) := upTo (isSlash true) rest
      if hostText.isEmpty then return fileUrl "" after query fragment
      else if isDriveLetter hostText then return fileUrl "" rest query fragment
      else
        let host ← Host.special hostText
        if host = "localhost".toList then return fileUrl "" after query fragment
        else return fileUrl (String.ofList host) (withoutSlash after) query fragment
    else return fileUrl "" (withoutSlash beforeSuffix) query fragment
  | _ => return fileUrl "" (withoutSlash beforeSuffix) query fragment

def ofOtherScheme (scheme : String) (cs : List Char) : Except UrlFault Url :=
  match cs with
  | '/' :: '/' :: rest => hierarchical scheme rest
  | _ =>
    let (pathText, query, fragment) := splitSuffix cs
    let path := match pathText with
      | '/' :: rest => pathAfterSlash false rest
      | _ => String.ofList (Percent.encode [] pathText)
    .ok (withSuffix scheme none path query fragment)

def isSchemePart (c : Char) : Bool := c.isAlphanum || c == '+' || c == '-' || c == '.'

def splitScheme? (cs : List Char) : Option (String × List Char) :=
  match cs, upTo (· == ':') cs with
  | first :: _, (scheme, ':' :: rest) =>
    if first.isAlpha && scheme.all isSchemePart then some (String.ofList (lowerAscii scheme), rest)
    else none
  | _, _ => none

/-- Controls and spaces around a URL, and tabs and line ends anywhere, do not count. -/
def significant (text : String) : List Char :=
  let isOuter (c : Char) : Bool := c.toNat ≤ 0x20
  let inner := ((text.toList.dropWhile isOuter).reverse.dropWhile isOuter).reverse
  inner.filter fun c => c ≠ '\t' ∧ c ≠ '\n' ∧ c ≠ '\r'

def parse (text : String) : Except UrlFault Url :=
  match splitScheme? (significant text) with
  | none => .error .relativeWithoutBase
  | some (scheme, rest) =>
    if scheme = "file" then ofFile rest
    else if isSpecial scheme then hierarchical scheme (rest.dropWhile (isSlash true))
    else ofOtherScheme scheme rest

end Url
end GraphQLProjections
