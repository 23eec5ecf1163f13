import SeriesQuery.Url.Authority

/-!
URLs: reading them, writing them, and adding to their query.
-/

namespace SeriesQuery

/-- The parts are kept as they are written, with whatever has to be encoded. -/
structure Url where
  scheme : List Char
  authority : Option Url.Authority
  path : List Char
  query : Option (List Char)
  fragment : Option (List Char)

namespace Url

def isFile (scheme : List Char) : Bool := scheme = ['f', 'i', 'l', 'e']

def isSpecial (scheme : List Char) : Bool := isHosted scheme || isFile scheme

def isSchemeChar (c : Char) : Bool := c.isAlphanum || c = '+' || c = '-' || c = '.'

/-- The scheme in lower case, and what follows its colon. -/
def splitScheme? (cs : List Char) : Option (List Char × List Char) :=
  match cs.head?, cs.dropWhile isSchemeChar with
  | some c, ':' :: rest =>
    if c.isAlpha then some ((cs.takeWhile isSchemeChar).map Char.toLower, rest) else none
  | _, _ => none

/-- A backslash is as good as a slash in a special URL. -/
def slashes (special : Bool) (cs : List Char) : List Char :=
  if special then cs.map fun c => if c = '\\' then '/' else c else cs

/-- What comes before the first slash, and the rest from the slash on. -/
def splitAuthority (cs : List Char) : List Char × List Char :=
  (cs.takeWhile (· != '/'), cs.dropWhile (· != '/'))

/-- Authority and path of the URL of a file. A file on a drive has no host. -/
def readFile (cs : List Char) : Except Fault (Authority × List Char) := do
  let (authority, segments) ← match cs with
    | '/' :: '/' :: rest =>
      let (host, path) := splitAuthority rest
      if startsWithDrive host then pure ({}, readSegments rest)
      else
        let authority ← Authority.readFileHost host
        pure (authority, readSegments (if authority.host.isEmpty then path else dropSlash path))
    | _ => pure ({}, readSegments (dropSlash cs))
  match onDrive? segments with
  | some path => return ({}, path)
  | none => return (authority, offDrive segments)

/-- Authority and path of what follows the two slashes. -/
def readAuthorityAndPath (scheme cs : List Char) :
    Except Fault (Option Authority × List Char) := do
  let (front, path) := splitAuthority cs
  let (authority, rest) ← Authority.read scheme front
  return (some authority, readPath (isHosted scheme) (rest ++ path))

/-- Authority and path of what lies between the scheme and the query. -/
def readHierarchy (scheme cs : List Char) : Except Fault (Option Authority × List Char) :=
  if isFile scheme then (readFile cs).map fun (authority, path) => (some authority, path)
  else if isHosted scheme then readAuthorityAndPath scheme (cs.dropWhile (· = '/'))
  else
    match cs with
    | '/' :: '/' :: rest => readAuthorityAndPath scheme rest
    | '/' :: _ => .ok (none, readPath false cs)
    | _ => .ok (none, percentEncode keepInOpaque cs)

/-- Blanks and controls around a URL are ignored, and so are tabs and line ends inside it. -/
def trim (cs : List Char) : List Char :=
  let blank := fun c : Char => c.toNat ≤ 0x20
  (((cs.dropWhile blank).reverse.dropWhile blank).reverse).filter fun c =>
    !(c = '\t' || c = '\n' || c = '\r')

def parse (s : String) : Except Fault Url := do
  match splitScheme? (trim s.toList) with
  | none => throw .relative
  | some (scheme, rest) =>
    let special := isSpecial scheme
    let (rest, fragment) := Text.cutAt '#' rest
    let (rest, query) := Text.cutAt '?' rest
    let (authority, path) ← readHierarchy scheme (slashes special rest)
    return { scheme, authority, path
             query := query.map (percentEncode (keepInQuery special))
             fragment := fragment.map (percentEncode keepInFragment) }

/-- What keeps a path without an authority from being taken for one. -/
def pathGuard (u : Url) : List Char :=
  match u.authority, u.path with
  | none, '/' :: '/' :: _ => ['/', '.']
  | _, _ => []

def chars (u : Url) : List Char :=
  u.scheme ++ [':'] ++
    (match u.authority with
      | none => []
      | some a => a.chars) ++
    u.pathGuard ++ u.path ++
    (match u.query with
      | none => []
      | some query => '?' :: query) ++
    (match u.fragment with
      | none => []
      | some fragment => '#' :: fragment)

def text (u : Url) : String := String.ofList u.chars

def formPair (pair : String × String) : List Char :=
  formEncode pair.1 ++ '=' :: formEncode pair.2

/-- Adds pairs of a name and a value after the query that there is. -/
def appendPairs (u : Url) (pairs : List (String × String)) : Url :=
  let query := u.query.getD []
  let parts := (if query.isEmpty then [] else [query]) ++ pairs.map formPair
  { u with query := some (['&'].intercalate parts) }

end Url

end SeriesQuery
