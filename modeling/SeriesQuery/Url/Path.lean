import SeriesQuery.Text.Split
import SeriesQuery.Url.Percent

/-!
The paths of URLs. Dot segments are followed while a path is read, so that none is left in it,
and they never lead back past a drive letter.
-/

namespace SeriesQuery.Url

def isDot (segment : List Char) : Bool :=
  [['.'], ['%', '2', 'e']].contains (segment.map Char.toLower)

def isDoubleDot (segment : List Char) : Bool :=
  [['.', '.'], ['.', '%', '2', 'e'], ['%', '2', 'e', '.'], ['%', '2', 'e', '%', '2', 'e']].contains
    (segment.map Char.toLower)

/-- Whether a segment is a drive letter, with a colon or a bar, and maybe more of it follows
after a backslash. -/
def startsWithDrive : List Char → Bool
  | letter :: mark :: rest =>
    letter.isAlpha && (mark = ':' || mark = '|') && (rest.isEmpty || rest.head? = some '\\')
  | _ => false

/-- Goes back one segment from those passed so far, the last of which is first. -/
def goBack : List (List Char) → List (List Char)
  | [] => []
  | segment :: passed => if startsWithDrive segment then segment :: passed else passed

/-- Follows the segments from those passed already, the last of which is first. A path that ends
in dots ends in a slash. -/
def followSegments : List (List Char) → List (List Char) → List (List Char)
  | passed, [] => passed.reverse
  | passed, segment :: rest =>
    let ending := if rest.isEmpty then [[]] else []
    if isDoubleDot segment then followSegments (ending ++ goBack passed) rest
    else if isDot segment then followSegments (ending ++ passed) rest
    else followSegments (percentEncode keepInPath segment :: passed) rest

/-- The segments that are left of what follows the first slash of a path. -/
def readSegments (cs : List Char) : List (List Char) :=
  followSegments [] (Text.splitAt '/' cs)

def pathOfSegments (segments : List (List Char)) : List Char :=
  '/' :: ['/'].intercalate segments

/-- What follows the first slash, which does not have to be written. -/
def dropSlash : List Char → List Char
  | '/' :: cs => cs
  | cs => cs

/-- A path is only empty if it is written so, and never in a special URL. -/
def readPath (special : Bool) (cs : List Char) : List Char :=
  if cs.isEmpty && !special then [] else pathOfSegments (readSegments (dropSlash cs))

/-- The path of a file, if its first segment is a drive letter. -/
def onDrive? : List (List Char) → Option (List Char)
  | [letter, mark] :: rest =>
    if startsWithDrive [letter, mark] then some (pathOfSegments ([letter, ':'] :: rest)) else none
  | _ => none

/-- The path of a file does not begin with empty segments. -/
def offDrive (segments : List (List Char)) : List Char :=
  pathOfSegments (segments.dropWhile List.isEmpty)

end SeriesQuery.Url
