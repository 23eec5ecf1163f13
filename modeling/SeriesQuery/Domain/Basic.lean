import SeriesQuery.Domain.Bidi
import SeriesQuery.Domain.Joining
import SeriesQuery.Domain.Mapping
import SeriesQuery.Domain.Mark
import SeriesQuery.Domain.Normal
import SeriesQuery.Domain.Punycode

/-!
Domain names in any script, and their form in ASCII: a label with other characters is written in
punycode, after a mark of four characters.
-/

namespace SeriesQuery.Domain

def isAscii (label : List Char) : Bool := label.all Punycode.isAscii

/-- What a label in punycode stands for, if that is a label in normal form. -/
def decodeLabel? (code : List Char) : Option (List Char) := do
  if 2000 < code.length || code.getLast?.all (· = '-') then none
  else
    let label ← Punycode.decode? code
    if label.all isValid && normalize label == label then some label else none

def readLabel? : List Char → Option (List Char)
  | 'x' :: 'n' :: '-' :: '-' :: code => if isAscii code then decodeLabel? code else none
  | label => some label

/-- A label does not begin with a mark, and has no joiners without use. -/
def isSound (label : List Char) : Bool :=
  isAscii label ||
    label.length ≤ 1000 && !label.head?.any isMark && joinersUseful [] label

def encodeLabel (label : List Char) : List Char :=
  if isAscii label then label else ['x', 'n', '-', '-'] ++ Punycode.encode label

/-- The labels of a name, with their characters replaced and composed. -/
def labels? (forbidden : Char → Bool) (name : List Char) : Option (List (List Char)) := do
  let name := normalize (← map? name)
  if name.any forbidden then none else (Text.splitAt '.' name).mapM readLabel?

/-- The name in ASCII, if it is one that has none of some forbidden characters. -/
def toAscii? (forbidden : Char → Bool) (name : List Char) : Option (List Char) := do
  let labels ← labels? forbidden name
  if labels.all isSound && (!labels.any hasRightward || labels.all keepsHeading) then
    some (['.'].intercalate (labels.map encodeLabel))
  else none

end SeriesQuery.Domain
