import SeriesQuery.Text.Hex
import SeriesQuery.Text.Split

/-!
Tables of characters, written as text. An entry is `first-last=values` in hexadecimal, with
commas between the values, and stands for the characters from the first to the last one. A colon
in the place of the hyphen leaves out every other one of them. The last character and the values
may be missing. Entries are in ascending order.
-/

namespace SeriesQuery.Domain

structure Entry where
  first : Nat
  last : Nat
  step : Nat
  values : List Nat

abbrev Table := Array Entry

namespace Entry

def covers (e : Entry) (code : Nat) : Bool := (code - e.first) % e.step == 0

def number (digits : List Char) : Nat := (Text.hexNumber? digits).getD 0

def ofText (cs : List Char) : Entry :=
  let (characters, values) := Text.cutAt '=' cs
  let values := match values with
    | none | some [] => []
    | some values => (Text.splitAt ',' values).map number
  match Text.cutAt '-' characters, Text.cutAt ':' characters with
  | (first, some last), _ => ⟨number first, number last, 1, values⟩
  | _, (first, some last) => ⟨number first, number last, 2, values⟩
  | (only, none), _ => ⟨number only, number only, 1, values⟩

end Entry

namespace Table

/-- The table on some lines, with blanks between the entries. -/
def ofLines (lines : List String) : Table :=
  (lines.flatMap fun line => (Text.splitAt ' ' line.toList).map Entry.ofText).toArray

/-- The entry of a character among those from `low` on and before `high`, by bisection. -/
def findBetween (table : Table) (code low high : Nat) : Option Entry :=
  if low < high then
    let middle := (low + high) / 2
    match table[middle]? with
    | none => none
    | some e =>
      if code < e.first then findBetween table code low middle
      else if e.last < code then findBetween table code (middle + 1) high
      else if e.covers code then some e
      else none
  else none
termination_by high - low

def find? (table : Table) (c : Char) : Option Entry :=
  table.findBetween c.toNat 0 table.size

def contains (table : Table) (c : Char) : Bool := (table.find? c).isSome

end Table

end SeriesQuery.Domain
