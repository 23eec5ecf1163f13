import SeriesQuery.Json.Decode

/-!
The encodings in which rows can be asked for.
-/

namespace SeriesQuery

inductive Format
  | json | csv
  deriving DecidableEq

namespace Format

def all : List Format := [.json, .csv]

def default : Format := .json

def name : Format → String
  | .json => "json"
  | .csv => "csv"

def ofName? (name : String) : Option Format :=
  all.find? (·.name == name)

def ofJson (j : Json) : Json.Decoded Format := do
  let name ← Json.asVariant (all.map Format.name) j
  return (ofName? name).getD default

end Format

end SeriesQuery
