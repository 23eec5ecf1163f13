import SeriesQuery.Json.Basic
import SeriesQuery.Text.Quoted

/-!
Taking data out of JSON, and what can be wrong with it.
-/

namespace SeriesQuery.Json

/-- What is found in the data, as messages call it. -/
def description : Json → String
  | null => "null"
  | bool b => "boolean `" ++ (if b then "true" else "false") ++ "`"
  | int n => "integer `" ++ toString n ++ "`"
  | float x => "floating point `" ++ x.compactText ++ "`"
  | string s => "string " ++ Text.quoted s
  | array _ => "sequence"
  | object _ => "map"

inductive DecodeError
  | wrongType (found : Json) (expected : String)
  | outOfRange (n : Int) (expected : String)
  | missingField (name : String)
  | tooFewItems (found wanted : Nat) (expected : String)
  | tooManyItems (found : Nat)
  | notSingleKey
  | unknownVariant (name : String) (known : List String)

def DecodeError.message : DecodeError → String
  | wrongType found expected =>
    "invalid type: " ++ found.description ++ ", expected " ++ expected
  | outOfRange n expected =>
    "invalid value: " ++ (int n).description ++ ", expected " ++ expected
  | missingField name => "missing field `" ++ name ++ "`"
  | tooFewItems found wanted expected =>
    "invalid length " ++ toString found ++ ", expected " ++ expected ++ " with " ++
      toString wanted ++ " elements"
  | tooManyItems found =>
    "invalid length " ++ toString found ++ ", expected fewer elements in array"
  | notSingleKey => "invalid value: map, expected map with a single key"
  | unknownVariant name known =>
    "unknown variant `" ++ name ++ "`, expected " ++
      " or ".intercalate (known.map fun k => "`" ++ k ++ "`")

abbrev Decoded := Except DecodeError

def asText : Json → Decoded String
  | string s => .ok s
  | j => .error (.wrongType j "a string")

/-- A whole number that is not negative and less than `size`. -/
def asWord (expected : String) (size : Nat) : Json → Decoded Nat
  | int n =>
    if 0 ≤ n ∧ n < size then .ok n.toNat else .error (.outOfRange n expected)
  | j => .error (.wrongType j expected)

def asWord16 (j : Json) : Decoded UInt16 := (asWord "u16" UInt16.size j).map .ofNat

def asWord32 (j : Json) : Decoded UInt32 := (asWord "u32" UInt32.size j).map .ofNat

def asWord64 (j : Json) : Decoded UInt64 := (asWord "u64" UInt64.size j).map .ofNat

/-- One of some names, given as a string or as the only key of an object without a value. -/
def asVariant (known : List String) (j : Json) : Decoded String := do
  let (name, payload) ← match j with
    | string s => pure (s, null)
    | object [field] => pure field
    | object _ => throw .notSingleKey
    | _ => throw (.wrongType j "string or map")
  if !known.contains name then throw (.unknownVariant name known)
  match payload with
  | null => return name
  | _ => throw (.wrongType payload "unit")

end SeriesQuery.Json
