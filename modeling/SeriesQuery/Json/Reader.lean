import SeriesQuery.Json.Basic
import SeriesQuery.KeyMap
import SeriesQuery.Number.Nearest
import SeriesQuery.Text.Hex

/-!
Reading JSON text. The fields of an object come in ascending order of their keys, and the last
one of a key stays.
-/

namespace SeriesQuery.Json

def skipBlanks (cs : List Char) : List Char :=
  cs.dropWhile fun c => c = ' ' || c = '\t' || c = '\n' || c = '\r'

/-- The character that stands for another one after a backslash. -/
def unescape? : Char → Option Char
  | '"' => some '"'
  | '\\' => some '\\'
  | '/' => some '/'
  | 'b' => some '\x08'
  | 'f' => some '\x0c'
  | 'n' => some '\n'
  | 'r' => some '\r'
  | 't' => some '\t'
  | _ => none

def isHighSurrogate (unit : Nat) : Bool := 0xd800 ≤ unit && unit < 0xdc00

def isLowSurrogate (unit : Nat) : Bool := 0xdc00 ≤ unit && unit < 0xe000

/-- Reads a string up to its closing quote. A character may be written as two surrogates, of
which `high` is the first if it has been read already. -/
def readString : Option Nat → List Char → Option (List Char × List Char)
  | _, [] => none
  | high, '\\' :: 'u' :: a :: b :: c :: d :: rest =>
    match Text.hexNumber? [a, b, c, d], high with
    | none, _ => none
    | some unit, some high =>
      if isLowSurrogate unit then
        (readString none rest).map fun (cs, rest) =>
          (.ofNat (0x10000 + (high - 0xd800) * 0x400 + (unit - 0xdc00)) :: cs, rest)
      else none
    | some unit, none =>
      if isHighSurrogate unit then readString (some unit) rest
      else if isLowSurrogate unit then none
      else (readString none rest).map fun (cs, rest) => (.ofNat unit :: cs, rest)
  | some _, _ => none
  | none, '"' :: rest => some ([], rest)
  | none, '\\' :: c :: rest =>
    match unescape? c with
    | none => none
    | some c => (readString none rest).map fun (cs, rest) => (c :: cs, rest)
  | none, c :: rest =>
    if c.toNat < 0x20 then none else (readString none rest).map fun (cs, rest) => (c :: cs, rest)

def takeDigits (cs : List Char) : List Char × List Char :=
  (cs.takeWhile Char.isDigit, cs.dropWhile Char.isDigit)

/-- Digits without superfluous zeros at the front. -/
def readWhole (cs : List Char) : Option (List Char × List Char) :=
  match takeDigits cs with
  | ([], _) => none
  | ('0' :: _ :: _, _) => none
  | (digits, rest) => some (digits, rest)

def readFraction : List Char → Option (Option (List Char) × List Char)
  | '.' :: rest =>
    match takeDigits rest with
    | ([], _) => none
    | (digits, rest) => some (some digits, rest)
  | rest => some (none, rest)

def readSign : List Char → Bool × List Char
  | '-' :: rest => (true, rest)
  | '+' :: rest => (false, rest)
  | rest => (false, rest)

def readExponent : List Char → Option (Option Int × List Char)
  | c :: rest =>
    if c = 'e' ∨ c = 'E' then
      match readSign rest with
      | (negative, rest) =>
        match takeDigits rest with
        | ([], _) => none
        | (digits, rest) =>
          let n : Int := Nat.ofDigitChars 10 digits 0
          some (some (if negative then -n else n), rest)
    else some (none, c :: rest)
  | [] => some (none, [])

/-- The nearest binary number, if there is a finite one. Numbers far out of range are settled
without being computed. -/
def finiteNearest? (d : Decimal) (places : Nat) (negative : Bool) : Option Binary64 :=
  if d.digits = 0 ∨ d.exponent + places < -400 then some (Binary64.pack negative 0 0)
  else if 400 < d.exponent + places then none
  else
    let x := d.nearest negative
    if x.isFinite then some x else none

/-- A whole number that fits in 64 bits, with a sign or without one, is kept as it is. -/
def numberOf (negative : Bool) (whole fraction : List Char) (exponent : Int) (isWhole : Bool) :
    Option Json :=
  let digits := Nat.ofDigitChars 10 (whole ++ fraction) 0
  if isWhole ∧ (if negative then 0 < digits ∧ 2 * digits ≤ UInt64.size else digits < UInt64.size) then
    some (int (if negative then -digits else digits))
  else
    (finiteNearest? ⟨digits, exponent - fraction.length⟩ (whole ++ fraction).length negative).map
      float

def readNumber (cs : List Char) : Option (Json × List Char) := do
  let (negative, cs) := match cs with
    | '-' :: rest => (true, rest)
    | rest => (false, rest)
  let (whole, cs) ← readWhole cs
  let (fraction, cs) ← readFraction cs
  let (exponent, cs) ← readExponent cs
  let j ← numberOf negative whole (fraction.getD []) (exponent.getD 0)
    (fraction.isNone && exponent.isNone)
  return (j, cs)

mutual

/-- Reads one value. The fuel is used up by at most one for each character. -/
def readValue : Nat → List Char → Option (Json × List Char)
  | 0, _ => none
  | fuel + 1, cs =>
    match skipBlanks cs with
    | 'n' :: 'u' :: 'l' :: 'l' :: rest => some (null, rest)
    | 't' :: 'r' :: 'u' :: 'e' :: rest => some (bool true, rest)
    | 'f' :: 'a' :: 'l' :: 's' :: 'e' :: rest => some (bool false, rest)
    | '"' :: rest => (readString none rest).map fun (s, rest) => (string (.ofList s), rest)
    | '[' :: rest =>
      match skipBlanks rest with
      | ']' :: rest => some (array [], rest)
      | rest => (readItems fuel rest).map fun (items, rest) => (array items, rest)
    | '\x7b' :: rest =>
      match skipBlanks rest with
      | '\x7d' :: rest => some (object [], rest)
      | rest =>
        (readFields fuel rest).map fun (fields, rest) => (object (KeyMap.ofList fields), rest)
    | rest => readNumber rest

def readItems : Nat → List Char → Option (List Json × List Char)
  | 0, _ => none
  | fuel + 1, cs => do
    let (item, rest) ← readValue fuel cs
    match skipBlanks rest with
    | ',' :: rest =>
      let (items, rest) ← readItems fuel rest
      return (item :: items, rest)
    | ']' :: rest => return ([item], rest)
    | _ => none

def readFields : Nat → List Char → Option (List (String × Json) × List Char)
  | 0, _ => none
  | fuel + 1, cs => do
    let '"' :: rest := skipBlanks cs | none
    let (key, rest) ← readString none rest
    let ':' :: rest := skipBlanks rest | none
    let (value, rest) ← readValue fuel rest
    match skipBlanks rest with
    | ',' :: rest =>
      let (fields, rest) ← readFields fuel rest
      return ((.ofList key, value) :: fields, rest)
    | '\x7d' :: rest => return ([(.ofList key, value)], rest)
    | _ => none

end

/-- The value that a text holds, with nothing but blanks around it. -/
def read? (s : String) : Option Json :=
  match readValue (s.toList.length + 1) s.toList with
  | some (j, rest) => if (skipBlanks rest).isEmpty then some j else none
  | none => none

end SeriesQuery.Json
