/-!
Punycode: text as letters, digits and hyphens. The ASCII characters come first, and the others
follow as numbers that tell where each is put in, from the least code point up.
-/

namespace SeriesQuery.Domain.Punycode

/-- What a digit in the `k`th place has to be below to be the last one. -/
def threshold (k bias : Nat) : Nat :=
  if k ≤ bias then 1 else if bias + 26 ≤ k then 26 else k - bias

theorem threshold_pos (k bias : Nat) : 0 < threshold k bias := by
  grind [threshold]

/-- A number brought down to 455 or less, with the places that this takes. -/
def scaleDown (delta k : Nat) : Nat × Nat :=
  if 455 < delta then scaleDown (delta / 35) (k + 36) else (delta, k)
termination_by delta

/-- The bias that fits the next number, after one that led to so many characters. -/
def adapt (delta characters : Nat) (isFirst : Bool) : Nat :=
  let delta := if isFirst then delta / 700 else delta / 2
  let (delta, k) := scaleDown (delta + delta / characters) 0
  k + 36 * delta / (delta + 38)

def initialBias : Nat := 72

def isAscii (c : Char) : Bool := c.toNat < 0x80

/-! ## Reading -/

def digit? (c : Char) : Option Nat :=
  if 'a' ≤ c ∧ c ≤ 'z' then some (c.toNat - 'a'.toNat)
  else if '0' ≤ c ∧ c ≤ '9' then some (c.toNat - '0'.toNat + 26)
  else none

/-- Numbers beyond 32 bits are refused. -/
def limit : Nat := 0x100000000

/-- Adds a number to `total`, its digits from the `k`th place on weighing `weight` and more. -/
def readNumber? (bias : Nat) : Nat → Nat → Nat → List Char → Option (Nat × List Char)
  | _, _, _, [] => none
  | k, weight, total, c :: cs => do
    let digit ← digit? c
    let total := total + digit * weight
    let weight' := weight * (36 - threshold k bias)
    if limit ≤ total then none
    else if digit < threshold k bias then some (total, cs)
    else if limit ≤ weight' then none
    else readNumber? bias (k + 36) weight' total cs

def isScalar (code : Nat) : Bool := code < 0xd800 || 0xe000 ≤ code && code < 0x110000

/-- Puts in a character for each number, the last of which had the given code point and stood
right before `place`. The fuel is used up by at most one for each digit. -/
def insertAll? : Nat → List Char → Nat → Nat → Nat → List Char → Option (List Char)
  | _, text, _, _, _, [] => some text
  | 0, _, _, _, _, _ => none
  | fuel + 1, text, code, place, bias, digits => do
    let (total, rest) ← readNumber? bias 36 1 place digits
    let characters := text.length + 1
    let code := code + total / characters
    let place' := total % characters
    if isScalar code then
      insertAll? fuel (text.insertIdx place' (.ofNat code)) code (place' + 1)
        (adapt (total - place) characters (place == 0)) rest
    else none

/-- The ASCII characters before the last hyphen, if there are any, and the digits. -/
def splitAscii (cs : List Char) : List Char × List Char :=
  let digits := (cs.reverse.takeWhile (· != '-')).reverse
  let front := cs.take (cs.length - digits.length - 1)
  if front.isEmpty then ([], cs) else (front, digits)

def decode? (cs : List Char) : Option (List Char) :=
  let (front, digits) := splitAscii cs
  insertAll? digits.length front 0x80 0 initialBias digits

/-! ## Writing -/

def digitChar (n : Nat) : Char :=
  if n < 26 then .ofNat ('a'.toNat + n) else .ofNat ('0'.toNat + (n - 26))

/-- The digits of a number from the `k`th place on, the least of them first. -/
def writeNumber (bias k n : Nat) : List Char :=
  let t := threshold k bias
  if n < t then [digitChar n]
  else digitChar (t + (n - t) % (36 - t)) :: writeNumber bias (k + 36) ((n - t) / (36 - t))
termination_by n
decreasing_by
  have := threshold_pos k bias
  have := Nat.div_le_self (n - threshold k bias) (36 - threshold k bias)
  omega

/-- Text in the writing. -/
structure Progress where
  /-- How far the next character is from the last one, in places and passes over the text. -/
  delta : Nat
  bias : Nat
  /-- The characters that are written. -/
  written : Nat
  digits : List Char

/-- Passes over a text and writes where the characters of one code point stand, those of less
being there already. -/
def writePass (text : List Char) (asciiCount code : Nat) (p : Progress) : Progress :=
  text.foldl (fun p c =>
    if c.toNat < code then { p with delta := p.delta + 1 }
    else if c.toNat = code then
      { delta := 0
        bias := adapt p.delta (p.written + 1) (p.written == asciiCount)
        written := p.written + 1
        digits := p.digits ++ writeNumber p.bias 36 p.delta }
    else p) p

/-- One pass for each code point, the last of which was the one before `next`. -/
def writePasses (text : List Char) (asciiCount : Nat) : Nat → List Nat → Progress → Progress
  | _, [], p => p
  | next, code :: codes, p =>
    let p := writePass text asciiCount code
      { p with delta := p.delta + (code - next) * (p.written + 1) }
    writePasses text asciiCount (code + 1) codes { p with delta := p.delta + 1 }

def encode (text : List Char) : List Char :=
  let front := text.filter isAscii
  let codes := ((text.filter (!isAscii ·)).map Char.toNat).mergeSort.eraseDups
  let p := writePasses text front.length 0x80 codes ⟨0, initialBias, front.length, []⟩
  front ++ (if front.isEmpty then [] else ['-']) ++ p.digits

end SeriesQuery.Domain.Punycode
