import SeriesQuery.Domain.Basic
import SeriesQuery.Url.Percent

/-!
The hosts of URLs: domain names, and addresses of four numbers or of eight.
-/

namespace SeriesQuery.Url

/-- Why a text is no URL. -/
inductive Fault
  | relative
  | emptyHost
  | invalidPort
  | invalidDomain
  | invalidDomainCharacter
  | invalidIpv4
  | invalidIpv6
  deriving DecidableEq

def Fault.message : Fault → String
  | relative => "relative URL without a base"
  | emptyHost => "empty host"
  | invalidPort => "invalid port number"
  | invalidDomain => "invalid international domain name"
  | invalidDomainCharacter => "invalid domain character"
  | invalidIpv4 => "invalid IPv4 address"
  | invalidIpv6 => "invalid IPv6 address"

/-! ## Addresses of four numbers -/

def digitsInBase? (base : Nat) (digits : List Char) : Option Nat :=
  digits.foldlM (fun n c => do
    let d ← Text.hexValue? c
    if d < base then some (base * n + d) else none) 0

/-- A number in an address: hexadecimal after `0x`, octal after another `0`, decimal otherwise. -/
def addressNumber? : List Char → Option Nat
  | [] => none
  | '0' :: c :: digits =>
    if c = 'x' ∨ c = 'X' then digitsInBase? 16 digits else digitsInBase? 8 (c :: digits)
  | digits => digitsInBase? 10 digits

def dropLastEmpty (parts : List (List Char)) : List (List Char) :=
  if parts.length > 1 ∧ parts.getLast? = some [] then parts.dropLast else parts

/-- Whether a domain is to be read as an address, since its last label is a number. -/
def endsInNumber (domain : List Char) : Bool :=
  match (dropLastEmpty (Text.splitAt '.' domain)).getLast? with
  | none => false
  | some label =>
    !label.isEmpty && (label.all Char.isDigit || (addressNumber? label).isSome)

/-- The last number of an address fills all the bytes that those before it leave. -/
def ipv4? (domain : List Char) : Option Nat := do
  let numbers ← (dropLastEmpty (Text.splitAt '.' domain)).mapM addressNumber?
  let last ← numbers.getLast?
  let front := numbers.dropLast
  let left := Nat.pow 256 (4 - front.length)
  if numbers.length ≤ 4 ∧ front.all (· < 256) ∧ last < left then
    some (front.foldl (256 * · + ·) 0 * left + last)
  else none

def ipv4Text (address : Nat) : List Char :=
  ['.'].intercalate ([3, 2, 1, 0].map fun i => Nat.toDigits 10 (address / Nat.pow 256 i % 256))

/-! ## Addresses of eight numbers -/

/-- One of the four numbers that may stand at the end, in plain decimal. -/
def byte? (digits : List Char) : Option Nat :=
  if digits.isEmpty ∨ !digits.all Char.isDigit ∨ (digits.head? = some '0' ∧ 1 < digits.length) then
    none
  else
    let n := Nat.ofDigitChars 10 digits 0
    if n < 256 then some n else none

def group? (digits : List Char) : Option Nat :=
  if digits.isEmpty ∨ 4 < digits.length then none else Text.hexNumber? digits

/-- The groups between colons. The last ones may be written as four bytes. -/
def groups? (mayEndInBytes : Bool) (cs : List Char) : Option (List Nat) :=
  if cs.isEmpty then some []
  else
    let parts := Text.splitAt ':' cs
    let last := parts.getLastD []
    if mayEndInBytes ∧ last.contains '.' then do
      let front ← parts.dropLast.mapM group?
      match ← (Text.splitAt '.' last).mapM byte? with
      | [a, b, c, d] => some (front ++ [256 * a + b, 256 * c + d])
      | _ => none
    else parts.mapM group?

/-- What stands before and after the first pair of colons, if there is one. -/
def splitAtDoubleColon : List Char → List Char × Option (List Char)
  | ':' :: ':' :: rest => ([], some rest)
  | c :: cs =>
    let (front, back) := splitAtDoubleColon cs
    (c :: front, back)
  | [] => ([], none)

def ipv6? (cs : List Char) : Option (List Nat) :=
  match splitAtDoubleColon cs with
  | (all, none) => do
    let groups ← groups? true all
    if groups.length = 8 then some groups else none
  | (front, some back) => do
    let front ← groups? false front
    let back ← groups? true back
    let missing := 8 - (front ++ back).length
    if missing = 0 then none else some (front ++ List.replicate missing 0 ++ back)

/-- The start and the length of the longest run of zeros, the first of those equally long. -/
def longestZeros (groups : List Nat) : Nat × Nat :=
  (List.range groups.length).foldl (fun (start, length) i =>
    let run := ((groups.drop i).takeWhile (· == 0)).length
    if length < run then (i, run) else (start, length)) (0, 0)

def groupsText (groups : List Nat) : List Char :=
  [':'].intercalate (groups.map (Nat.toDigits 16))

/-- Two zeros or more in a row are left out once. -/
def ipv6Text (groups : List Nat) : List Char :=
  let (start, length) := longestZeros groups
  let inner :=
    if length < 2 then groupsText groups
    else groupsText (groups.take start) ++ [':', ':'] ++ groupsText (groups.drop (start + length))
  '[' :: inner ++ [']']

/-! ## Hosts -/

def bracketed? : List Char → Option (List Char)
  | '[' :: rest => some rest
  | _ => none

def readIpv6 (rest : List Char) : Except Fault (List Char) :=
  if rest.getLast? = some ']' then
    match ipv6? rest.dropLast with
    | some groups => .ok (ipv6Text groups)
    | none => .error .invalidIpv6
  else .error .invalidIpv6

def isForbiddenInDomain (c : Char) : Bool :=
  isControl c ||
    [' ', '%', '#', '/', ':', '<', '>', '?', '@', '[', '\\', ']', '^', '|'].contains c

/-- The host of a special URL, in ASCII and in lower case. -/
def readDomain (cs : List Char) : Except Fault (List Char) :=
  match bracketed? cs with
  | some rest => readIpv6 rest
  | none =>
    match Domain.toAscii? isForbiddenInDomain (Text.decodeUtf8 (percentDecode cs)).toList with
    | none => .error .invalidDomain
    | some domain =>
      if domain.isEmpty then .error .emptyHost
      else if endsInNumber domain then
        match ipv4? domain with
        | some address => .ok (ipv4Text address)
        | none => .error .invalidIpv4
      else .ok domain

def isForbiddenInHost (c : Char) : Bool :=
  c.toNat = 0 ||
    ['\t', '\n', '\r', ' ', '#', '/', ':', '<', '>', '?', '@', '[', '\\', ']', '^', '|'].contains c

/-- The host of any other URL, whose letters are kept as they are. -/
def readOpaqueHost (cs : List Char) : Except Fault (List Char) :=
  match bracketed? cs with
  | some rest => readIpv6 rest
  | none =>
    if cs.any isForbiddenInHost then .error .invalidDomainCharacter
    else .ok (percentEncode keepInOpaque cs)

end SeriesQuery.Url
