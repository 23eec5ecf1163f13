import SeriesQuery.Text.Hex
import SeriesQuery.Text.Utf8

/-!
Percent encoding of the parts of a URL, and the encoding of form data, in which a space is a
plus sign.
-/

namespace SeriesQuery.Url

def percentByte (b : UInt8) : List Char :=
  let digit (n : Nat) := (Nat.digitChar n).toUpper
  ['%', digit (b.toNat / 16), digit (b.toNat % 16)]

/-- A character that may stand for itself, or its bytes. Only ASCII characters ever may. -/
def percentEncodeChar (keep : Char → Bool) (c : Char) : List Char :=
  if c.toNat < 0x80 && keep c then [c] else (String.utf8EncodeChar c).flatMap percentByte

def percentEncode (keep : Char → Bool) (cs : List Char) : List Char :=
  cs.flatMap (percentEncodeChar keep)

def isControl (c : Char) : Bool := c.toNat < 0x20 || c.toNat = 0x7f

def keepInOpaque (c : Char) : Bool := !isControl c

def keepInFragment (c : Char) : Bool :=
  keepInOpaque c && !(c = ' ' || c = '"' || c = '<' || c = '>' || c.toNat = 0x60)

def keepInPath (c : Char) : Bool :=
  keepInFragment c && !(c = '#' || c = '?' || c = '\x7b' || c = '\x7d')

def keepInUserinfo (c : Char) : Bool :=
  keepInPath c && !(['/', ':', ';', '=', '@', '[', '\\', ']', '^', '|'].contains c)

/-- A quote is encoded in the query of a special URL alone. -/
def keepInQuery (special : Bool) (c : Char) : Bool :=
  keepInOpaque c && !(c = ' ' || c = '"' || c = '#' || c = '<' || c = '>') &&
    !(special && c = '\'')

def formEncodeByte (b : UInt8) : List Char :=
  let c := Char.ofNat b.toNat
  if c = ' ' then ['+']
  else if b < 0x80 && (c.isAlphanum || ['*', '-', '.', '_'].contains c) then [c]
  else percentByte b

def formEncode (s : String) : List Char :=
  (Text.encodeUtf8 s).flatMap formEncodeByte

/-- The bytes of a text with its percent signs resolved. One that no two digits follow stands for
itself. -/
def percentDecode : List Char → List UInt8
  | '%' :: a :: b :: rest =>
    match Text.hexNumber? [a, b] with
    | some n => .ofNat n :: percentDecode rest
    | none => 0x25 :: percentDecode (a :: b :: rest)
  | c :: rest => String.utf8EncodeChar c ++ percentDecode rest
  | [] => []

end SeriesQuery.Url
