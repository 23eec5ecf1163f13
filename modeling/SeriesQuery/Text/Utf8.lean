/-!
Reading bytes as UTF-8. Every longest run of bytes that begins a character but does not finish
one is read as the replacement character, and so is every byte that begins none.
-/

namespace SeriesQuery.Text

def replacementChar : Char := '\ufffd'

/-- A character under way: its value so far, how many bytes it still owes, and the range in
which the next one lies. -/
structure Pending where
  value : Nat
  owed : Nat
  low : UInt8
  high : UInt8

/-- The ranges of the second byte keep out overlong forms, surrogates and values past the last
code point. -/
def startChar (b : UInt8) : List Char × Option Pending :=
  if b < 0x80 then ([.ofNat b.toNat], none)
  else if b < 0xc2 then ([replacementChar], none)
  else if b < 0xe0 then ([], some ⟨b.toNat % 0x20, 1, 0x80, 0xbf⟩)
  else if b < 0xf0 then
    ([], some ⟨b.toNat % 0x10, 2, if b = 0xe0 then 0xa0 else 0x80, if b = 0xed then 0x9f else 0xbf⟩)
  else if b < 0xf5 then
    ([], some ⟨b.toNat % 0x08, 3, if b = 0xf0 then 0x90 else 0x80, if b = 0xf4 then 0x8f else 0xbf⟩)
  else ([replacementChar], none)

/-- The characters that one more byte settles, and what is then under way. -/
def nextByte : Option Pending → UInt8 → List Char × Option Pending
  | none, b => startChar b
  | some p, b =>
    if p.low ≤ b ∧ b ≤ p.high then
      let value := p.value * 0x40 + b.toNat % 0x40
      if p.owed ≤ 1 then ([.ofNat value], none)
      else ([], some ⟨value, p.owed - 1, 0x80, 0xbf⟩)
    else
      let (cs, pending) := startChar b
      (replacementChar :: cs, pending)

def decodeFrom : Option Pending → List UInt8 → List Char
  | none, [] => []
  | some _, [] => [replacementChar]
  | p, b :: bs =>
    let (cs, pending) := nextByte p b
    cs ++ decodeFrom pending bs

/-- The text of any bytes whatever. -/
def decodeUtf8 (bytes : List UInt8) : String :=
  String.ofList (decodeFrom none bytes)

def encodeUtf8 (s : String) : List UInt8 :=
  s.toList.flatMap String.utf8EncodeChar

/-- As many of the first characters as fit in a number of bytes. -/
def takeBytes : Nat → List Char → List Char
  | _, [] => []
  | limit, c :: cs =>
    if c.utf8Size ≤ limit then c :: takeBytes (limit - c.utf8Size) cs else []

/-- The longest beginning of a text that fits in a number of bytes. -/
def truncate (limit : Nat) (s : String) : String :=
  String.ofList (takeBytes limit s.toList)

end SeriesQuery.Text
