import SeriesQuery.Text.Unprintable

/-!
Text as it is quoted inside a message: between double quotes, with escapes for the quote, the
backslash and every character that could not be seen.
-/

namespace SeriesQuery.Text

def escapeInMessage (c : Char) : List Char :=
  if c = '"' then ['\\', '"']
  else if c = '\\' then ['\\', '\\']
  else if c = '\t' then ['\\', 't']
  else if c = '\n' then ['\\', 'n']
  else if c = '\r' then ['\\', 'r']
  else if c.toNat = 0 then ['\\', '0']
  else if isPrintable c then [c]
  else ['\\', 'u', '\x7b'] ++ Nat.toDigits 16 c.toNat ++ ['\x7d']

def quoted (s : String) : String :=
  String.ofList ('"' :: s.toList.flatMap escapeInMessage ++ ['"'])

end SeriesQuery.Text
