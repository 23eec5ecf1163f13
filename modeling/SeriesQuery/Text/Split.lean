/-!
Cutting text at a character.
-/

namespace SeriesQuery.Text

/-- The pieces between the occurrences of a separator, one more than there are of them. -/
def splitAt (separator : Char) : List Char → List (List Char)
  | [] => [[]]
  | c :: cs =>
    match splitAt separator cs with
    | [] => [[c]]
    | piece :: pieces =>
      if c = separator then [] :: piece :: pieces else (c :: piece) :: pieces

/-- What stands before and after the first separator, if there is one. -/
def cutAt (separator : Char) : List Char → List Char × Option (List Char)
  | [] => ([], none)
  | c :: cs =>
    if c = separator then ([], some cs)
    else
      let (front, back) := cutAt separator cs
      (c :: front, back)

end SeriesQuery.Text
