import SeriesQuery.Zone.Basic

/-!
Intervals of calendar units, and how they are aligned with the days of a time zone.
-/

namespace SeriesQuery.Interval

/-- Days, months and years are calendar units. -/
def isCalendar (interval : String) : Bool :=
  match interval.toList.getLast? with
  | some 'd' | some 'n' | some 'y' => true
  | _ => false

/-- The server counts days from 16:00 universal time, which is midnight eight hours east. The
whole hours of the offset are taken towards zero. -/
def bucketHours (offset : Int32) : Int32 := 8 - offset / 3600

/-- What a time zone asks of an interval. A negative shift is never carried out. -/
inductive Alignment
  | unchanged
  | unknownZone
  | shift (hours : Int32)
  | negativeShift (hours : Int32)
  deriving DecidableEq

def align (zones : ZoneDatabase) (instant : Int) (interval timezone : String) : Alignment :=
  if timezone.isEmpty || interval.isEmpty || !isCalendar interval then .unchanged
  else
    match zones timezone instant with
    | none => .unknownZone
    | some offset =>
      let hours := bucketHours offset
      if 0 < hours then .shift hours else if hours < 0 then .negativeShift hours else .unchanged

/-- The interval with its shift, if it is to be shifted. -/
def adjusted? (interval : String) : Alignment → Option String
  | .shift hours => some (interval ++ "," ++ toString hours.toInt ++ "h")
  | _ => none

end SeriesQuery.Interval
