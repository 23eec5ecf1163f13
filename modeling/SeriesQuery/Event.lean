import SeriesQuery.Error
import SeriesQuery.Interval
import SeriesQuery.Text.Utf8

/-!
What is logged while a query is compiled.
-/

namespace SeriesQuery

inductive Event
  | unknownZone (timezone interval : String)
  | negativeShift (timezone interval : String) (hours : Int32)
  | compiled (sql : String) (timezone : Option String)
  | failed (error : Error)
  deriving DecidableEq

namespace Event

def level : Event → String
  | unknownZone .. => "warn"
  | _ => "debug"

def message : Event → String
  | unknownZone .. => "unknown timezone, interval left unadjusted"
  | negativeShift .. => "negative bucket offset, interval left unadjusted"
  | compiled .. => "compiled select"
  | failed _ => "select compilation failed"

/-- The values logged beside the message, by name. -/
def details : Event → List (String × String)
  | unknownZone timezone interval => [("timezone", timezone), ("interval", interval)]
  | negativeShift timezone interval hours =>
    [("timezone", timezone), ("interval", interval), ("offset_hours", toString hours.toInt)]
  | compiled sql timezone => [("sql", sql), ("timezone", timezone.getD "-")]
  | failed error => [("error", error.message)]

/-- A statement as it is logged: what is too long is cut at the end of a character. -/
def shorten (limit : Nat) (sql : String) : String :=
  if limit < sql.utf8ByteSize then Text.truncate limit sql ++ "..." else sql

def ofAlignment (interval timezone : String) : Interval.Alignment → List Event
  | .unknownZone => [unknownZone timezone interval]
  | .negativeShift hours => [negativeShift timezone interval hours]
  | _ => []

def ofResult (d : Dialect) (timezone : Option String) : Except Error String → Event
  | .ok sql => compiled (shorten d.logLimit sql) timezone
  | .error e => failed e

end Event

end SeriesQuery
