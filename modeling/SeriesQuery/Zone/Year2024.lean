import SeriesQuery.Zone.Basic

/-!
The offsets of time zones over the year 2024.
-/

namespace SeriesQuery.Zone

def fixedOffsets : List (String × Int32) :=
  [("UTC", 0), ("Etc/UTC", 0), ("GMT", 0), ("Zulu", 0), ("Africa/Lagos", 3600),
    ("America/Bogota", -18000), ("America/Phoenix", -25200), ("EST", -18000), ("MST", -25200),
    ("Asia/Calcutta", 19800), ("Asia/Kolkata", 19800), ("Asia/Kathmandu", 20700),
    ("Asia/Shanghai", 28800), ("PRC", 28800), ("Asia/Singapore", 28800), ("Asia/Tehran", 12600),
    ("Asia/Tokyo", 32400), ("Asia/Yangon", 23400), ("Australia/Eucla", 31500),
    ("Australia/Perth", 28800), ("Etc/GMT+12", -43200), ("Etc/GMT+5", -18000),
    ("Etc/GMT-14", 50400), ("Pacific/Kiritimati", 50400), ("Pacific/Marquesas", -34200),
    ("Pacific/Pago_Pago", -39600)]

/-- An offset that gives way to another one for part of the year. -/
structure SeasonalOffset where
  usual : Int32
  start : Int
  between : Int32
  stop : Int

def SeasonalOffset.at (o : SeasonalOffset) (instant : Int) : Int32 :=
  if o.start ≤ instant ∧ instant < o.stop then o.between else o.usual

def seasonalOffsets : List (String × SeasonalOffset) :=
  [("America/New_York", ⟨-18000, 1710054000, -14400, 1730613600⟩),
    ("US/Eastern", ⟨-18000, 1710054000, -14400, 1730613600⟩),
    ("America/Los_Angeles", ⟨-28800, 1710064800, -25200, 1730624400⟩),
    ("America/St_Johns", ⟨-12600, 1710048600, -9000, 1730608200⟩),
    ("Europe/London", ⟨0, 1711846800, 3600, 1729990800⟩),
    ("Europe/Berlin", ⟨3600, 1711846800, 7200, 1729990800⟩),
    ("Australia/Lord_Howe", ⟨39600, 1712415600, 37800, 1728142200⟩),
    ("Australia/Sydney", ⟨39600, 1712419200, 36000, 1728144000⟩),
    ("Pacific/Chatham", ⟨49500, 1712412000, 45900, 1727532000⟩)]

/-- The zones whose offset is the same all year, and those with two seasons. -/
def year2024 : ZoneDatabase := fun name instant =>
  match fixedOffsets.lookup name with
  | some offset => some offset
  | none => (seasonalOffsets.lookup name).map (·.at instant)

end SeriesQuery.Zone
