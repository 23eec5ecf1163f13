/-!
Time zones by name.
-/

namespace SeriesQuery

/-- The offset of a zone from universal time at an instant, in seconds east, if there is a zone
of that name. Instants are seconds since the start of 1970. -/
abbrev ZoneDatabase := String → Int → Option Int32

end SeriesQuery
