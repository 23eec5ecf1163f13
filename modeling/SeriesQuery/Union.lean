import SeriesQuery.Pool

/-!
Two statements joined into one that gives the rows of both.
-/

namespace SeriesQuery

structure Union where
  first : Builder
  second : Builder
  timezone : Option String := none

namespace Union

/-- Sets the time zone to run the union in. The members keep their own. -/
def withTimezone (u : Union) (timezone : String) : Union :=
  { u with timezone := if timezone.isEmpty then none else some timezone }

/-- Both members are compiled, whether or not the first one can be. -/
def compile (zones : ZoneDatabase) (instant : Int) (p : Pool) (u : Union) : Compilation × Pool :=
  let (first, p) := p.compile zones instant u.first
  let (second, p) := p.compile zones instant u.second
  let result := do
    let a ← first.result
    let b ← second.result
    return ⟨a.sql ++ u.first.dialect.unionAll ++ b.sql, u.timezone⟩
  ({ result, events := first.events ++ second.events }, p)

end Union

end SeriesQuery
