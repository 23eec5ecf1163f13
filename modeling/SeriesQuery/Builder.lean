import SeriesQuery.Render.Select
import SeriesQuery.Event

/-!
Builders of select statements: a dialect and the clauses set so far.
-/

namespace SeriesQuery

structure Builder where
  dialect : Dialect := .timeSeries
  clauses : Clauses := {}

/-- A call that changes a builder. -/
inductive Edit
  | source (table : Expr)
  | select (cols : List Expr)
  | clearSelect
  | conditions (conditions : List Expr)
  | order (keys : List (Expr × Direction))
  | partitionBy (cols : List Expr)
  | groupBy (cols : List Expr)
  | addGroupBy (cols : List Expr)
  | interval (interval : String)
  | fill (fill : Fill)
  | timezone (timezone : String)
  | limit (n : Int64)
  | offset (n : Int64)
  | dialect (d : Dialect)

/-- A compiled statement, and the time zone to run it in. -/
structure Statement where
  sql : String
  timezone : Option String
  deriving DecidableEq

structure Compilation where
  result : Except Error Statement
  events : List Event

namespace Builder

/-- Selects everything again and drops the distinct columns. -/
def clearSelect (b : Builder) : Builder :=
  { b with clauses := (b.clauses.setSelect [.star]).setDistinct [] }

/-- A limit or an offset that is not positive is none. An empty selection is the default one. -/
def edit (b : Builder) : Edit → Builder
  | .source table => { b with clauses := b.clauses.setSource [table] }
  | .select cols =>
    if (Expr.flatten cols).isEmpty then b.clearSelect
    else { b with clauses := b.clauses.setSelect cols }
  | .clearSelect => b.clearSelect
  | .conditions conditions => { b with clauses := b.clauses.addConditions conditions }
  | .order keys => { b with clauses := b.clauses.setOrder keys }
  | .partitionBy cols => { b with clauses := b.clauses.setPartitionBy cols }
  | .groupBy cols => { b with clauses := b.clauses.setGroupBy cols }
  | .addGroupBy cols => { b with clauses := b.clauses.addGroupBy cols }
  | .interval interval => { b with clauses := b.clauses.setInterval interval }
  | .fill fill => { b with clauses := b.clauses.setFill (some fill) }
  | .timezone timezone => { b with clauses := b.clauses.setTimezone timezone }
  | .limit n =>
    { b with clauses := b.clauses.setLimit (if 0 < n then some n.toUInt64 else none) }
  | .offset n => { b with clauses := b.clauses.setOffset (if 0 < n then n.toUInt64 else 0) }
  | .dialect d => { b with dialect := d }

/-- The time zone to run the statement in, if one is set. -/
def timezone? (b : Builder) : Option String :=
  if b.clauses.timezone.isEmpty then none else some b.clauses.timezone

def alignment (zones : ZoneDatabase) (instant : Int) (b : Builder) : Interval.Alignment :=
  Interval.align zones instant b.clauses.interval b.clauses.timezone

/-- The clauses with the interval aligned to the time zone. -/
def aligned (zones : ZoneDatabase) (instant : Int) (b : Builder) : Clauses :=
  match Interval.adjusted? b.clauses.interval (b.alignment zones instant) with
  | some interval => b.clauses.setInterval interval
  | none => b.clauses

def compile (zones : ZoneDatabase) (instant : Int) (b : Builder) : Compilation :=
  let text := (b.aligned zones instant).sql b.dialect
  { result := text.map (⟨·, b.timezone?⟩)
    events :=
      Event.ofAlignment b.clauses.interval b.clauses.timezone (b.alignment zones instant) ++
        [Event.ofResult b.dialect b.timezone? text] }

end Builder

end SeriesQuery
