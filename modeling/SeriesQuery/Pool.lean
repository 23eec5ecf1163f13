import SeriesQuery.Builder

/-!
A pool keeps a bounded number of builders for reuse. Builders are reset before they are kept.
-/

namespace SeriesQuery

structure Pool where
  free : List Builder := []
  capacity : Nat := 64

namespace Pool

def isFull (p : Pool) : Bool := p.capacity ≤ p.free.length

/-- A free builder, or a new one if none is free. -/
def acquire (p : Pool) : Builder × Pool :=
  match p.free with
  | b :: free => (b, { p with free })
  | [] => ({}, p)

/-- A builder of a query on a table. -/
def start (p : Pool) (table : Expr) : Builder × Pool :=
  let (b, p) := p.acquire
  (b.edit (.source table), p)

/-- The dialect and clauses of a new builder. -/
def reset (_ : Builder) : Builder := {}

/-- Takes a builder back. A full pool lets it go. -/
def release (p : Pool) (b : Builder) : Pool :=
  if p.isFull then p else { p with free := reset b :: p.free }

/-- Compiles a builder and takes it back. -/
def compile (zones : ZoneDatabase) (instant : Int) (p : Pool) (b : Builder) :
    Compilation × Pool :=
  (b.compile zones instant, p.release b)

end Pool

end SeriesQuery
