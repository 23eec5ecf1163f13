import SeriesQuery.Format
import SeriesQuery.Union

/-!
Running compiled statements. An executor is anything that answers calls with rows.
-/

namespace SeriesQuery

/-- The two endpoints of an executor. -/
inductive Call
  | execute (sql : String) (format : Format)
  | executeIn (sql : String) (timezone : Option String)
  deriving DecidableEq

abbrev Executor (ρ : Type) := Call → Except Error (List ρ)

/-- What came of a query, and the calls that were made for it. -/
structure Run (α : Type) where
  result : Except Error α
  calls : List Call := []

variable {ρ : Type}

namespace Executor

/-- Makes the call for a compiled statement, and none if it could not be compiled. -/
def submit (exec : Executor ρ) (call : Statement → Call) :
    Except Error Statement → Run (List ρ)
  | .error e => { result := .error e }
  | .ok statement => { result := exec (call statement), calls := [call statement] }

/-- The first row, if there is one. -/
def first (exec : Executor ρ) (sql : String) (format : Format) : Run ρ :=
  let call := .execute sql format
  { result :=
      match exec call with
      | .error e => .error e
      | .ok [] => .error .noData
      | .ok (row :: _) => .ok row
    calls := [call] }

end Executor

namespace Pool

variable (zones : ZoneDatabase) (instant : Int) (p : Pool)

/-- Runs a query on the first endpoint. -/
def query (b : Builder) (exec : Executor ρ) (format : Format) :
    Run (List ρ) × Compilation × Pool :=
  let (c, p) := p.compile zones instant b
  (exec.submit (.execute ·.sql format) c.result, c, p)

/-- Runs a query on the second endpoint, in its own time zone. -/
def queryIn (b : Builder) (exec : Executor ρ) : Run (List ρ) × Compilation × Pool :=
  let (c, p) := p.compile zones instant b
  (exec.submit (fun s => .executeIn s.sql s.timezone) c.result, c, p)

/-- Runs a union on the second endpoint, in the time zone of the union. -/
def queryUnion (u : Union) (exec : Executor ρ) : Run (List ρ) × Compilation × Pool :=
  let (c, p) := u.compile zones instant p
  (exec.submit (fun s => .executeIn s.sql s.timezone) c.result, c, p)

end Pool

end SeriesQuery
