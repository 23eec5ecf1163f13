import SeriesQuery.Expr.Build
import SeriesQuery.Expr.Equality

/-!
The clauses of one select statement.
-/

namespace SeriesQuery

/-- What stands for the rows of an interval that has none. -/
inductive Fill
  /-- A mode by its keyword, or any other text. -/
  | text (s : String)
  | int (n : Int64)
  | float (x : Binary64)
  | value (v : Value)

instance : BEq Fill where
  beq
    | .text s, .text t => s == t
    | .int m, .int n => m == n
    | .float x, .float y => x == y
    | .value v, .value w => v == w
    | _, _ => false

/-- A clause at its default is not set. The conditions all have to hold. Distinct columns are
kept but play no part in the statement. -/
structure Clauses where
  select : List Expr := [.star]
  distinct : List Expr := []
  source : List Expr := []
  conditions : List Expr := []
  order : List Expr := []
  partitionBy : List Expr := []
  groupBy : List Expr := []
  fill : Option Fill := none
  limit : Option UInt64 := none
  interval : String := ""
  timezone : String := ""
  offset : UInt64 := 0

namespace Clauses

instance : BEq Clauses where
  beq c c' :=
    c.select == c'.select && c.distinct == c'.distinct && c.source == c'.source &&
      c.conditions == c'.conditions && c.order == c'.order && c.partitionBy == c'.partitionBy &&
      c.groupBy == c'.groupBy && c.fill == c'.fill && c.limit == c'.limit &&
      c.interval == c'.interval && c.timezone == c'.timezone && c.offset == c'.offset

/-- Whether all columns are selected by a star alone. -/
def selectsAll (c : Clauses) : Bool :=
  match c.select with
  | [.literal l] => l.isStar
  | _ => false

def setSelect (c : Clauses) (cols : List Expr) : Clauses :=
  { c with select := Expr.flatten cols }

def setDistinct (c : Clauses) (cols : List Expr) : Clauses :=
  { c with distinct := Expr.flatten cols }

def setSource (c : Clauses) (cols : List Expr) : Clauses :=
  { c with source := Expr.flatten cols }

def addConditions (c : Clauses) (conditions : List Expr) : Clauses :=
  { c with conditions := c.conditions ++ Expr.dropEmpty conditions }

def setOrder (c : Clauses) (keys : List (Expr × Direction)) : Clauses :=
  { c with order := keys.map fun (e, dir) => .ordered e dir }

def setPartitionBy (c : Clauses) (cols : List Expr) : Clauses :=
  { c with partitionBy := Expr.flatten cols }

def setGroupBy (c : Clauses) (cols : List Expr) : Clauses :=
  { c with groupBy := Expr.flatten cols }

def addGroupBy (c : Clauses) (cols : List Expr) : Clauses :=
  { c with groupBy := c.groupBy ++ Expr.flatten cols }

def setFill (c : Clauses) (fill : Option Fill) : Clauses :=
  { c with fill }

def setLimit (c : Clauses) (limit : Option UInt64) : Clauses :=
  { c with limit }

def setOffset (c : Clauses) (offset : UInt64) : Clauses :=
  { c with offset }

def setInterval (c : Clauses) (interval : String) : Clauses :=
  { c with interval }

def setTimezone (c : Clauses) (timezone : String) : Clauses :=
  { c with timezone }

end Clauses

end SeriesQuery
