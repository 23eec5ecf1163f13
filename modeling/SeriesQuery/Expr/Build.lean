import SeriesQuery.Error
import SeriesQuery.Expr.Basic
import SeriesQuery.KeyMap

/-!
Building expressions. Lists of conditions never hold an empty list, column lists never hold a
column list, and a condition map stands for the list of comparisons that it expands to.
-/

namespace SeriesQuery

namespace Comparison

/-- Null and the truth values are compared by identity, and a list by membership. -/
def equalityWith : Value → Comparison
  | .null | .bool _ => .is
  | .list _ => .isIn
  | _ => .eq

/-- The comparison with a value that a name means, in whatever case it is written. The names are
ASCII, and no other letter becomes one of theirs in lower case. -/
def ofTest? (name : String) (v : Value) : Option Comparison :=
  match name.toLower with
  | "eq" => some (equalityWith v)
  | "neq" => some (equalityWith v).inverse
  | "gt" => some .gt
  | "gte" => some .ge
  | "lt" => some .lt
  | "lte" => some .le
  | _ => none

end Comparison

/-- The functions of one column that have names of their own. -/
inductive ColumnFunction
  | count | sum | first | last | abs | derivative | difference
  deriving DecidableEq

namespace ColumnFunction

def all : List ColumnFunction := [.count, .sum, .first, .last, .abs, .derivative, .difference]

def name : ColumnFunction → String
  | .count => "COUNT"
  | .sum => "SUM"
  | .first => "FIRST"
  | .last => "LAST"
  | .abs => "ABS"
  | .derivative => "DERIVATIVE"
  | .difference => "DIFFERENCE"

end ColumnFunction

/-- Whether a condition asks nothing. -/
def Condition.isEmpty : Condition → Bool
  | .tests [] => true
  | _ => false

namespace Expr

/-- Equality with a value. -/
def equals (lhs : Expr) (v : Value) : Expr := .compare (.equalityWith v) lhs v

/-- The negation of equality with a value. -/
def differs (lhs : Expr) (v : Value) : Expr := .compare (Comparison.equalityWith v).inverse lhs v

/-- The opposite of a comparison. Any other expression is left as it is. -/
def negate : Expr → Expr
  | compare op lhs rhs => compare op.inverse lhs rhs
  | e => e

/-- Whether this is a list of conditions with none in it. A condition map counts as one when
nothing is asked of any of its columns. -/
def isEmptyList : Expr → Bool
  | junction _ items => items.isEmpty
  | conditions _ entries => entries.all (·.2.isEmpty)
  | _ => false

def dropEmpty (items : List Expr) : List Expr :=
  items.filter (!·.isEmptyList)

/-- Conditions joined by a connective. -/
def join (op : Connective) (items : List Expr) : Expr :=
  junction op (dropEmpty items)

/-- Adds conditions at the end of a list of them. Any other expression is left as it is. -/
def addConditions : Expr → List Expr → Expr
  | junction op items, added => junction op (items ++ dropEmpty added)
  | e, _ => e

/-- Puts the members of column lists in the place of the lists. -/
def flatten (cols : List Expr) : List Expr :=
  cols.flatMap fun
    | columns members => members
    | e => [e]

/-- A column list. -/
def ofColumns (cols : List Expr) : Expr := columns (flatten cols)

/-- Adds columns at the end of a column list. Any other expression is left as it is. -/
def addColumns : Expr → List Expr → Expr
  | columns cols, added => columns (cols ++ flatten added)
  | e, _ => e

/-- A column list to sort by. -/
def ofKeys (keys : List (Expr × Direction)) : Expr :=
  columns (keys.map fun (e, dir) => ordered e dir)

/-- The whole table. -/
def star : Expr := literal .star

/-- The current time, with text such as an offset after it. -/
def now (suffix : String) : Expr := literal (.raw ("NOW" ++ suffix))

/-- A function of one column. -/
def callOn (function : String) (column : Expr) : Expr :=
  call function [.expr column]

def apply (f : ColumnFunction) (column : Expr) : Expr := callOn f.name column

/-- Time in steps of an interval. -/
def timeBucket (interval : String) : Expr := callOn "time" (.ofName interval)

end Expr

namespace Condition

/-- One comparison for each operator, each with the same column. -/
def expandTests (lhs : Expr) : List (String × Value) → Except Error (List Expr)
  | [] => .ok []
  | (name, v) :: rest =>
    match Comparison.ofTest? name v with
    | none => .error (.unsupportedTest name)
    | some op => (expandTests lhs rest).map (.compare op lhs v :: ·)

def expand (column : String) : Condition → Except Error Expr
  | equals v => .ok ((Expr.ofName column).equals v)
  | tests comparands => (expandTests (.ofName column) comparands).map (.join .or)

/-- The conditions that a map stands for, in the order of its columns. -/
def expandAll : List (String × Condition) → Except Error (List Expr)
  | [] => .ok []
  | (column, c) :: entries => do
    let e ← c.expand column
    let es ← expandAll entries
    return e :: es

end Condition

namespace Expr

/-- The list of conditions that a condition map stands for. -/
def ofEntries (op : Connective) (entries : List (String × Condition)) : Except Error Expr :=
  (Condition.expandAll entries).map (join op)

end Expr

end SeriesQuery
