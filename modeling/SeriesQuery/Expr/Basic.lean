import SeriesQuery.Number.Binary64
import SeriesQuery.Operator
import SeriesQuery.Text.Split

/-!
Expressions of a query and the values they compare with. A column list, a list of conditions and
a condition map are expressions too, so that each can stand wherever an expression can.
-/

namespace SeriesQuery

mutual

/-- An operand: what a column is compared with, or an argument. -/
inductive Value
  | null
  | bool (b : Bool)
  | int (n : Int64)
  | uint (n : UInt64)
  | float (x : Binary64)
  | string (s : String)
  | bytes (bs : List UInt8)
  | list (vs : List Value)
  | expr (e : Expr)

inductive Expr
  | ident (i : Identifier)
  | literal (l : Literal)
  | compare (op : Comparison) (lhs : Expr) (rhs : Value)
  | compute (op : Arithmetic) (lhs : Expr) (rhs : Value)
  | range (test : RangeTest) (lhs : Expr) (start stop : Value)
  | ordered (e : Expr) (dir : Direction)
  | aliased (e : Expr) (name : Identifier)
  | call (function : String) (args : List Value)
  | junction (op : Connective) (items : List Expr)
  | columns (cols : List Expr)
  /-- Conditions on columns by name, in ascending order of the names. -/
  | conditions (op : Connective) (entries : List (String × Condition))

/-- A column reference, any part of which may be missing. -/
structure Identifier where
  schema : String
  table : String
  column : Column

inductive Column
  | none
  | name (s : String)
  | literal (l : Literal)
  /-- An expression that can stand in the place of a column but cannot be written there. -/
  | other (e : Expr)

/-- Text of the query language, with a `?` for each argument. -/
structure Literal where
  sql : String
  args : List Value

/-- What a condition map asks of one column. -/
inductive Condition
  | equals (v : Value)
  /-- Comparisons by the names of their operators, in ascending order of the names. One of them
  has to hold. -/
  | tests (comparands : List (String × Value))

end

namespace Value

def isNull : Value → Bool
  | null => true
  | _ => false

end Value

namespace Literal

/-- Text to be written as it stands. -/
def raw (sql : String) : Literal := ⟨sql, []⟩

def star : Literal := raw "*"

def isStar (l : Literal) : Bool :=
  l.sql == "*" && l.args.isEmpty

end Literal

namespace Column

/-- The column called `name`, or all of them for a star. -/
def ofName (name : String) : Column :=
  if name = "*" then .literal .star else .name name

/-- The column that an expression is taken for. -/
def ofExpr : Expr → Column
  | .literal l => .literal l
  | e => .other e

/-- Whether there is no column. One that is given as an expression is always there. -/
def isEmpty : Column → Bool
  | none => true
  | name s => s.isEmpty
  | literal _ | other _ => false

end Column

namespace Identifier

/-- An unqualified column. A period is part of its name. -/
def ofColumn (name : String) : Identifier := ⟨"", "", .ofName name⟩

/-- Reads `table.column` or `schema.table.column`. Text with any other number of periods is the
name of a column. -/
def parse (name : String) : Identifier :=
  match (Text.splitAt '.' name.toList).map String.ofList with
  | [table, column] => ⟨"", table, .ofName column⟩
  | [schema, table, column] => ⟨schema, table, .ofName column⟩
  | _ => ofColumn name

def isEmpty (i : Identifier) : Bool :=
  i.schema.isEmpty && i.table.isEmpty && i.column.isEmpty

end Identifier

namespace Expr

/-- The identifier that a piece of text names. -/
def ofName (name : String) : Expr := .ident (.parse name)

/-- The name of the kind of expression, as messages give it. -/
def kindName : Expr → String
  | ident _ => "IdentifierExpression"
  | literal _ => "LiteralExpression"
  | compare .. => "BooleanExpression"
  | compute .. => "ComputerExpression"
  | range .. => "RangeExpression"
  | ordered .. => "OrderedExpression"
  | aliased .. => "AliasedExpression"
  | call .. => "SqlFunctionExpression"
  | junction .. => "ExpressionList"
  | columns _ => "ColumnListExpression"
  | conditions .and _ => "Ex"
  | conditions .or _ => "ExOr"

end Expr

end SeriesQuery
