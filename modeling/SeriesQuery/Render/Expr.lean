import SeriesQuery.Render.Pieces
import SeriesQuery.Text.Utf8

/-!
Writing values and expressions. A condition map is written entry by entry, once all of its
operators are known to be among those there are.
-/

namespace SeriesQuery

mutual

def Value.render (d : Dialect) : Value → Step
  | .null => Step.write d.null
  | .bool b => Step.fail (.unwritable (if b then "true" else "false"))
  | .int n => Step.write (toString n.toInt)
  | .uint n => Step.write (toString n.toNat)
  | .float x => Step.float x
  | .string s => Step.quoted d s
  | .bytes bs => Step.quoted d (Text.decodeUtf8 bs)
  | .list vs => Step.tuple d (Value.renderAll d vs)
  | .expr e => e.render d

def Value.renderAll (d : Dialect) : List Value → List Step
  | [] => []
  | v :: vs => v.render d :: Value.renderAll d vs

def Expr.render (d : Dialect) : Expr → Step
  | .ident i => i.render d
  | .literal l => l.render d
  | .compare op lhs rhs => Step.compare d op (lhs.render d) (rhs.render d)
  | .compute op lhs rhs => Step.compute d op (lhs.render d) (rhs.render d)
  | .range test lhs start stop =>
    Step.range d test (lhs.render d) (start.render d) (stop.render d)
  | .ordered e dir => Step.seq [e.render d, Step.write (d.direction dir)]
  | .aliased e name => Step.seq [e.render d, Step.write d.aliasing, name.render d]
  | .call function args =>
    Step.seq [Step.write function, Step.tuple d (Value.renderAll d args)]
  | .junction op items => Step.junction d op (Expr.renderAll d items)
  | .columns cols => Step.commaSeparated d (Expr.renderAll d cols)
  | .conditions op entries =>
    match Condition.expandAll entries with
    | .error e => Step.fail e
    | .ok _ => Step.junction d op (Condition.renderAll d entries)

def Expr.renderAll (d : Dialect) : List Expr → List Step
  | [] => []
  | e :: es => e.render d :: Expr.renderAll d es

def Identifier.render (d : Dialect) : Identifier → Step
  | ⟨schema, table, column⟩ => Step.identifier d ⟨schema, table, column⟩ (column.renderArgs d)

/-- The arguments of a column that is a literal. -/
def Column.renderArgs (d : Dialect) : Column → List Step
  | .literal ⟨_, args⟩ => Value.renderAll d args
  | _ => []

def Literal.render (d : Dialect) : Literal → Step
  | ⟨sql, args⟩ => Step.substitute sql.toList (Value.renderAll d args)

def Condition.renderAll (d : Dialect) : List (String × Condition) → List Step
  | [] => []
  | (column, .equals v) :: rest =>
    Step.compare d (.equalityWith v) (Step.named d column) (v.render d) ::
      Condition.renderAll d rest
  | (column, .tests comparands) :: rest =>
    if comparands.isEmpty then Condition.renderAll d rest
    else
      Step.junction d .or (Condition.renderTests d column comparands) ::
        Condition.renderAll d rest

def Condition.renderTests (d : Dialect) (column : String) : List (String × Value) → List Step
  | [] => []
  | (name, v) :: rest =>
    (match Comparison.ofTest? name v with
      | some op => Step.compare d op (Step.named d column) (v.render d)
      | none => Step.fail (.unsupportedTest name)) ::
      Condition.renderTests d column rest

end

/-- The text of a value in a dialect. -/
def Value.sql (d : Dialect) (v : Value) : Except Error String := Step.result (v.render d)

/-- The text of an expression in a dialect. -/
def Expr.sql (d : Dialect) (e : Expr) : Except Error String := Step.result (e.render d)

end SeriesQuery
