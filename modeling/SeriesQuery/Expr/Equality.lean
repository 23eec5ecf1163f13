import SeriesQuery.Expr.Basic

/-!
Equality of values and expressions: the same form throughout, with equal numbers. A value that
holds a NaN is equal to nothing, not even to itself.
-/

namespace SeriesQuery

mutual

def Value.beq : Value → Value → Bool
  | .null, .null => true
  | .bool a, .bool b => a == b
  | .int m, .int n => m == n
  | .uint m, .uint n => m == n
  | .float x, .float y => x == y
  | .string s, .string t => s == t
  | .bytes as, .bytes bs => as == bs
  | .list vs, .list ws => Value.beqAll vs ws
  | .expr e, .expr f => e.beq f
  | _, _ => false

def Value.beqAll : List Value → List Value → Bool
  | [], [] => true
  | v :: vs, w :: ws => v.beq w && Value.beqAll vs ws
  | _, _ => false

def Expr.beq : Expr → Expr → Bool
  | .ident i, .ident j => i.beq j
  | .literal l, .literal m => l.beq m
  | .compare op lhs rhs, .compare op' lhs' rhs' => op == op' && lhs.beq lhs' && rhs.beq rhs'
  | .compute op lhs rhs, .compute op' lhs' rhs' => op == op' && lhs.beq lhs' && rhs.beq rhs'
  | .range test lhs start stop, .range test' lhs' start' stop' =>
    test == test' && lhs.beq lhs' && start.beq start' && stop.beq stop'
  | .ordered e dir, .ordered e' dir' => e.beq e' && dir == dir'
  | .aliased e name, .aliased e' name' => e.beq e' && name.beq name'
  | .call function args, .call function' args' =>
    function == function' && Value.beqAll args args'
  | .junction op items, .junction op' items' => op == op' && Expr.beqAll items items'
  | .columns cols, .columns cols' => Expr.beqAll cols cols'
  | .conditions op entries, .conditions op' entries' =>
    op == op' && Condition.beqAll entries entries'
  | _, _ => false

def Expr.beqAll : List Expr → List Expr → Bool
  | [], [] => true
  | e :: es, f :: fs => e.beq f && Expr.beqAll es fs
  | _, _ => false

def Identifier.beq : Identifier → Identifier → Bool
  | ⟨schema, table, column⟩, ⟨schema', table', column'⟩ =>
    schema == schema' && table == table' && column.beq column'

def Column.beq : Column → Column → Bool
  | .none, .none => true
  | .name s, .name t => s == t
  | .literal l, .literal m => l.beq m
  | .other e, .other f => e.beq f
  | _, _ => false

def Literal.beq : Literal → Literal → Bool
  | ⟨sql, args⟩, ⟨sql', args'⟩ => sql == sql' && Value.beqAll args args'

def Condition.beq : Condition → Condition → Bool
  | .equals v, .equals w => v.beq w
  | .tests vs, .tests ws => Condition.beqTests vs ws
  | _, _ => false

def Condition.beqAll : List (String × Condition) → List (String × Condition) → Bool
  | [], [] => true
  | (column, c) :: entries, (column', c') :: entries' =>
    column == column' && c.beq c' && Condition.beqAll entries entries'
  | _, _ => false

def Condition.beqTests : List (String × Value) → List (String × Value) → Bool
  | [], [] => true
  | (name, v) :: rest, (name', v') :: rest' =>
    name == name' && v.beq v' && Condition.beqTests rest rest'
  | _, _ => false

end

instance : BEq Value := ⟨Value.beq⟩

instance : BEq Expr := ⟨Expr.beq⟩

end SeriesQuery
