import SeriesQuery.Clauses
import SeriesQuery.Proofs.Induction
import SeriesQuery.Proofs.QuoteSafe
import SeriesQuery.Proofs.Splitting

/-! What a query brings along: the strings in it, which are quoted, and the texts that are written
as they stand. -/

namespace SeriesQuery

mutual

/-- The value with its strings and bytes emptied. -/
def Value.blank : Value → Value
  | .string _ => .string ""
  | .bytes _ => .bytes []
  | .list vs => .list (Value.blankAll vs)
  | .expr e => .expr e.blank
  | .null => .null
  | .bool b => .bool b
  | .int n => .int n
  | .uint n => .uint n
  | .float x => .float x

def Value.blankAll : List Value → List Value
  | [] => []
  | v :: vs => v.blank :: Value.blankAll vs

/-- The expression with its strings and bytes emptied. -/
def Expr.blank : Expr → Expr
  | .ident i => .ident i.blank
  | .literal l => .literal l.blank
  | .compare op lhs rhs => .compare op lhs.blank rhs.blank
  | .compute op lhs rhs => .compute op lhs.blank rhs.blank
  | .range test lhs start stop => .range test lhs.blank start.blank stop.blank
  | .ordered e dir => .ordered e.blank dir
  | .aliased e name => .aliased e.blank name.blank
  | .call function args => .call function (Value.blankAll args)
  | .junction op items => .junction op (Expr.blankAll items)
  | .columns cols => .columns (Expr.blankAll cols)
  | .conditions op entries => .conditions op (Condition.blankAll entries)

def Expr.blankAll : List Expr → List Expr
  | [] => []
  | e :: es => e.blank :: Expr.blankAll es

def Identifier.blank : Identifier → Identifier
  | ⟨schema, table, column⟩ => ⟨schema, table, column.blank⟩

def Column.blank : Column → Column
  | .none => .none
  | .name s => .name s
  | .literal l => .literal l.blank
  | .other e => .other e.blank

def Literal.blank : Literal → Literal
  | ⟨sql, args⟩ => ⟨sql, Value.blankAll args⟩

def Condition.blank : Condition → Condition
  | .equals v => .equals v.blank
  | .tests comparands => .tests (Condition.blankTests comparands)

def Condition.blankTests : List (String × Value) → List (String × Value)
  | [] => []
  | (name, v) :: rest => (name, v.blank) :: Condition.blankTests rest

def Condition.blankAll : List (String × Condition) → List (String × Condition)
  | [] => []
  | (column, c) :: rest => (column, c.blank) :: Condition.blankAll rest

end

mutual

/-- The texts of a value that are written as they stand. -/
def Value.rawTexts : Value → List String
  | .list vs => Value.rawTextsAll vs
  | .expr e => e.rawTexts
  | .null | .bool _ | .int _ | .uint _ | .float _ | .string _ | .bytes _ => []

def Value.rawTextsAll : List Value → List String
  | [] => []
  | v :: vs => v.rawTexts ++ Value.rawTextsAll vs

/-- The texts of an expression that are written as they stand. -/
def Expr.rawTexts : Expr → List String
  | .ident i => i.rawTexts
  | .literal l => l.rawTexts
  | .compare _ lhs rhs => lhs.rawTexts ++ rhs.rawTexts
  | .compute _ lhs rhs => lhs.rawTexts ++ rhs.rawTexts
  | .range _ lhs start stop => lhs.rawTexts ++ start.rawTexts ++ stop.rawTexts
  | .ordered e _ => e.rawTexts
  | .aliased e name => e.rawTexts ++ name.rawTexts
  | .call function args => function :: Value.rawTextsAll args
  | .junction _ items => Expr.rawTextsAll items
  | .columns cols => Expr.rawTextsAll cols
  | .conditions _ entries => Condition.rawTextsAll entries

def Expr.rawTextsAll : List Expr → List String
  | [] => []
  | e :: es => e.rawTexts ++ Expr.rawTextsAll es

def Identifier.rawTexts : Identifier → List String
  | ⟨schema, table, column⟩ => schema :: table :: column.rawTexts

def Column.rawTexts : Column → List String
  | .none => []
  | .name s => [s]
  | .literal l => l.rawTexts
  | .other e => e.rawTexts

def Literal.rawTexts : Literal → List String
  | ⟨sql, args⟩ => sql :: Value.rawTextsAll args

def Condition.rawTexts : Condition → List String
  | .equals v => v.rawTexts
  | .tests comparands => Condition.rawTextsTests comparands

def Condition.rawTextsTests : List (String × Value) → List String
  | [] => []
  | (_, v) :: rest => v.rawTexts ++ Condition.rawTextsTests rest

def Condition.rawTextsAll : List (String × Condition) → List String
  | [] => []
  | (column, c) :: rest => column :: c.rawTexts ++ Condition.rawTextsAll rest

end

namespace Fill

/-- The filling with its strings and bytes emptied. -/
def blank : Fill → Fill
  | .value v => .value v.blank
  | .text s => .text s
  | .int n => .int n
  | .float x => .float x

/-- The texts of a filling that are written as they stand. -/
def rawTexts : Fill → List String
  | .text s => [s]
  | .value v => v.rawTexts
  | .int _ | .float _ => []

end Fill

namespace Clauses

/-- The clauses with their strings and bytes emptied, and one time zone in the place of any. -/
def blank (c : Clauses) : Clauses :=
  { c with
    select := Expr.blankAll c.select
    distinct := Expr.blankAll c.distinct
    source := Expr.blankAll c.source
    conditions := Expr.blankAll c.conditions
    order := Expr.blankAll c.order
    partitionBy := Expr.blankAll c.partitionBy
    groupBy := Expr.blankAll c.groupBy
    fill := c.fill.map Fill.blank
    timezone := if c.timezone.isEmpty then "" else "UTC" }

/-- The texts of the clauses that are written as they stand. -/
def rawTexts (c : Clauses) : List String :=
  Expr.rawTextsAll c.select ++ Expr.rawTextsAll c.source ++ Expr.rawTextsAll c.conditions ++
    Expr.rawTextsAll c.order ++ Expr.rawTextsAll c.partitionBy ++ Expr.rawTextsAll c.groupBy ++
    c.fill.toList.flatMap Fill.rawTexts ++ [c.interval]

end Clauses

theorem Value.blankAll_eq_map (vs : List Value) : Value.blankAll vs = vs.map Value.blank :=
  eq_map_of_cons rfl (fun _ _ => rfl) vs

theorem Value.rawTextsAll_eq_flatMap (vs : List Value) :
    Value.rawTextsAll vs = vs.flatMap Value.rawTexts :=
  eq_flatMap_of_cons rfl (fun _ _ => rfl) vs

theorem Expr.blankAll_eq_map (es : List Expr) : Expr.blankAll es = es.map Expr.blank :=
  eq_map_of_cons rfl (fun _ _ => rfl) es

theorem Expr.rawTextsAll_eq_flatMap (es : List Expr) :
    Expr.rawTextsAll es = es.flatMap Expr.rawTexts :=
  eq_flatMap_of_cons rfl (fun _ _ => rfl) es

theorem Identifier.rawTexts_eq (i : Identifier) :
    i.rawTexts = i.schema :: i.table :: i.column.rawTexts := by
  cases i
  rfl

/-- What a literal column writes as it stands, its identifier does. -/
theorem Literal.rawTexts_subset_of_column {i : Identifier} {l : Literal}
    (h : i.column = .literal l) : (Expr.literal l).rawTexts ⊆ (Expr.ident i).rawTexts := by
  intro s hs
  rw [Expr.rawTexts, Identifier.rawTexts_eq, h]
  exact List.mem_cons_of_mem _ (List.mem_cons_of_mem _ hs)

theorem Condition.blankAll_eq_map (entries : List (String × Condition)) :
    blankAll entries = entries.map fun (column, c) => (column, c.blank) :=
  eq_map_of_cons rfl (fun _ _ => rfl) entries

/-- The names of the tests in a condition are never written, so they are no raw texts. -/
theorem Condition.mem_rawTexts {c : Condition} {s : String} :
    s ∈ c.rawTexts ↔ ∃ v ∈ c.values, s ∈ v.rawTexts := by
  cases c with
  | equals v => simp [rawTexts, values]
  | tests comparands =>
    rw [rawTexts, values]
    induction comparands with
    | nil => simp [rawTextsTests]
    | cons test rest ih => simp [rawTextsTests, ih]

/-- The raw texts of a map are the names of its columns and those in its values. -/
theorem Condition.mem_rawTextsAll {entries : List (String × Condition)} {s : String} :
    s ∈ rawTextsAll entries ↔
      ∃ entry ∈ entries, s = entry.1 ∨ s ∈ entry.2.rawTexts := by
  induction entries with
  | nil => simp [rawTextsAll]
  | cons entry rest ih => simp [rawTextsAll, ih, or_assoc]

/-- The parts of a parsed name have only characters of the name. -/
theorem Identifier.mem_of_mem_parse {name : String} :
    ∀ s ∈ (Identifier.parse name).rawTexts, ∀ c ∈ s.toList, c ∈ name.toList := by
  have hcolumn (s : String) : (Column.ofName s).rawTexts = [s] := by
    unfold Column.ofName
    split
    · rename_i hs
      rw [hs]
      rfl
    · rfl
  have hpieces : ∀ s ∈ (Text.splitAt '.' name.toList).map String.ofList,
      ∀ c ∈ s.toList, c ∈ name.toList := by
    intro s hs
    obtain ⟨piece, hpiece, rfl⟩ := List.mem_map.mp hs
    rw [String.toList_ofList]
    exact fun c hc => (Text.mem_of_mem_splitAt piece hpiece c hc).1
  unfold parse
  split
  · rename_i table column h
    rw [h] at hpieces
    simpa [rawTexts, hcolumn] using hpieces
  · rename_i schema table column h
    rw [h] at hpieces
    simpa [rawTexts, hcolumn] using hpieces
  · simp [ofColumn, rawTexts, hcolumn]

end SeriesQuery
