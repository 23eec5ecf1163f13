import SeriesQuery.Proofs.Expansion

/-! Induction over values and expressions together. A condition map has for its parts the values in
it, or its expansion, though no list of comparisons stands in it. -/

namespace SeriesQuery

/-- Properties of values and of expressions that pass from the parts to the whole, maps apart. A
literal or another expression in the place of a column is a part. -/
structure Structural (P : Value → Prop) (Q : Expr → Prop) : Prop where
  null : P .null
  bool (b) : P (.bool b)
  int (n) : P (.int n)
  uint (n) : P (.uint n)
  float (x) : P (.float x)
  string (s) : P (.string s)
  bytes (bs) : P (.bytes bs)
  list (vs) : (∀ v ∈ vs, P v) → P (.list vs)
  expr (e) : Q e → P (.expr e)
  ident (i) : (∀ l, i.column = .literal l → Q (.literal l)) → (∀ e, i.column = .other e → Q e) →
    Q (.ident i)
  literal (l) : (∀ v ∈ l.args, P v) → Q (.literal l)
  compare (op lhs rhs) : Q lhs → P rhs → Q (.compare op lhs rhs)
  compute (op lhs rhs) : Q lhs → P rhs → Q (.compute op lhs rhs)
  range (test lhs start stop) : Q lhs → P start → P stop → Q (.range test lhs start stop)
  ordered (e dir) : Q e → Q (.ordered e dir)
  aliased (e name) : Q e → Q (.ident name) → Q (.aliased e name)
  call (function args) : (∀ v ∈ args, P v) → Q (.call function args)
  junction (op items) : (∀ e ∈ items, Q e) → Q (.junction op items)
  columns (cols) : (∀ e ∈ cols, Q e) → Q (.columns cols)

/-- The values in a map are its parts. -/
structure Compositional (P : Value → Prop) (Q : Expr → Prop) : Prop extends Structural P Q where
  conditions (op entries) :
    (∀ entry ∈ entries, ∀ v ∈ entry.2.values, P v) → Q (.conditions op entries)

/-- What a map expands to is its part. -/
structure Hereditary (P : Value → Prop) (Q : Expr → Prop) : Prop extends Structural P Q where
  conditions (op entries) :
    (∀ e, Expr.ofEntries op entries = .ok e → Q e) → Q (.conditions op entries)

variable {P : Value → Prop} {Q : Expr → Prop}

theorem Structural.ofName (h : Structural P Q) (name : String) : Q (.ofName name) := by
  have hstar : Q .star := h.literal .star (List.forall_mem_nil P)
  rcases Identifier.column_parse name with ⟨s, hcolumn⟩ | hcolumn
  · refine h.ident _ (fun l hl => ?_) fun e he => ?_
    · cases hcolumn.symm.trans hl
    · cases hcolumn.symm.trans he
  · refine h.ident _ (fun l hl => ?_) fun e he => ?_
    · cases hcolumn.symm.trans hl
      exact hstar
    · cases hcolumn.symm.trans he

namespace Compositional

mutual

theorem all_values (h : Compositional P Q) : ∀ v, P v
  | .null => h.null
  | .bool b => h.bool b
  | .int n => h.int n
  | .uint n => h.uint n
  | .float x => h.float x
  | .string s => h.string s
  | .bytes bs => h.bytes bs
  | .list vs => h.list vs (h.mem_values vs)
  | .expr e => h.expr e (h.all_exprs e)

theorem mem_values (h : Compositional P Q) : ∀ vs : List Value, ∀ v ∈ vs, P v
  | [] => List.forall_mem_nil P
  | v :: vs => List.forall_mem_cons.mpr ⟨h.all_values v, h.mem_values vs⟩

theorem all_exprs (h : Compositional P Q) : ∀ e, Q e
  | .ident i => h.identifier i
  | .literal ⟨sql, args⟩ => h.literal ⟨sql, args⟩ (h.mem_values args)
  | .compare op lhs rhs => h.compare op lhs rhs (h.all_exprs lhs) (h.all_values rhs)
  | .compute op lhs rhs => h.compute op lhs rhs (h.all_exprs lhs) (h.all_values rhs)
  | .range test lhs start stop =>
    h.range test lhs start stop (h.all_exprs lhs) (h.all_values start) (h.all_values stop)
  | .ordered e dir => h.ordered e dir (h.all_exprs e)
  | .aliased e name => h.aliased e name (h.all_exprs e) (h.identifier name)
  | .call function args => h.call function args (h.mem_values args)
  | .junction op items => h.junction op items (h.mem_exprs items)
  | .columns cols => h.columns cols (h.mem_exprs cols)
  | .conditions op entries => h.conditions op entries (h.mem_entries entries)

theorem mem_exprs (h : Compositional P Q) : ∀ es : List Expr, ∀ e ∈ es, Q e
  | [] => List.forall_mem_nil Q
  | e :: es => List.forall_mem_cons.mpr ⟨h.all_exprs e, h.mem_exprs es⟩

theorem identifier (h : Compositional P Q) : ∀ i, Q (.ident i)
  | ⟨schema, table, column⟩ =>
    h.ident ⟨schema, table, column⟩ (h.column_literal column) (h.column_other column)

theorem column_literal (h : Compositional P Q) : ∀ c : Column, ∀ l, c = .literal l → Q (.literal l)
  | .literal ⟨sql, args⟩ => fun _ hc =>
    Column.literal.inj hc ▸ h.literal ⟨sql, args⟩ (h.mem_values args)
  | .none | .name _ | .other _ => fun _ hc => nomatch hc

theorem column_other (h : Compositional P Q) : ∀ c : Column, ∀ e, c = .other e → Q e
  | .other e => fun _ hc => Column.other.inj hc ▸ h.all_exprs e
  | .none | .name _ | .literal _ => fun _ hc => nomatch hc

theorem mem_condition (h : Compositional P Q) : ∀ c : Condition, ∀ v ∈ c.values, P v
  | .equals w => List.forall_mem_singleton.mpr (h.all_values w)
  | .tests comparands => h.mem_tests comparands

theorem mem_tests (h : Compositional P Q) :
    ∀ comparands : List (String × Value), ∀ v ∈ comparands.map Prod.snd, P v
  | [] => List.forall_mem_nil P
  | (_, w) :: rest => List.forall_mem_cons.mpr ⟨h.all_values w, h.mem_tests rest⟩

theorem mem_entries (h : Compositional P Q) :
    ∀ entries : List (String × Condition), ∀ entry ∈ entries, ∀ v ∈ entry.2.values, P v
  | [] => List.forall_mem_nil _
  | (_, c) :: rest => List.forall_mem_cons.mpr ⟨h.mem_condition c, h.mem_entries rest⟩

end

end Compositional

namespace Hereditary

/-- What holds of the values in a map holds of the comparisons that it expands to. -/
theorem compositional (h : Hereditary P Q) : Compositional P Q where
  toStructural := h.toStructural
  conditions op entries hv := by
    refine h.conditions op entries fun e he => Condition.ofEntries_of_forall ?_ ?_ he
    · intro entry hentry v hmem o
      exact h.compare _ _ _ (h.ofName _) (hv entry hentry v hmem)
    · intro o es hes
      exact h.junction _ _ fun e he => hes e (List.mem_filter.mp he).1

theorem all_values (h : Hereditary P Q) : ∀ v, P v := h.compositional.all_values

theorem all_exprs (h : Hereditary P Q) : ∀ e, Q e := h.compositional.all_exprs

end Hereditary

end SeriesQuery
