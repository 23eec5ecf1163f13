import SeriesQuery.Proofs.Induction
import SeriesQuery.Proofs.Written

/-! What can keep an expression from being written, in the order in which a traversal meets it. The
first fault of the traversal is the error that rendering returns. Rendering is context free:
whatever a buffer holds, it appends what it leaves in an empty one. -/

namespace SeriesQuery

/-- The fault of an operator for which the dialect has no text. -/
def Error.ifMissing (e : Error) : Option String → List Error
  | none => [e]
  | some _ => []

namespace Dialect

def comparisonFault (d : Dialect) (op : Comparison) : List Error :=
  Error.ifMissing (.unsupportedComparison op) (d.comparison op)

def arithmeticFault (d : Dialect) (op : Arithmetic) : List Error :=
  Error.ifMissing (.unsupportedArithmetic op) (d.arithmetic op)

/-- A range needs the texts of both its comparisons. -/
def rangeFault (d : Dialect) (test : RangeTest) : List Error :=
  Error.ifMissing (.unsupportedRange test) (d.comparison test.comparisons.1) ++
    Error.ifMissing (.unsupportedRange test) (d.comparison test.comparisons.2)

end Dialect

/-- The fault of a name in which there is nothing. -/
def Identifier.emptyFault (i : Identifier) : List Error :=
  if i.isEmpty then [.emptyIdentifier] else []

/-- The faults of the operators that there are none of. -/
def Condition.unknownTests : Condition → List Error
  | .equals _ => []
  | .tests comparands => comparands.filterMap fun (name, v) =>
    match Comparison.ofTest? name v with
    | none => some (.unsupportedTest name)
    | some _ => none

mutual

/-- The faults of a value, in the order in which they are met. -/
def Value.faults (d : Dialect) : Value → List Error
  | .bool b => [.unwritable (if b then "true" else "false")]
  | .float x => if x.isFinite then [] else [.unwritable x.nonFiniteName]
  | .list vs => (Value.faultsEach d vs).flatten
  | .expr e => e.faults d
  | .null | .int _ | .uint _ | .string _ | .bytes _ => []

def Value.faultsEach (d : Dialect) : List Value → List (List Error)
  | [] => []
  | v :: vs => v.faults d :: Value.faultsEach d vs

/-- The faults of an expression, in the order in which they are met. An operator comes before the
operands, and in a map the operators that there are none of come before all comparisons. -/
def Expr.faults (d : Dialect) : Expr → List Error
  | .ident i => i.faults d
  | .literal l => l.faults d
  | .compare op lhs rhs => d.comparisonFault op ++ lhs.faults d ++ rhs.faults d
  | .compute op lhs rhs => d.arithmeticFault op ++ lhs.faults d ++ rhs.faults d
  | .range test lhs start stop =>
    d.rangeFault test ++ lhs.faults d ++ start.faults d ++ stop.faults d
  | .ordered e _ => e.faults d
  | .aliased e name => e.faults d ++ name.faults d
  | .call _ args => (Value.faultsEach d args).flatten
  | .junction _ items => (Expr.faultsEach d items).flatten
  | .columns cols => (Expr.faultsEach d cols).flatten
  | .conditions _ entries =>
    entries.flatMap (·.2.unknownTests) ++ Condition.faultsAll d entries

def Expr.faultsEach (d : Dialect) : List Expr → List (List Error)
  | [] => []
  | e :: es => e.faults d :: Expr.faultsEach d es

def Identifier.faults (d : Dialect) : Identifier → List Error
  | ⟨schema, table, column⟩ =>
    Identifier.emptyFault ⟨schema, table, column⟩ ++ column.faults d

/-- A literal column is met as a literal. Any other expression is refused by its kind, and what is
in it is not met, even if it is a literal. -/
def Column.faults (d : Dialect) : Column → List Error
  | .literal l => l.faults d
  | .other e => [.unsupportedColumn e.kindName]
  | .none | .name _ => []

/-- Of the arguments only those are met that take the place of a `?`. -/
def Literal.faults (d : Dialect) : Literal → List Error
  | ⟨sql, args⟩ => ((Value.faultsEach d args).take (sql.toList.count '?')).flatten

/-- The faults of the comparisons that the entries of a map stand for. -/
def Condition.faultsAll (d : Dialect) : List (String × Condition) → List Error
  | [] => []
  | (column, .equals v) :: rest =>
    d.comparisonFault (.equalityWith v) ++ (Identifier.parse column).emptyFault ++ v.faults d ++
      Condition.faultsAll d rest
  | (column, .tests comparands) :: rest =>
    Condition.faultsTests d column comparands ++ Condition.faultsAll d rest

def Condition.faultsTests (d : Dialect) (column : String) : List (String × Value) → List Error
  | [] => []
  | (name, v) :: rest =>
    (match Comparison.ofTest? name v with
      | none => []
      | some op => d.comparisonFault op ++ (Identifier.parse column).emptyFault ++ v.faults d) ++
      Condition.faultsTests d column rest

end

variable {d : Dialect}

theorem Value.faultsEach_eq_map (vs : List Value) :
    Value.faultsEach d vs = vs.map (Value.faults d) :=
  eq_map_of_cons rfl (fun _ _ => rfl) vs

theorem Expr.faultsEach_eq_map (es : List Expr) :
    Expr.faultsEach d es = es.map (Expr.faults d) :=
  eq_map_of_cons rfl (fun _ _ => rfl) es

namespace Step

/-- The step meets the faults in this order, and fails with the first of them. -/
structure Meets (step : Step) (faults : List Error) : Prop where
  contextFree : step.ContextFree
  error_eq : (step {}).error = faults.head?

variable {step lhs rhs start stop : Step} {steps items args : List Step}
  {f g fl fr fa fb : List Error} {fs : List (List Error)}

/-- Only the first fault counts. -/
theorem Meets.of_head?_eq (h : step.Meets f) (hfg : f.head? = g.head?) : step.Meets g :=
  ⟨h.contextFree, h.error_eq.trans hfg⟩

@[simp] theorem meets_skip : skip.Meets [] := ⟨contextFree_skip, rfl⟩

@[simp] theorem meets_write (s : String) : (write s).Meets [] := ⟨contextFree_write s, rfl⟩

@[simp] theorem meets_writeChar (c : Char) : (writeChar c).Meets [] :=
  ⟨contextFree_writeChar c, rfl⟩

/-- Nothing that comes after a failure is met. -/
theorem meets_fail (e : Error) (f : List Error) : (fail e).Meets (e :: f) :=
  ⟨contextFree_fail e, rfl⟩

theorem Meets.cons (h : step.Meets f) (hs : (seq steps).Meets g) :
    (seq (step :: steps)).Meets (f ++ g) := by
  have hcf : (seq (step :: steps)).ContextFree := by
    intro b
    rw [seq_cons, seq_cons, hs.contextFree, hs.contextFree (step {}), h.contextFree b,
      Buffer.append_assoc]
  refine ⟨hcf, ?_⟩
  rw [seq_cons, hs.contextFree, Buffer.error_append, h.error_eq, hs.error_eq, List.head?_append]

/-- The faults of a sequence are those of its steps, one after the other. -/
theorem meets_seq (fs : List (List Error)) (hf : fs.flatten = f)
    (h : List.Forall₂ Meets steps fs) : (seq steps).Meets f := by
  subst hf
  induction h with
  | nil => exact meets_skip
  | cons h _ ih => exact h.cons ih

theorem meets_ite {p : Prop} [Decidable p] {other : Step} (hs : step.Meets f)
    (ho : other.Meets f) : (if p then step else other).Meets f := by
  split <;> assumption

theorem meets_seq_nil (h : ∀ step ∈ steps, step.Meets []) : (seq steps).Meets [] := by
  apply meets_seq (steps.map fun _ => []) (by simp)
  exact List.forall₂_map_right_iff.mpr (List.forall₂_same.mpr h)

theorem meets_quoted (d : Dialect) (s : String) : (quoted d s).Meets [] := by
  rw [quoted_eq_write]
  exact meets_write _

/-- A number that is not finite is refused by its name. -/
theorem meets_float (x : Binary64) :
    (float x).Meets (if x.isFinite then [] else [.unwritable x.nonFiniteName]) := by
  unfold float
  split
  · exact meets_write _
  · exact meets_fail _ _

/-- The arguments that take the place of a `?` are the first ones. -/
theorem meets_substitute (cs : List Char) (h : List.Forall₂ Meets args fs) :
    (substitute cs args).Meets (fs.take (cs.count '?')).flatten := by
  induction cs generalizing args fs with
  | nil => simp [substitute]
  | cons c cs ih =>
    cases h with
    | nil =>
      have hrest := ih .nil
      refine meets_seq [[], _] ?_ (.cons (meets_writeChar c) (.cons hrest .nil))
      simp
    | @cons arg f args fs harg hargs =>
      rw [substitute]
      split
      · rename_i hc
        have hrest := ih hargs
        refine meets_seq [f, _] ?_ (.cons harg (.cons hrest .nil))
        simp [hc]
      · rename_i hc
        have hrest := ih (.cons harg hargs)
        refine meets_seq [[], _] ?_ (.cons (meets_writeChar c) (.cons hrest .nil))
        simp [hc]

theorem flatten_intersperse_nil {α : Type} (fs : List (List α)) :
    (fs.intersperse []).flatten = fs.flatten := by
  fun_induction List.intersperse [] fs <;> simp_all

theorem meets_separated (hs : step.Meets []) (h : List.Forall₂ Meets items fs) :
    (separated step items).Meets fs.flatten :=
  meets_seq _ (flatten_intersperse_nil fs) (forall₂_intersperse hs h)

theorem meets_commaSeparated (h : List.Forall₂ Meets items fs) :
    (commaSeparated d items).Meets fs.flatten :=
  meets_separated (meets_seq_nil (by simp)) h

theorem meets_tuple (h : List.Forall₂ Meets items fs) : (tuple d items).Meets fs.flatten :=
  meets_seq [[], fs.flatten, []] (by simp) (by simp [meets_commaSeparated h])

/-- A missing operator is met before the operands are looked at. -/
theorem meets_compare (op : Comparison) (hl : lhs.Meets fl) (hr : rhs.Meets fr) :
    (compare d op lhs rhs).Meets (d.comparisonFault op ++ fl ++ fr) := by
  unfold compare Dialect.comparisonFault
  cases d.comparison op with
  | none => exact meets_fail _ _
  | some text =>
    exact meets_seq [[], fl, [], [], [], fr, []] (by simp [Error.ifMissing]) (by simp [hl, hr])

theorem meets_compute (op : Arithmetic) (hl : lhs.Meets fl) (hr : rhs.Meets fr) :
    (compute d op lhs rhs).Meets (d.arithmeticFault op ++ fl ++ fr) := by
  unfold compute Dialect.arithmeticFault
  cases d.arithmetic op with
  | none => exact meets_fail _ _
  | some text => exact meets_seq [fl, [], fr] (by simp [Error.ifMissing]) (by simp [hl, hr])

/-- The left operand is written twice, and what it meets the second time it has met before. -/
theorem meets_range (test : RangeTest) (hl : lhs.Meets fl) (ha : start.Meets fa)
    (hb : stop.Meets fb) :
    (range d test lhs start stop).Meets (d.rangeFault test ++ fl ++ fa ++ fb) := by
  unfold range Dialect.rangeFault
  cases d.comparison test.comparisons.1 with
  | none => exact meets_fail _ _
  | some lower =>
    cases d.comparison test.comparisons.2 with
    | none => exact meets_fail _ _
    | some upper =>
      apply Meets.of_head?_eq (f := fl ++ fa ++ fl ++ fb)
      · exact meets_seq [[], fl, [], [], [], fa, [], fl, [], [], [], fb, []] (by simp)
          (by simp [hl, ha, hb])
      · cases fl <;> cases fa <;> simp [Error.ifMissing]

/-- Parentheses and connectives have no faults, so those of the items are all there are. -/
theorem meets_junction (op : Connective) (h : List.Forall₂ Meets items fs) :
    (junction d op items).Meets fs.flatten := by
  cases h with
  | nil => exact meets_skip
  | @cons item f _ _ hitem hitems =>
    cases hitems with
    | nil => simpa [junction] using hitem
    | cons hitem' hitems =>
      have h := meets_separated (meets_write (d.connective op))
        (.cons hitem (.cons hitem' hitems))
      exact meets_seq [[], _, []] (by simp)
        (.cons (meets_writeChar _) (.cons h (.cons (meets_writeChar _) .nil)))

/-- An identifier without any part is refused as empty, and otherwise the column alone can have
faults. -/
theorem meets_identifier (i : Identifier)
    (h : ∀ l, i.column = .literal l →
      (substitute l.sql.toList args).Meets (i.column.faults d)) :
    (identifier d i args).Meets (i.emptyFault ++ i.column.faults d) := by
  unfold identifier Identifier.emptyFault
  split
  · exact meets_fail _ _
  · have hwrite (p : Prop) [Decidable p] (c : Char) : (if p then skip else writeChar c).Meets [] :=
      meets_ite meets_skip (meets_writeChar c)
    have hperiod (p : Prop) [Decidable p] (c : Char) : (if p then writeChar c else skip).Meets [] :=
      meets_ite (meets_writeChar c) meets_skip
    refine meets_seq [[], [], [], i.column.faults d] (by simp) ?_
    refine .cons (meets_write _) (.cons (hwrite _ _) (.cons (meets_write _) (.cons ?_ .nil)))
    split
    · rename_i hc
      rw [hc]
      exact meets_skip
    · rename_i s hc
      rw [hc]
      exact meets_ite meets_skip (meets_seq_nil (by simp [hperiod]))
    · rename_i l hc
      exact meets_seq [[], _] (by simp) (.cons (hperiod _ _) (.cons (h l hc) .nil))
    · rename_i e hc
      rw [hc]
      exact meets_fail _ _

end Step

open Step

theorem Literal.faults_of_column {i : Identifier} {l : Literal}
    (h : i.column = .literal l) : i.column.faults d = (Expr.literal l).faults d := by
  rw [h, Column.faults, Expr.faults]

theorem Identifier.faults_eq (i : Identifier) :
    i.faults d = i.emptyFault ++ i.column.faults d := by
  cases i
  rfl

/-- A parsed name is refused only when there is nothing in it. -/
theorem Expr.faults_ofName (name : String) :
    (Expr.ofName name).faults d = (Identifier.parse name).emptyFault := by
  have hcolumn : (Identifier.parse name).column.faults d = [] := by
    rcases Identifier.column_parse name with ⟨s, h⟩ | h <;> rw [h] <;> rfl
  rw [Expr.ofName, Expr.faults, Identifier.faults_eq, hcolumn, List.append_nil]

namespace Condition

/-- Where each error is a fault, success means that there is none. -/
theorem eq_none_of_ok {α : Type} {x : Except Error α} {a : α} {fault : Option Error}
    (hx : x = .ok a) (h : ∀ e, x = .error e ↔ fault = some e) : fault = none := by
  refine Option.eq_none_iff_forall_ne_some.mpr fun e he => ?_
  cases hx.symm.trans ((h e).mpr he)

/-- A condition cannot be expanded exactly when a test in it is unknown, and the first such test is
the error. -/
theorem expand_eq_error_iff {column : String} {c : Condition} {e : Error} :
    c.expand column = .error e ↔ c.unknownTests.head? = some e := by
  cases c with
  | equals v => simp [expand, unknownTests]
  | tests comparands =>
    rw [expand, exceptMap_eq_error_iff, unknownTests]
    induction comparands with
    | nil => simp [expandTests]
    | cons test rest ih =>
      obtain ⟨name, v⟩ := test
      rw [expandTests]
      cases h : Comparison.ofTest? name v with
      | none => simp [h]
      | some op => simp [h, exceptMap_eq_error_iff, ih]

/-- The first operator that there is none of is the error of the expansion. -/
theorem expandAll_eq_error_iff {entries : List (String × Condition)} {e : Error} :
    expandAll entries = .error e ↔ (entries.flatMap (·.2.unknownTests)).head? = some e := by
  induction entries with
  | nil => simp [expandAll]
  | cons entry entries ih =>
    obtain ⟨column, c⟩ := entry
    rw [List.flatMap_cons, List.head?_append, Option.or_eq_some_iff, ← ih, expandAll]
    cases hc : c.expand column with
    | error e' =>
      rw [expand_eq_error_iff.mp hc]
      simp [bind, Except.bind]
    | ok e' =>
      rw [eq_none_of_ok hc fun e => expand_eq_error_iff]
      cases expandAll entries <;> simp [bind, Except.bind, pure, Except.pure]

theorem faultsTests_eq {column : String} {comparands : List (String × Value)} {es : List Expr}
    (h : expandTests (.ofName column) comparands = .ok es) :
    faultsTests d column comparands = (es.map (Expr.faults d)).flatten := by
  have htests := expandTests_eq_ok_iff.mp h
  clear h
  induction htests with
  | nil => rfl
  | cons htest _ ih =>
    obtain ⟨o, ho, rfl⟩ := htest
    simp [faultsTests, ho, ih, Expr.faults, Expr.faults_ofName]

/-- A map that expands has the faults of its expansion, in the same order. -/
theorem faultsAll_eq {entries : List (String × Condition)} {es : List Expr}
    (h : expandAll entries = .ok es) : faultsAll d entries = (es.map (Expr.faults d)).flatten := by
  have hentries := expandAll_eq_ok_iff.mp h
  clear h
  induction hentries with
  | nil => rfl
  | @cons entry e entries es he _ ih =>
    obtain ⟨column, c⟩ := entry
    cases c with
    | equals v =>
      cases he
      simp [faultsAll, ih, Expr.equals, Expr.faults, Expr.faults_ofName]
    | tests comparands =>
      obtain ⟨ts, hts, rfl⟩ := exceptMap_eq_ok_iff.mp he
      simp [faultsAll, ih, faultsTests_eq hts, Expr.join, dropEmpty_of_expandTests hts, Expr.faults,
        Expr.faultsEach_eq_map]

end Condition

/-- The first fault of a map is the error of its expansion, or the first fault of what the map
expands to. -/
theorem Expr.head?_faults_conditions (op : Connective) (entries : List (String × Condition)) :
    ((Expr.conditions op entries).faults d).head? =
      match Expr.ofEntries op entries with
      | .error e => some e
      | .ok e => (e.faults d).head? := by
  unfold Expr.ofEntries
  rw [Expr.faults, List.head?_append]
  cases h : Condition.expandAll entries with
  | error e =>
    rw [Condition.expandAll_eq_error_iff.mp h, Option.some_or]
    rfl
  | ok es =>
    have hnone := Condition.eq_none_of_ok h fun e => Condition.expandAll_eq_error_iff
    have hempty : ∀ e ∈ es, e.isEmptyList → e.faults d = [] := by
      intro e he hlist
      rw [Condition.eq_of_isEmptyList h e he hlist]
      rfl
    change _ = ((Expr.junction op (dropEmpty es)).faults d).head?
    rw [hnone, Option.none_or, Condition.faultsAll_eq h, Expr.faults, Expr.faultsEach_eq_map,
      ← List.flatMap_def, ← List.flatMap_def, flatMap_dropEmpty hempty]

/-- Every value and expression is written without an error, or fails with the first fault that is
met. -/
theorem hereditary_meets (d : Dialect) :
    Hereditary (fun v => (v.render d).Meets (v.faults d)) (fun e => (e.render d).Meets (e.faults d))
    where
  null := meets_write _
  bool _ := meets_fail _ _
  int _ := meets_write _
  uint _ := meets_write _
  float _ := meets_float _
  string _ := meets_quoted _ _
  bytes _ := meets_quoted _ _
  list vs h := by
    rw [Value.render, Value.renderAll_eq_map, Value.faults, Value.faultsEach_eq_map]
    exact meets_tuple (forall₂_map_of_forall h)
  expr _ h := h
  ident i h _ := by
    rw [Expr.render, Identifier.render_eq, Expr.faults, Identifier.faults_eq]
    apply meets_identifier
    intro l hl
    rw [Literal.render_of_column d hl, Literal.faults_of_column hl]
    exact h _ hl
  literal l h := by
    obtain ⟨sql, args⟩ := l
    rw [Expr.render, Literal.render, Value.renderAll_eq_map, Expr.faults, Literal.faults,
      Value.faultsEach_eq_map]
    exact meets_substitute _ (forall₂_map_of_forall h)
  compare op _ _ hl hr := meets_compare op hl hr
  compute op _ _ hl hr := meets_compute op hl hr
  range test _ _ _ hl ha hb := meets_range test hl ha hb
  ordered e dir h := by
    rw [Expr.render, Expr.faults]
    exact meets_seq [e.faults d, []] (by simp) (by simp [h])
  aliased e name h hname := by
    have hname : (name.render d).Meets (name.faults d) := hname
    rw [Expr.render, Expr.faults]
    exact meets_seq [e.faults d, [], name.faults d] (by simp) (by simp [h, hname])
  call function args h := by
    rw [Expr.render, Value.renderAll_eq_map, Expr.faults, Value.faultsEach_eq_map]
    have hargs := meets_tuple (d := d) (forall₂_map_of_forall h)
    exact meets_seq [[], _] (by simp) (.cons (meets_write _) (.cons hargs .nil))
  junction op items h := by
    rw [Expr.render, Expr.renderAll_eq_map, Expr.faults, Expr.faultsEach_eq_map]
    exact meets_junction op (forall₂_map_of_forall h)
  columns cols h := by
    rw [Expr.render, Expr.renderAll_eq_map, Expr.faults, Expr.faultsEach_eq_map]
    exact meets_commaSeparated (forall₂_map_of_forall h)
  conditions op entries h := by
    have hhead := Expr.head?_faults_conditions (d := d) op entries
    rw [Expr.render_conditions]
    cases he : Expr.ofEntries op entries with
    | error e =>
      rw [he] at hhead
      exact (meets_fail e []).of_head?_eq hhead.symm
    | ok e =>
      rw [he] at hhead
      exact (h e he).of_head?_eq hhead.symm

/-- A value is written in the same way after whatever text. -/
theorem Value.contextFree_render (d : Dialect) (v : Value) : (v.render d).ContextFree :=
  ((hereditary_meets d).all_values v).contextFree

/-- An expression is written in the same way after whatever text, and not at all after an error. -/
theorem Expr.contextFree_render (d : Dialect) (e : Expr) : (e.render d).ContextFree :=
  ((hereditary_meets d).all_exprs e).contextFree

theorem Expr.meets_renderAll (d : Dialect) (es : List Expr) :
    List.Forall₂ Meets (Expr.renderAll d es) (Expr.faultsEach d es) := by
  rw [Expr.renderAll_eq_map, Expr.faultsEach_eq_map]
  exact forall₂_map_of_forall fun e _ => (hereditary_meets d).all_exprs e

/-- Rendering returns an error exactly when the traversal meets a fault, and it is the first. -/
theorem Expr.sql_eq_error_iff (d : Dialect) (e : Expr) (err : Error) :
    e.sql d = .error err ↔ (e.faults d).head? = some err := by
  have h := (hereditary_meets d).all_exprs e
  rw [Expr.sql, Step.result, Buffer.result_eq_error_iff, h.error_eq]

-- A column that is a literal is written, and one that holds a literal as an expression is refused.
example :
    (Expr.ident ⟨"", "t", .literal .star⟩).sql .timeSeries = .ok "t.*" ∧
      (Expr.ident ⟨"", "t", .other .star⟩).sql .timeSeries =
        .error (.unsupportedColumn "LiteralExpression") := by
  decide +kernel

end SeriesQuery
