import SeriesQuery.Proofs.Lists
import SeriesQuery.Render.Expr

/-! Condition maps and the lists of comparisons that they stand for. Writing a map is writing its
expansion. -/

namespace SeriesQuery

variable {column : String} {c : Condition} {lhs e : Expr} {es : List Expr}
  {entries : List (String × Condition)} {comparands : List (String × Value)}

theorem exceptMap_eq_ok_iff {ε α β : Type} {f : α → β} {x : Except ε α} {b : β} :
    x.map f = .ok b ↔ ∃ a, x = .ok a ∧ f a = b := by
  cases x <;> simp [Except.map]

/-- A change of the result leaves an error alone. -/
theorem exceptMap_eq_error_iff {ε α β : Type} {f : α → β} {x : Except ε α} {e : ε} :
    x.map f = .error e ↔ x = .error e := by
  cases x <;> simp [Except.map]

theorem Expr.dropEmpty_cons (e : Expr) (es : List Expr) :
    dropEmpty (e :: es) = if e.isEmptyList then dropEmpty es else e :: dropEmpty es := by
  rw [dropEmpty, List.filter_cons]
  cases e.isEmptyList <;> rfl

theorem Expr.dropEmpty_append (xs ys : List Expr) :
    dropEmpty (xs ++ ys) = dropEmpty xs ++ dropEmpty ys :=
  List.filter_append xs ys

namespace Condition

/-- The values that a condition compares with. -/
def values : Condition → List Value
  | .equals v => [v]
  | .tests comparands => comparands.map Prod.snd

/-- Each test becomes a comparison with its value. -/
theorem expandTests_eq_ok_iff :
    expandTests lhs comparands = .ok es ↔
      List.Forall₂ (fun test e =>
        ∃ o, Comparison.ofTest? test.1 test.2 = some o ∧ e = .compare o lhs test.2)
        comparands es := by
  induction comparands generalizing es with
  | nil => simp [expandTests, eq_comm]
  | cons test rest ih =>
    obtain ⟨name, v⟩ := test
    rw [List.forall₂_cons_left_iff, expandTests]
    cases Comparison.ofTest? name v with
    | none => simp
    | some o =>
      rw [exceptMap_eq_ok_iff]
      simp [ih, eq_comm]

/-- Each entry becomes the condition on its column. -/
theorem expandAll_eq_ok_iff :
    expandAll entries = .ok es ↔
      List.Forall₂ (fun entry e => entry.2.expand entry.1 = .ok e) entries es := by
  induction entries generalizing es with
  | nil => simp [expandAll, eq_comm]
  | cons entry entries ih =>
    obtain ⟨column, c⟩ := entry
    rw [List.forall₂_cons_left_iff, expandAll]
    simp only [← ih]
    cases c.expand column <;> cases expandAll entries <;>
      simp [bind, Except.bind, pure, Except.pure, eq_comm]

/-- What holds of every comparison that a map can expand to, and passes to lists of conditions,
holds of the expansion. -/
theorem ofEntries_of_forall {Q : Expr → Prop} {op : Connective}
    (hcompare : ∀ entry ∈ entries, ∀ v ∈ entry.2.values, ∀ o,
      Q (.compare o (.ofName entry.1) v))
    (hjoin : ∀ o es, (∀ e ∈ es, Q e) → Q (.join o es))
    (h : Expr.ofEntries op entries = .ok e) : Q e := by
  obtain ⟨es, hes, rfl⟩ := exceptMap_eq_ok_iff.mp h
  refine hjoin _ _ fun e he => ?_
  obtain ⟨⟨column, c⟩, hentry, he⟩ := exists_mem_of_forall₂ (expandAll_eq_ok_iff.mp hes) e he
  cases c with
  | equals v =>
    cases he
    exact hcompare _ hentry v (List.mem_singleton.mpr rfl) _
  | tests comparands =>
    obtain ⟨ts, hts, rfl⟩ := exceptMap_eq_ok_iff.mp he
    refine hjoin _ _ fun t ht => ?_
    obtain ⟨test, htest, o, -, rfl⟩ := exists_mem_of_forall₂ (expandTests_eq_ok_iff.mp hts) t ht
    exact hcompare _ hentry _ (List.mem_map_of_mem htest) o

/-- A test is a comparison and not a list, so none of them is left out. -/
theorem dropEmpty_of_expandTests (h : expandTests lhs comparands = .ok es) :
    Expr.dropEmpty es = es := by
  apply List.filter_eq_self.mpr
  intro e he
  obtain ⟨test, -, o, -, rfl⟩ := exists_mem_of_forall₂ (expandTests_eq_ok_iff.mp h) e he
  rfl

theorem eq_of_isEmpty (h : c.isEmpty) : c = .tests [] := by
  unfold isEmpty at h
  split at h
  · rfl
  · cases h

/-- Only a condition without any tests expands to an empty list. -/
theorem isEmptyList_of_expand (h : c.expand column = .ok e) : e.isEmptyList = c.isEmpty := by
  cases c with
  | equals v =>
    cases h
    rfl
  | tests comparands =>
    obtain ⟨ts, hts, rfl⟩ := exceptMap_eq_ok_iff.mp h
    rw [Expr.join, Expr.isEmptyList, dropEmpty_of_expandTests hts]
    cases expandTests_eq_ok_iff.mp hts <;> rfl

/-- The condition with each value changed. -/
def mapValues (f : Value → Value) : Condition → Condition
  | .equals v => .equals (f v)
  | .tests comparands => .tests (comparands.map fun (name, v) => (name, f v))

theorem values_mapValues (f : Value → Value) (c : Condition) :
    (c.mapValues f).values = c.values.map f := by
  cases c with
  | equals v => rfl
  | tests comparands => simp [mapValues, values, Function.comp_def]

theorem isEmpty_mapValues (f : Value → Value) (c : Condition) :
    (c.mapValues f).isEmpty = c.isEmpty := by
  cases c with
  | equals v => rfl
  | tests comparands => cases comparands <;> rfl

end Condition

/-- A map is empty exactly when its expansion is. -/
theorem Expr.isEmptyList_ofEntries {op : Connective} (h : ofEntries op entries = .ok e) :
    e.isEmptyList = (conditions op entries).isEmptyList := by
  obtain ⟨es, hes, rfl⟩ := exceptMap_eq_ok_iff.mp h
  have hentries := Condition.expandAll_eq_ok_iff.mp hes
  clear h hes
  induction hentries with
  | nil => rfl
  | @cons entry e entries es he _ ih =>
    have hhead := Condition.isEmptyList_of_expand he
    change (dropEmpty es).isEmpty = entries.all (·.2.isEmpty) at ih
    change (dropEmpty (e :: es)).isEmpty = (entry.2.isEmpty && entries.all (·.2.isEmpty))
    rw [dropEmpty_cons, hhead, ← ih]
    cases entry.2.isEmpty <;> rfl

/-- Empty lists are not missed where they have nothing. -/
theorem Expr.flatMap_dropEmpty {α : Type} {f : Expr → List α}
    (h : ∀ e ∈ es, e.isEmptyList → f e = []) : (dropEmpty es).flatMap f = es.flatMap f := by
  induction es with
  | nil => rfl
  | cons e es ih =>
    obtain ⟨he, hes⟩ := List.forall_mem_cons.mp h
    rw [dropEmpty_cons]
    cases hempty : e.isEmptyList with
    | false => simp [ih hes]
    | true => simp [ih hes, he hempty]

/-- The only empty list that a map can expand to is that of a column of which nothing is asked. -/
theorem Condition.eq_of_isEmptyList (h : expandAll entries = .ok es) :
    ∀ e ∈ es, e.isEmptyList → e = .junction .or [] := by
  intro e he hempty
  obtain ⟨⟨column, c⟩, -, hc⟩ := exists_mem_of_forall₂ (expandAll_eq_ok_iff.mp h) e he
  cases c with
  | equals v =>
    cases hc
    cases hempty
  | tests comparands =>
    obtain ⟨ts, -, rfl⟩ := exceptMap_eq_ok_iff.mp hc
    have hts : Expr.dropEmpty ts = [] := List.isEmpty_iff.mp hempty
    rw [Expr.join, hts]

/-- What is collected from the comparisons that a map expands to is collected from the values in the
map. -/
theorem Expr.flatMap_values_of_ofEntries {α : Type} {f : Expr → List α} {g : Value → List α}
    {op : Connective} (hcompare : ∀ o column v, f (.compare o (.ofName column) v) = g v)
    (hjunction : ∀ o es, f (.junction o es) = es.flatMap f)
    (h : Expr.ofEntries op entries = .ok e) :
    f e = entries.flatMap fun entry => entry.2.values.flatMap g := by
  obtain ⟨es, hes, rfl⟩ := exceptMap_eq_ok_iff.mp h
  have hempty : ∀ e ∈ es, e.isEmptyList → f e = [] := by
    intro e he hnone
    rw [Condition.eq_of_isEmptyList hes e he hnone, hjunction]
    rfl
  rw [join, hjunction, flatMap_dropEmpty hempty]
  have hentries := Condition.expandAll_eq_ok_iff.mp hes
  clear h hes hempty
  induction hentries with
  | nil => rfl
  | @cons entry e entries es he _ ih =>
    obtain ⟨column, c⟩ := entry
    have hentry : f e = c.values.flatMap g := by
      cases c with
      | equals v =>
        cases he
        simpa [Condition.values, Expr.equals] using hcompare _ column v
      | tests comparands =>
        obtain ⟨ts, hts, rfl⟩ := exceptMap_eq_ok_iff.mp he
        rw [join, hjunction, Condition.dropEmpty_of_expandTests hts]
        have htests := Condition.expandTests_eq_ok_iff.mp hts
        clear he hts
        induction htests with
        | nil => rfl
        | cons htest _ iht =>
          obtain ⟨o, -, rfl⟩ := htest
          simp only [Condition.values, List.map_cons, List.flatMap_cons, hcompare] at iht ⊢
          rw [iht]
    rw [List.flatMap_cons, List.flatMap_cons, hentry, ih]

/-- A change of values, and one of expressions that makes it in comparisons with a column and goes
through lists of conditions. -/
structure Distributes (f : Value → Value) (g : Expr → Expr) : Prop where
  equalityWith (v : Value) : Comparison.equalityWith (f v) = Comparison.equalityWith v
  compare (op : Comparison) (column : String) (v : Value) :
    g (.compare op (.ofName column) v) = .compare op (.ofName column) (f v)
  join (op : Connective) (es : List Expr) : g (.join op es) = .join op (es.map g)

namespace Distributes

variable {f : Value → Value} {g : Expr → Expr}

theorem ofTest? (h : Distributes f g) (name : String) (v : Value) :
    Comparison.ofTest? name (f v) = Comparison.ofTest? name v := by
  simp only [Comparison.ofTest?, h.equalityWith]

/-- The operators of the tests do not change, and their values only as they should. -/
theorem expandTests (h : Distributes f g) (column : String) (comparands : List (String × Value)) :
    Condition.expandTests (.ofName column) (comparands.map fun (name, v) => (name, f v)) =
      (Condition.expandTests (.ofName column) comparands).map (List.map g) := by
  induction comparands with
  | nil => rfl
  | cons test rest ih =>
    obtain ⟨name, v⟩ := test
    simp only [List.map_cons, Condition.expandTests, h.ofTest?, ih]
    cases Comparison.ofTest? name v with
    | none => rfl
    | some op => cases Condition.expandTests (.ofName column) rest <;> simp [Except.map, h.compare]

theorem expand (h : Distributes f g) (column : String) (c : Condition) :
    (c.mapValues f).expand column = (c.expand column).map g := by
  cases c with
  | equals v =>
    simp [Condition.mapValues, Condition.expand, Expr.equals, Except.map, h.equalityWith, h.compare]
  | tests comparands =>
    rw [Condition.mapValues, Condition.expand, Condition.expand, h.expandTests]
    cases Condition.expandTests (.ofName column) comparands with
    | error e => rfl
    | ok es => exact congrArg Except.ok (h.join .or es).symm

/-- A change of the values of a map is one of what it expands to, with the same error if it
fails. -/
theorem expandAll (h : Distributes f g) (entries : List (String × Condition)) :
    Condition.expandAll (entries.map fun (column, c) => (column, c.mapValues f)) =
      (Condition.expandAll entries).map (List.map g) := by
  induction entries with
  | nil => rfl
  | cons entry rest ih =>
    obtain ⟨column, c⟩ := entry
    rw [List.map_cons, Condition.expandAll, Condition.expandAll, h.expand, ih]
    cases c.expand column <;> cases Condition.expandAll rest <;> rfl

/-- The change in the values of a map is the change in its expansion. -/
theorem ofEntries (h : Distributes f g) (op : Connective) (entries : List (String × Condition)) :
    Expr.ofEntries op (entries.map fun (column, c) => (column, c.mapValues f)) =
      (Expr.ofEntries op entries).map g := by
  rw [Expr.ofEntries, Expr.ofEntries, h.expandAll]
  cases Condition.expandAll entries with
  | error e => rfl
  | ok es => exact congrArg Except.ok (h.join op es).symm

end Distributes

theorem Value.renderAll_eq_map (d : Dialect) (vs : List Value) :
    Value.renderAll d vs = vs.map (Value.render d) :=
  eq_map_of_cons rfl (fun _ _ => rfl) vs

theorem Expr.renderAll_eq_map (d : Dialect) (es : List Expr) :
    Expr.renderAll d es = es.map (Expr.render d) :=
  eq_map_of_cons rfl (fun _ _ => rfl) es

theorem Identifier.render_eq (d : Dialect) (i : Identifier) :
    i.render d = Step.identifier d i (i.column.renderArgs d) := by
  cases i
  rfl

/-- The column of an identifier is written as the literal that it is. -/
theorem Literal.render_of_column (d : Dialect) {i : Identifier} {l : Literal}
    (h : i.column = .literal l) :
    Step.substitute l.sql.toList (i.column.renderArgs d) = (Expr.literal l).render d := by
  rw [h]
  cases l
  rfl

/-- A parsed name has no expression in the place of its column but the star. -/
theorem Identifier.column_parse (name : String) :
    (∃ s, (parse name).column = .name s) ∨ (parse name).column = .literal .star := by
  have hcolumn (s : String) :
      (∃ t, Column.ofName s = .name t) ∨ Column.ofName s = .literal .star := by
    unfold Column.ofName
    split
    · exact .inr rfl
    · exact .inl ⟨s, rfl⟩
  unfold parse ofColumn
  split <;> exact hcolumn _

/-- The only literal that a parsed name can have in it is the star, which takes no arguments. -/
theorem Expr.render_ofName (d : Dialect) (name : String) :
    (Expr.ofName name).render d = Step.named d name := by
  have hargs : (Identifier.parse name).column.renderArgs d = [] := by
    rcases Identifier.column_parse name with ⟨s, h⟩ | h <;> rw [h] <;> rfl
  rw [Expr.ofName, Expr.render, Identifier.render_eq, hargs, Step.named]

namespace Condition

variable {d : Dialect}

theorem renderTests_eq (h : expandTests (.ofName column) comparands = .ok es) :
    renderTests d column comparands = es.map (Expr.render d) := by
  have htests := expandTests_eq_ok_iff.mp h
  clear h
  induction htests with
  | nil => rfl
  | cons htest _ ih =>
    obtain ⟨o, ho, rfl⟩ := htest
    simp [renderTests, ho, ih, Expr.render, Expr.render_ofName]

/-- A map is written as what it expands to, without the lists that are empty. -/
theorem renderAll_eq (h : expandAll entries = .ok es) :
    renderAll d entries = (Expr.dropEmpty es).map (Expr.render d) := by
  have hentries := expandAll_eq_ok_iff.mp h
  clear h
  induction hentries with
  | nil => rfl
  | @cons entry e entries es he _ ih =>
    obtain ⟨column, c⟩ := entry
    cases c with
    | equals v =>
      cases he
      simp [renderAll, ih, Expr.dropEmpty, Expr.isEmptyList, Expr.equals, Expr.render,
        Expr.render_ofName]
    | tests comparands =>
      obtain ⟨ts, hts, rfl⟩ := exceptMap_eq_ok_iff.mp he
      have hrender := renderTests_eq (d := d) hts
      rw [Expr.join, dropEmpty_of_expandTests hts, Expr.dropEmpty_cons]
      cases expandTests_eq_ok_iff.mp hts with
      | nil => exact ih
      | cons =>
        rw [renderAll, hrender, ih]
        simp [Expr.isEmptyList, Expr.render, Expr.renderAll_eq_map]

end Condition

/-- Writing a map is writing its expansion. An operator that there is none of fails it. -/
theorem Expr.render_conditions (d : Dialect) (op : Connective)
    (entries : List (String × Condition)) :
    (Expr.conditions op entries).render d =
      match Expr.ofEntries op entries with
      | .error e => Step.fail e
      | .ok e => e.render d := by
  unfold Expr.ofEntries
  rw [Expr.render]
  cases h : Condition.expandAll entries with
  | error e => rfl
  | ok es =>
    simp [Except.map, Expr.join, Expr.render, Condition.renderAll_eq h, Expr.renderAll_eq_map]

end SeriesQuery
