import SeriesQuery.Proofs.Fault

/-! The normal form of a condition: no maps, no empty lists, no lists of one, and no signed numbers
that are not negative. It is written as the condition is. -/

namespace SeriesQuery

/-- Letters, digits and underscores. Every character beyond ASCII is taken for a letter. -/
def isWordChar (c : Char) : Bool := c.isAlphanum || c == '_' || 128 ≤ c.toNat

def IsWord (w : String) : Prop := w ≠ "" ∧ ∀ c ∈ w.toList, isWordChar c

namespace Value

/-- Null, whole numbers, strings, and lists of them. -/
inductive IsPlain : Value → Prop
  | null : IsPlain .null
  | int (n : Int64) : IsPlain (.int n)
  | uint (n : UInt64) : IsPlain (.uint n)
  | string (s : String) : IsPlain (.string s)
  | list {vs : List Value} (h : ∀ v ∈ vs, IsPlain v) : IsPlain (.list vs)

/-- The plain values with one form for each number. -/
inductive IsOperand : Value → Prop
  | null : IsOperand .null
  | negative {n : Int64} (h : n.toInt < 0) : IsOperand (.int n)
  | natural (n : UInt64) : IsOperand (.uint n)
  | string (s : String) : IsOperand (.string s)
  | list {vs : List Value} (h : ∀ v ∈ vs, IsOperand v) : IsOperand (.list vs)

mutual

/-- The value with its numbers unsigned where they are not negative. -/
def unsigned : Value → Value
  | .int n => if n.toInt < 0 then .int n else .uint (.ofNat n.toInt.toNat)
  | .list vs => .list (unsignedAll vs)
  | v => v

def unsignedAll : List Value → List Value
  | [] => []
  | v :: vs => v.unsigned :: unsignedAll vs

end

theorem unsignedAll_eq_map (vs : List Value) : unsignedAll vs = vs.map unsigned :=
  eq_map_of_cons rfl (fun _ _ => rfl) vs

theorem IsPlain.isOperand_unsigned {v : Value} (h : v.IsPlain) : v.unsigned.IsOperand := by
  induction h with
  | null => exact .null
  | int n =>
    rw [unsigned]
    split
    · rename_i hn
      exact .negative hn
    · exact .natural _
  | uint n => exact .natural n
  | string s => exact .string s
  | list _ ih =>
    rw [unsigned, unsignedAll_eq_map]
    exact .list (List.forall_mem_map.mpr ih)

/-- A number that is not negative has the same text unsigned. -/
theorem toString_unsigned {n : Int64} (hn : ¬ n.toInt < 0) :
    toString (UInt64.ofNat n.toInt.toNat).toNat = toString n.toInt := by
  have hlt : n.toInt.toNat < 2 ^ 64 := by
    have := n.toInt_lt
    omega
  have hnat : (UInt64.ofNat n.toInt.toNat).toNat = n.toInt.toNat := UInt64.toNat_ofNat_of_lt hlt
  rw [hnat]
  change toString ((n.toInt.toNat : Nat) : Int) = toString n.toInt
  rw [Int.toNat_of_nonneg (by omega)]

/-- A number that is not negative is written alike with a sign in its type and without. -/
theorem IsPlain.render_unsigned {v : Value} (d : Dialect) (h : v.IsPlain) :
    v.unsigned.render d = v.render d := by
  induction h with
  | int n =>
    rw [unsigned]
    split
    · rfl
    · rename_i hn
      rw [render, render, toString_unsigned hn]
  | list _ ih =>
    rw [unsigned, unsignedAll_eq_map, render, render, renderAll_eq_map, renderAll_eq_map,
      List.map_map]
    exact congrArg (Step.tuple d) (List.map_congr_left ih)
  | _ => rfl

end Value

namespace Expr

/-- Lists of conditions and condition maps to any depth, over comparisons and range tests of
columns with plain values. -/
inductive IsCondition : Expr → Prop
  | compare {op : Comparison} {column : String} {v : Value} (hc : IsWord column)
    (hv : v.IsPlain) : IsCondition (.compare op (.ofName column) v)
  | range {test : RangeTest} {column : String} {start stop : Value} (hc : IsWord column)
    (ha : start.IsPlain) (hb : stop.IsPlain) :
    IsCondition (.range test (.ofName column) start stop)
  | join {op : Connective} {es : List Expr} (h : ∀ e ∈ es, IsCondition e) :
    IsCondition (.join op es)
  | conditions {op : Connective} {entries : List (String × Condition)}
    (h : ∀ entry ∈ entries, IsWord entry.1 ∧ ∀ v ∈ entry.2.values, v.IsPlain) :
    IsCondition (.conditions op entries)

mutual

/-- The condition with its maps expanded. -/
def expanded : Expr → Expr
  | .junction op items => .junction op (expandedAll items)
  | .conditions op entries =>
    match ofEntries op entries with
    | .ok e => e
    | .error _ => .conditions op entries
  | e => e

def expandedAll : List Expr → List Expr
  | [] => []
  | e :: es => e.expanded :: expandedAll es

end

/-- A list of conditions, or the one condition that there is in it. -/
def unwrap (op : Connective) : List Expr → Expr
  | [e] => e
  | es => .junction op es

mutual

/-- The condition with empty lists dropped, lists of one unwrapped and numbers unsigned. -/
def collapsed : Expr → Expr
  | .compare op lhs v => .compare op lhs v.unsigned
  | .range test lhs start stop => .range test lhs start.unsigned stop.unsigned
  | .junction op items => unwrap op (dropEmpty (collapsedAll items))
  | e => e

def collapsedAll : List Expr → List Expr
  | [] => []
  | e :: es => e.collapsed :: collapsedAll es

end

def normal (e : Expr) : Expr := e.expanded.collapsed

/-- The conditions without maps. -/
inductive IsTree : Expr → Prop
  | compare {op : Comparison} {column : String} {v : Value} (hc : IsWord column)
    (hv : v.IsPlain) : IsTree (.compare op (.ofName column) v)
  | range {test : RangeTest} {column : String} {start stop : Value} (hc : IsWord column)
    (ha : start.IsPlain) (hb : stop.IsPlain) : IsTree (.range test (.ofName column) start stop)
  | join {op : Connective} {es : List Expr} (h : ∀ e ∈ es, IsTree e) : IsTree (.join op es)

/-- The conditions in normal form that can be written. -/
inductive IsNormal (d : Dialect) : Expr → Prop
  | compare {op : Comparison} {column : String} {v : Value} (hc : IsWord column)
    (ho : (d.comparison op).isSome) (hv : v.IsOperand) :
    IsNormal d (.compare op (.ofName column) v)
  | range {test : RangeTest} {column : String} {start stop : Value} (hc : IsWord column)
    (hlower : (d.comparison test.comparisons.1).isSome)
    (hupper : (d.comparison test.comparisons.2).isSome) (ha : start.IsOperand)
    (hb : stop.IsOperand) : IsNormal d (.range test (.ofName column) start stop)
  | junction {op : Connective} {e e' : Expr} {es : List Expr}
    (h : ∀ x ∈ e :: e' :: es, IsNormal d x) : IsNormal d (.junction op (e :: e' :: es))

variable {d : Dialect} {e : Expr} {op : Connective} {entries : List (String × Condition)}

theorem expandedAll_eq_map (es : List Expr) : expandedAll es = es.map expanded :=
  eq_map_of_cons rfl (fun _ _ => rfl) es

theorem collapsedAll_eq_map (es : List Expr) : collapsedAll es = es.map collapsed :=
  eq_map_of_cons rfl (fun _ _ => rfl) es

theorem dropEmpty_eq_self {es : List Expr} (h : ∀ e ∈ es, e.isEmptyList = false) :
    dropEmpty es = es :=
  List.filter_eq_self.mpr fun e he => by simp [h e he]

/-- A condition that can be written meets no fault. -/
theorem faults_eq_nil_of_sql {t : String} (h : e.sql d = .ok t) : e.faults d = [] := by
  have hmeets := (hereditary_meets d).all_exprs e
  rw [sql, Step.result, Buffer.result_eq_ok_iff] at h
  have herror := hmeets.error_eq
  rw [h] at herror
  exact List.head?_eq_none_iff.mp herror.symm

theorem faults_of_mem_join {es : List Expr} (h : (join op es).faults d = []) :
    ∀ e ∈ dropEmpty es, e.faults d = [] := by
  rw [join, faults, faultsEach_eq_map] at h
  intro e he
  exact List.flatten_eq_nil_iff.mp h _ (List.mem_map_of_mem he)

theorem isTree_ofEntries
    (h : ∀ entry ∈ entries, IsWord entry.1 ∧ ∀ v ∈ entry.2.values, v.IsPlain)
    (he : ofEntries op entries = .ok e) : e.IsTree := by
  apply Condition.ofEntries_of_forall _ _ he
  · intro entry hentry v hv o
    exact .compare (h entry hentry).1 ((h entry hentry).2 v hv)
  · exact fun _ _ hes => .join hes

/-- Without faults all the maps have expansions. -/
theorem expanded_conditions (h : (conditions op entries).faults d = []) :
    ofEntries op entries = .ok (conditions op entries).expanded := by
  have hhead := head?_faults_conditions (d := d) op entries
  rw [expanded]
  cases he : ofEntries op entries with
  | error e =>
    rw [he, h] at hhead
    cases hhead
  | ok e => rfl

theorem IsCondition.isEmptyList_expanded (he : e.IsCondition) (h : e.faults d = []) :
    e.expanded.isEmptyList = e.isEmptyList := by
  cases he with
  | compare => rfl
  | range => rfl
  | join =>
    rw [Expr.join, expanded, isEmptyList, isEmptyList, expandedAll_eq_map, List.isEmpty_map]
  | conditions => exact isEmptyList_ofEntries (expanded_conditions h)

theorem IsCondition.isTree_expanded (he : e.IsCondition) (h : e.faults d = []) :
    e.expanded.IsTree := by
  induction he with
  | compare hc hv => exact .compare hc hv
  | range hc ha hb => exact .range hc ha hb
  | @join op es hes ih =>
    have hfaults := faults_of_mem_join h
    have hkept : dropEmpty ((dropEmpty es).map expanded) = (dropEmpty es).map expanded := by
      apply dropEmpty_eq_self
      intro e' he'
      obtain ⟨e, he, rfl⟩ := List.mem_map.mp he'
      obtain ⟨hmem, hempty⟩ := List.mem_filter.mp he
      rw [(hes e hmem).isEmptyList_expanded (hfaults e he)]
      simpa using hempty
    rw [Expr.join, expanded, expandedAll_eq_map, ← hkept]
    refine .join (List.forall_mem_map.mpr fun e he => ?_)
    exact ih e (List.mem_filter.mp he).1 (hfaults e he)
  | conditions hentries => exact isTree_ofEntries hentries (expanded_conditions h)

/-- Maps are written as what they expand to, at any depth. -/
theorem IsCondition.render_expanded (d : Dialect) (he : e.IsCondition) :
    e.expanded.render d = e.render d := by
  induction he with
  | compare => rfl
  | range => rfl
  | @join op es _ ih =>
    rw [Expr.join, expanded, expandedAll_eq_map, render, render, renderAll_eq_map, renderAll_eq_map,
      List.map_map]
    congr 1
    exact List.map_congr_left fun e he => ih e (List.mem_filter.mp he).1
  | @conditions op entries _ =>
    rw [render_conditions, expanded]
    cases he : ofEntries op entries with
    | error e => rw [render_conditions, he]
    | ok e => rfl

theorem IsNormal.isEmptyList_eq_false (h : e.IsNormal d) : e.isEmptyList = false := by
  cases h <;> rfl

theorem isSome_of_comparisonFault {o : Comparison} (h : d.comparisonFault o = []) :
    (d.comparison o).isSome := by
  unfold Dialect.comparisonFault at h
  cases ho : d.comparison o with
  | none => simp [ho, Error.ifMissing] at h
  | some text => rfl

theorem isSome_of_rangeFault {test : RangeTest} (h : d.rangeFault test = []) :
    (d.comparison test.comparisons.1).isSome ∧ (d.comparison test.comparisons.2).isSome := by
  unfold Dialect.rangeFault at h
  cases hlower : d.comparison test.comparisons.1 with
  | none => simp [hlower, Error.ifMissing] at h
  | some lower =>
    cases hupper : d.comparison test.comparisons.2 with
    | none => simp [hupper, Error.ifMissing] at h
    | some upper => exact ⟨rfl, rfl⟩

theorem collapsed_join {es : List Expr} (h : ∀ e ∈ dropEmpty es, e.collapsed.isEmptyList = false) :
    (join op es).collapsed = unwrap op ((dropEmpty es).map collapsed) := by
  rw [join, collapsed, collapsedAll_eq_map, dropEmpty_eq_self (List.forall_mem_map.mpr h)]

theorem render_unwrap (d : Dialect) (op : Connective) (es : List Expr) :
    (unwrap op es).render d = (junction op es).render d := by
  rcases es with _ | ⟨e, _ | ⟨e', es⟩⟩ <;> rfl

/-- Without faults a tree that is not an empty list collapses to a normal form. -/
theorem IsTree.isNormal_collapsed (he : e.IsTree) (h : e.faults d = [])
    (hempty : e.isEmptyList = false) : e.collapsed.IsNormal d := by
  induction he with
  | compare hc hv =>
    rw [faults, List.append_eq_nil_iff, List.append_eq_nil_iff] at h
    exact .compare hc (isSome_of_comparisonFault h.1.1) hv.isOperand_unsigned
  | range hc ha hb =>
    simp only [faults, List.append_eq_nil_iff] at h
    obtain ⟨hlower, hupper⟩ := isSome_of_rangeFault h.1.1.1
    exact .range hc hlower hupper ha.isOperand_unsigned hb.isOperand_unsigned
  | @join op es _ ih =>
    have hnormal : ∀ e ∈ dropEmpty es, e.collapsed.IsNormal d := by
      intro e he
      obtain ⟨hmem, hkept⟩ := List.mem_filter.mp he
      exact ih e hmem (faults_of_mem_join h e he) (by simpa using hkept)
    rw [collapsed_join fun e he => (hnormal e he).isEmptyList_eq_false]
    rcases hes : dropEmpty es with _ | ⟨x, _ | ⟨y, rest⟩⟩
    · simp [Expr.join, isEmptyList, hes] at hempty
    · exact hnormal x (by simp [hes])
    · exact .junction (List.forall_mem_map.mpr (hes ▸ hnormal))

/-- Empty lists are written as nothing, and a list of one as the one. -/
theorem IsTree.render_collapsed (he : e.IsTree) (h : e.faults d = []) :
    e.collapsed.render d = e.render d := by
  induction he with
  | compare hc hv => rw [collapsed, render, render, hv.render_unsigned]
  | range hc ha hb => rw [collapsed, render, render, ha.render_unsigned, hb.render_unsigned]
  | @join op es hes ih =>
    have hfaults := faults_of_mem_join h
    have hkept : ∀ e ∈ dropEmpty es, e.collapsed.isEmptyList = false := by
      intro e he
      obtain ⟨hmem, hkept⟩ := List.mem_filter.mp he
      have hnormal := (hes e hmem).isNormal_collapsed (hfaults e he) (by simpa using hkept)
      exact hnormal.isEmptyList_eq_false
    rw [collapsed_join hkept, render_unwrap, Expr.join, render, render, renderAll_eq_map,
      renderAll_eq_map, List.map_map]
    congr 1
    exact List.map_congr_left fun e he => ih e (List.mem_filter.mp he).1 (hfaults e he)

theorem IsTree.collapsed_of_isEmptyList (he : e.IsTree) (hempty : e.isEmptyList = true) :
    ∃ op, e.collapsed = .junction op [] := by
  cases he with
  | compare => cases hempty
  | range => cases hempty
  | @join op es =>
    have hes : dropEmpty es = [] := List.isEmpty_iff.mp hempty
    rw [Expr.join, hes]
    exact ⟨op, rfl⟩

/-- The normal form of a condition that can be written is written in the same way. It is an empty
list only where nothing is written. -/
theorem IsCondition.normal_of_sql {t : String} (he : e.IsCondition) (h : e.sql d = .ok t) :
    e.normal.render d = e.render d ∧
      ((∃ op, e.normal = .junction op []) ∨ e.normal.IsNormal d) := by
  have hfaults := faults_eq_nil_of_sql h
  have htree := he.isTree_expanded hfaults
  have hrender := he.render_expanded d
  have hexpanded : e.expanded.faults d = [] := by
    apply faults_eq_nil_of_sql (t := t)
    rw [sql, hrender]
    exact h
  refine ⟨by rw [normal, htree.render_collapsed hexpanded, hrender], ?_⟩
  cases hempty : e.expanded.isEmptyList with
  | true => exact .inl (htree.collapsed_of_isEmptyList hempty)
  | false => exact .inr (htree.isNormal_collapsed hexpanded hempty)

end Expr

end SeriesQuery
