import SeriesQuery.Proofs.NormalForm
import SeriesQuery.Proofs.Result
import SeriesQuery.Proofs.Generation

/-! Lists of conditions that are built bit by bit. Each condition counts for what is written of it
alone, and those that ask nothing do not count. -/

namespace SeriesQuery

open Step

/-- Texts with a connective between them. Only two or more are put between parentheses. -/
def Dialect.joined (d : Dialect) (op : Connective) : List String → String
  | [] => ""
  | [t] => t
  | ts =>
    String.singleton d.leftParen ++ (d.connective op).intercalate ts ++
      String.singleton d.rightParen

namespace Expr

/-- The texts that the conditions have alone, without those that are empty lists; or the error of
the first condition that cannot be written. -/
def keptTexts (d : Dialect) (xs : List Expr) : Except Error (List String) :=
  (xs.mapM (sql d)).map fun texts =>
    ((xs.zip texts).filter fun (x, _) => !x.isEmptyList).map Prod.snd

/-- Lists of conditions and condition maps to any depth, over comparisons and range tests. -/
inductive IsPredicate : Expr → Prop
  | compare {op : Comparison} {lhs : Expr} {v : Value} : IsPredicate (.compare op lhs v)
  | range {test : RangeTest} {lhs : Expr} {start stop : Value} :
    IsPredicate (.range test lhs start stop)
  | join {op : Connective} {es : List Expr} (h : ∀ e ∈ es, IsPredicate e) :
    IsPredicate (.join op es)
  | conditions {op : Connective} {entries : List (String × Condition)} :
    IsPredicate (.conditions op entries)

end Expr

variable {d : Dialect} {op : Connective} {e : Expr} {es xs : List Expr} {t : String}

/-- Where no text is empty, what is made of them is not, however many there are. -/
theorem Dialect.joined_ne_empty {ts : List String} (hts : ts ≠ []) (h : "" ∉ ts) :
    d.joined op ts ≠ "" := by
  rcases ts with _ | ⟨t, _ | ⟨u, us⟩⟩
  · exact absurd rfl hts
  · exact fun ht => h (List.mem_singleton.mpr ht.symm)
  · intro ht
    have hlist := congrArg String.toList ht
    simp [joined] at hlist

theorem Step.result_junction {items : List Step} (op : Connective)
    (h : ∀ item ∈ items, item.ContextFree) :
    result (Step.junction d op items) = (items.mapM result).map (d.joined op) := by
  rcases items with _ | ⟨item, _ | ⟨item', items⟩⟩
  · rfl
  · rw [exceptMapM_cons]
    change item.result = _
    cases item.result <;> rfl
  · have hwrite := contextFree_write (d.connective op)
    have hjunction := result_parenthesized (d := d) (contextFree_separated hwrite h)
    rw [result_separated hwrite (result_write _) h] at hjunction
    refine hjunction.trans ?_
    simp only [exceptMapM_cons]
    cases item.result <;> cases item'.result <;> cases items.mapM result <;> rfl

namespace Expr

theorem mapM_result_renderAll (d : Dialect) (es : List Expr) :
    (renderAll d es).mapM result = es.mapM (sql d) := by
  rw [renderAll_eq_map, List.mapM_map]
  rfl

theorem sql_junction (d : Dialect) (op : Connective) (items : List Expr) :
    (junction op items).sql d = (items.mapM (sql d)).map (d.joined op) := by
  have hitems : ∀ step ∈ renderAll d items, step.ContextFree := by
    rw [renderAll_eq_map]
    exact List.forall_mem_map.mpr fun e _ => e.contextFree_render d
  rw [sql, render, result_junction op hitems, mapM_result_renderAll]

/-- A map that counts as an empty list expands to one. -/
theorem ofEntries_of_isEmptyList {entries : List (String × Condition)}
    (h : (conditions op entries).isEmptyList) : ofEntries op entries = .ok (.junction op []) := by
  cases he : ofEntries op entries with
  | error err =>
    have hfault := Condition.expandAll_eq_error_iff.mp (exceptMap_eq_error_iff.mp he)
    obtain ⟨⟨column, c⟩, hentry, herr⟩ := List.mem_flatMap.mp (List.mem_of_head? hfault)
    have hempty : c = .tests [] := Condition.eq_of_isEmpty (List.all_eq_true.mp h _ hentry)
    rw [hempty] at herr
    cases herr
  | ok e =>
    have hempty := (isEmptyList_ofEntries he).trans h
    obtain ⟨es, -, rfl⟩ := exceptMap_eq_ok_iff.mp he
    rw [join, List.isEmpty_iff.mp hempty]

/-- What counts as an empty list is written as nothing. So no condition that cannot be written is
left out of a list. -/
theorem sql_of_isEmptyList (d : Dialect) (h : e.isEmptyList) : e.sql d = .ok "" := by
  cases e with
  | junction op items =>
    rw [isEmptyList, List.isEmpty_iff] at h
    rw [h]
    rfl
  | conditions op entries =>
    rw [sql, render_conditions, ofEntries_of_isEmptyList h]
    rfl
  | _ => cases h

theorem keptTexts_eq_mapM (d : Dialect) (xs : List Expr) :
    keptTexts d xs = (dropEmpty xs).mapM (sql d) := by
  induction xs with
  | nil => rfl
  | cons x xs ih =>
    rw [keptTexts, exceptMapM_cons, dropEmpty_cons]
    rw [keptTexts] at ih
    cases hempty : x.isEmptyList with
    | true =>
      rw [sql_of_isEmptyList d hempty, if_pos rfl, ← ih]
      cases xs.mapM (sql d) <;> simp [Except.bind, Except.map, hempty]
    | false =>
      rw [if_neg (by simp), exceptMapM_cons, ← ih]
      cases x.sql d <;> cases xs.mapM (sql d) <;> simp [Except.bind, Except.map, hempty]

/-- Conditions added in several goes are in the list as if they had been added in one. -/
theorem foldl_addConditions (op : Connective) (first : List Expr) (added : List (List Expr)) :
    added.foldl addConditions (join op first) = join op (first ++ added.flatten) := by
  induction added generalizing first with
  | nil => simp
  | cons es added ih =>
    have hadd : (join op first).addConditions es = join op (first ++ es) := by
      rw [join, addConditions, join, dropEmpty_append]
    rw [List.foldl_cons, hadd, ih, List.flatten_cons, List.append_assoc]

theorem sql_join (d : Dialect) (op : Connective) (xs : List Expr) :
    (join op xs).sql d = (keptTexts d xs).map (d.joined op) := by
  rw [join, sql_junction, keptTexts_eq_mapM]

end Expr

namespace Clauses

theorem conditions_foldl_addConditions (c : Clauses) (added : List (List Expr)) :
    (added.foldl Clauses.addConditions c).conditions =
      c.conditions ++ Expr.dropEmpty added.flatten := by
  induction added generalizing c with
  | nil => simp [Expr.dropEmpty]
  | cons es added ih =>
    rw [List.foldl_cons, ih, List.flatten_cons, Expr.dropEmpty_append, ← List.append_assoc]
    rfl

/-- The keyword is written only before a condition that counts. -/
theorem result_filter (d : Dialect) (c : Clauses) {xs : List Expr}
    (h : c.conditions = Expr.dropEmpty xs) :
    Step.result (c.renderFragment d .filter) =
      (Expr.keptTexts d xs).map fun ts =>
        if ts.isEmpty then "" else d.filter ++ d.joined .and ts := by
  have hjunction := Expr.sql_junction d .and c.conditions
  rw [Expr.sql, Expr.render] at hjunction
  rw [Expr.keptTexts_eq_mapM, ← h, renderFragment, renderConditions]
  have hcontextFree := Expr.contextFree_junction d .and c.conditions
  cases hconditions : c.conditions with
  | nil => rfl
  | cons x xs =>
    rw [hconditions] at hjunction hcontextFree
    rw [List.isEmpty_cons, if_neg (by simp), result_seq_cons _ (by simpa using hcontextFree),
      result_seq_singleton, result_write, hjunction]
    simp only [exceptMapM_cons]
    cases x.sql d <;> cases xs.mapM (Expr.sql d) <;> rfl

end Clauses

namespace Expr

/-- A condition that is not an empty list is not written as nothing. -/
def IsWritten (d : Dialect) (e : Expr) : Prop := e.isEmptyList = false → e.sql d ≠ .ok ""

theorem isWritten_compare (d : Dialect) (op : Comparison) (lhs : Expr) (v : Value) :
    (compare op lhs v).IsWritten d := by
  intro _
  rw [sql, render, Step.compare]
  cases d.comparison op with
  | none => simp
  | some text =>
    exact result_seq_writeChar_ne _ (by simp [contextFree_render, Value.contextFree_render])

theorem isWritten_range (d : Dialect) (test : RangeTest) (lhs : Expr) (start stop : Value) :
    (range test lhs start stop).IsWritten d := by
  intro _
  rw [sql, render, Step.range]
  split
  · exact result_seq_writeChar_ne _ (by simp [contextFree_render, Value.contextFree_render])
  · simp

theorem not_mem_keptTexts {ts : List String} (h : ∀ x ∈ xs, x.IsWritten d)
    (hts : keptTexts d xs = .ok ts) : "" ∉ ts := by
  rw [keptTexts_eq_mapM, exceptMapM_eq_ok_iff] at hts
  intro hmem
  obtain ⟨x, hx, hsql⟩ := exists_mem_of_forall₂ hts "" hmem
  obtain ⟨hx, hkept⟩ := List.mem_filter.mp hx
  exact h x hx (by simpa using hkept) hsql

theorem isWritten_join (op : Connective) (h : ∀ e ∈ es, e.IsWritten d) :
    (join op es).IsWritten d := by
  intro hempty
  rw [sql_join]
  cases hts : keptTexts d es with
  | error e => simp [Except.map]
  | ok ts =>
    intro hjoined
    -- Each condition that counts has a text, so without texts the list would be empty.
    have hnil : ts ≠ [] := by
      rintro rfl
      rw [keptTexts_eq_mapM, exceptMapM_eq_ok_iff, List.forall₂_nil_right_iff] at hts
      rw [join, isEmptyList, hts] at hempty
      cases hempty
    exact Dialect.joined_ne_empty hnil (not_mem_keptTexts h hts) (Except.ok.inj hjoined)

theorem isWritten_conditions (d : Dialect) (op : Connective) (entries : List (String × Condition)) :
    (conditions op entries).IsWritten d := by
  intro hempty
  rw [sql, render_conditions]
  cases he : ofEntries op entries with
  | error e => simp
  | ok e =>
    refine Condition.ofEntries_of_forall (Q := IsWritten d) ?_ ?_ he ?_
    · exact fun _ _ _ _ _ => isWritten_compare _ _ _ _
    · exact fun _ _ hes => isWritten_join _ hes
    · rw [isEmptyList_ofEntries he, hempty]

/-- Only empty lists are written as nothing, at any depth. -/
theorem IsPredicate.isWritten (d : Dialect) (h : e.IsPredicate) : e.IsWritten d := by
  induction h with
  | compare => exact isWritten_compare _ _ _ _
  | range => exact isWritten_range _ _ _ _ _
  | join _ ih => exact isWritten_join _ ih
  | conditions => exact isWritten_conditions _ _ _

/-- However conditions are added to a list or to a query, what is written is what those that count
are written as alone, or the first error among all of them. None that cannot be written is left
out, and of lists of comparisons those are left out that are written as nothing. -/
theorem sql_addConditions (d : Dialect) (first : List Expr) (added : List (List Expr)) :
    let xs := first ++ added.flatten
    (∀ op, (added.foldl addConditions (join op first)).sql d =
      (keptTexts d xs).map (d.joined op)) ∧
    (∀ c : Clauses,
      let c' := (first :: added).foldl Clauses.addConditions { c with conditions := [] }
      (junction .and c'.conditions).sql d = (keptTexts d xs).map (d.joined .and) ∧
        Step.result (c'.renderFragment d .filter) =
          (keptTexts d xs).map fun ts =>
            if ts.isEmpty then "" else d.filter ++ d.joined .and ts) ∧
    (∀ x : Expr, x.isEmptyList → x.sql d = .ok "") ∧
    ((∀ x ∈ xs, x.IsPredicate) →
      (∀ x ∈ xs, x.isEmptyList ↔ x.sql d = .ok "") ∧
      ∀ ts, keptTexts d xs = .ok ts → "" ∉ ts ∧ (ts ≠ [] → ∀ op, d.joined op ts ≠ "")) := by
  intro xs
  refine ⟨fun op => ?_, fun c => ?_, fun x hx => sql_of_isEmptyList d hx, fun hxs => ⟨?_, ?_⟩⟩
  · rw [foldl_addConditions, sql_join]
  · intro c'
    have hconditions : c'.conditions = dropEmpty xs := Clauses.conditions_foldl_addConditions _ _
    refine ⟨?_, Clauses.result_filter d c' hconditions⟩
    rw [hconditions, ← sql_join, join]
  · intro x hx
    refine ⟨sql_of_isEmptyList d, fun hsql => ?_⟩
    by_contra hempty
    exact (hxs x hx).isWritten d (Bool.not_eq_true _ ▸ hempty) hsql
  · intro ts hts
    have hkept := not_mem_keptTexts (fun x hx => (hxs x hx).isWritten d) hts
    exact ⟨hkept, fun hne op => Dialect.joined_ne_empty hne hkept⟩

/-- A column of which nothing is asked and a list of an empty list, between two conditions. -/
theorem sql_addConditions_among_empty :
    let d := Dialect.timeSeries
    let first : List Expr := [.equals (.ofName "a") (.uint 1), .conditions .or [("b", .tests [])]]
    let added : List (List Expr) :=
      [[.join .and [.join .or []]], [.range .between (.ofName "c") (.int 2) .null]]
    let xs := first ++ added.flatten
    let ts := ["(a = 1)", "(c >= 2 AND c <= NULL)"]
    (∀ x ∈ xs, x.IsPredicate) ∧ keptTexts d xs = .ok ts ∧
      (added.foldl addConditions (join .or first)).sql d =
        .ok "((a = 1) OR (c >= 2 AND c <= NULL))" ∧
      Step.result (((first :: added).foldl Clauses.addConditions {}).renderFragment d .filter) =
        .ok " WHERE ((a = 1) AND (c >= 2 AND c <= NULL))" ∧
      "" ∉ ts := by
  intro d first added xs ts
  have hxs : ∀ x ∈ xs, x.IsPredicate := by
    have hempty : (join .or []).IsPredicate := .join (List.forall_mem_nil _)
    simp only [xs, first, added, List.flatten_cons, List.flatten_nil, List.forall_mem_append,
      List.forall_mem_cons]
    exact ⟨⟨.compare, .conditions, List.forall_mem_nil _⟩,
      ⟨.join (List.forall_mem_singleton.mpr hempty), List.forall_mem_nil _⟩,
      ⟨.range, List.forall_mem_nil _⟩, List.forall_mem_nil _⟩
  have hts : keptTexts d xs = .ok ts := by decide +kernel
  obtain ⟨hlist, hclauses, -, hpredicates⟩ := sql_addConditions d first added
  refine ⟨hxs, hts, ?_, ?_, ((hpredicates hxs).2 ts hts).1⟩
  · rw [hlist, hts]
    decide +kernel
  · rw [(hclauses {}).2, hts]
    decide +kernel

end Expr

end SeriesQuery
