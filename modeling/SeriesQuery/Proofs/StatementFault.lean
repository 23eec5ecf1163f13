import SeriesQuery.Proofs.Fault
import SeriesQuery.Render.Select

/-! What can keep a select statement from being written, fragment by fragment in the order of the
dialect. -/

namespace SeriesQuery

open Step

namespace Fill

/-- The faults of a filling. A number to fill with has those of the value. -/
def faults (d : Dialect) : Fill → List Error
  | .float x => (Value.float x).faults d
  | .value v => v.faults d
  | .text _ | .int _ => []

theorem meets_render (d : Dialect) (fill : Fill) : (fill.render d).Meets (fill.faults d) := by
  cases fill with
  | text s => exact meets_write s
  | int n => exact meets_write _
  | float x =>
    exact meets_seq [[], _] (List.append_nil _) (.cons (meets_write _) (.cons (meets_float x) .nil))
  | value v => exact (hereditary_meets d).all_values v

end Fill

namespace Clauses

/-- The faults of a fragment, in the order in which they are met. Only select statements have
clauses, so that the fragments of other queries are faults. -/
def fragmentFaults (d : Dialect) (c : Clauses) : Fragment → List Error
  | .select => (Expr.faultsEach d c.select).flatten
  | .source => (Expr.faultsEach d c.source).flatten
  | .filter => (Expr.faultsEach d c.conditions).flatten
  | .partitionBy => (Expr.faultsEach d c.partitionBy).flatten
  | .groupBy => (Expr.faultsEach d c.groupBy).flatten
  | .order => (Expr.faultsEach d c.order).flatten
  | .fill => c.fill.toList.flatMap (Fill.faults d)
  | .interval | .limit | .offset | .timezone => []
  | fragment => [.unsupportedFragment fragment]

def faults (d : Dialect) (c : Clauses) : List Error :=
  (d.selectOrder.map (c.fragmentFaults d)).flatten

variable {d : Dialect} {keyword argument : Step} {f : List Error}

theorem meets_renderColumns (h : keyword.Meets []) (cols : List Expr) :
    (renderColumns d keyword cols).Meets (Expr.faultsEach d cols).flatten := by
  unfold renderColumns
  split
  · rename_i hcols
    rw [List.isEmpty_iff.mp hcols]
    exact meets_skip
  · have hcols := meets_commaSeparated (d := d) (Expr.meets_renderAll d cols)
    exact meets_seq [[], _] (by simp) (.cons h (.cons hcols .nil))

theorem select_eq_of_selectsAll {c : Clauses} (h : c.selectsAll) : c.select = [.star] := by
  unfold selectsAll at h
  split at h
  · rename_i l hselect
    obtain ⟨sql, args⟩ := l
    simp only [Literal.isStar, Bool.and_eq_true, beq_iff_eq, List.isEmpty_iff] at h
    obtain ⟨rfl, rfl⟩ := h
    exact hselect
  · cases h

/-- The star that stands for a missing selection has no faults. -/
theorem meets_renderSelect (c : Clauses) :
    (c.renderSelect d).Meets (Expr.faultsEach d c.select).flatten := by
  have hcols : (if c.selectsAll || c.select.isEmpty then writeChar d.star
      else commaSeparated d (Expr.renderAll d c.select)).Meets
        (Expr.faultsEach d c.select).flatten := by
    split
    · rename_i hall
      have hnone : (Expr.faultsEach d c.select).flatten = [] := by
        rcases Bool.or_eq_true_iff.mp hall with hall | hempty
        · rw [select_eq_of_selectsAll hall]
          rfl
        · rw [List.isEmpty_iff.mp hempty]
          rfl
      rw [hnone]
      exact meets_writeChar _
    · exact meets_commaSeparated (Expr.meets_renderAll d c.select)
  exact meets_seq [[], [], _] (by simp)
    (.cons (meets_write _) (.cons (meets_writeChar _) (.cons hcols .nil)))

theorem meets_renderConditions (conditions : List Expr) :
    (renderConditions d conditions).Meets (Expr.faultsEach d conditions).flatten := by
  unfold renderConditions
  split
  · rename_i hconditions
    rw [List.isEmpty_iff.mp hconditions]
    exact meets_skip
  · have hitems := meets_junction (d := d) .and (Expr.meets_renderAll d conditions)
    exact meets_seq [[], _] (by simp) (.cons (meets_write _) (.cons hitems .nil))

theorem meets_renderArgument (s : String) (h : argument.Meets f) :
    (renderArgument d s argument).Meets f :=
  meets_seq [[], [], f, []] (by simp) (by simp [h])

/-- A fragment has the faults of its own clause, and a kind that cannot be written is one by
itself. -/
theorem meets_renderFragment (d : Dialect) (c : Clauses) (fragment : Fragment) :
    (c.renderFragment d fragment).Meets (c.fragmentFaults d fragment) := by
  have hcolumns (s : String) (cols : List Expr) := meets_renderColumns (d := d) (meets_write s) cols
  cases fragment with
  | select => exact c.meets_renderSelect
  | source => exact meets_renderColumns (meets_seq_nil (by simp)) c.source
  | filter => exact meets_renderConditions c.conditions
  | partitionBy => exact hcolumns _ _
  | groupBy => exact hcolumns _ _
  | order => exact hcolumns _ _
  | interval => exact meets_ite meets_skip (meets_renderArgument _ (meets_write _))
  | fill =>
    rw [renderFragment, fragmentFaults]
    cases c.fill with
    | none => exact meets_skip
    | some fill => simpa [renderFill] using meets_renderArgument d.fill (fill.meets_render d)
  | limit =>
    rw [renderFragment]
    cases c.limit with
    | none => exact meets_skip
    | some limit => exact meets_seq_nil (by simp [Value.render])
  | offset => exact meets_ite meets_skip (meets_seq_nil (by simp [Value.render]))
  | timezone =>
    rw [renderFragment, renderTimezone]
    cases d.timezone with
    | none => exact meets_skip
    | some keyword => exact meets_ite meets_skip (meets_renderArgument _ (meets_quoted d _))
  | commonTable | join | having | compounds | locking => exact meets_fail _ []

theorem meets_render (d : Dialect) (c : Clauses) : (c.render d).Meets (c.faults d) :=
  meets_seq _ rfl (forall₂_map_of_forall fun fragment _ => c.meets_renderFragment d fragment)

end Clauses

end SeriesQuery
