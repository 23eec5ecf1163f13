import SeriesQuery.Proofs.EditChain
import SeriesQuery.Proofs.Junction

/-! Column lists, however they come about. Their members are the single columns that were given,
from left to right, so that it does not matter how columns are grouped into lists. -/

namespace SeriesQuery

def Expr.isColumnList : Expr → Bool
  | columns _ => true
  | _ => false

/-- The clauses that hold columns. -/
inductive ColumnClause
  | select | distinct | source | order | partitionBy | groupBy
  deriving DecidableEq

/-- The calls that set a clause to columns, or add columns to it. -/
inductive ColumnCall
  | select | distinct | source | partitionBy | groupBy | addGroupBy

namespace ColumnCall

def apply : ColumnCall → Clauses → List Expr → Clauses
  | select => Clauses.setSelect
  | distinct => Clauses.setDistinct
  | source => Clauses.setSource
  | partitionBy => Clauses.setPartitionBy
  | groupBy => Clauses.setGroupBy
  | addGroupBy => Clauses.addGroupBy

def clause : ColumnCall → ColumnClause
  | select => .select
  | distinct => .distinct
  | source => .source
  | partitionBy => .partitionBy
  | groupBy | addGroupBy => .groupBy

/-- The columns of a clause after a call, from those before it and those given. -/
def after (call : ColumnCall) (k : ColumnClause) (before given : List Expr) : List Expr :=
  if call.clause = k then
    match call with
    | addGroupBy => before ++ given
    | _ => given
  else before

end ColumnCall

def Clauses.columnsOf (c : Clauses) : ColumnClause → List Expr
  | .select => c.select
  | .distinct => c.distinct
  | .source => c.source
  | .order => c.order
  | .partitionBy => c.partitionBy
  | .groupBy => c.groupBy

mutual

/-- The ways in which a column list can come about. -/
inductive Listing
  | new (given : List Given)
  | append (l : Listing) (given : List Given)
  | ordered (keys : List (Expr × Direction))
  /-- What a clause holds after some calls. -/
  | held (calls : List ClauseCall) (k : ColumnClause)

/-- What can be given for a column. -/
inductive Given
  | column (e : Expr) (h : e.isColumnList = false)
  | list (l : Listing)

inductive ClauseCall
  | columns (call : ColumnCall) (given : List Given)
  | order (keys : List (Expr × Direction))

end

mutual

def Listing.expr : Listing → Expr
  | .new given => .ofColumns (Given.exprs given)
  | .append l given => l.expr.addColumns (Given.exprs given)
  | .ordered keys => .ofKeys keys
  | .held calls k => .columns ((ClauseCall.run calls {}).columnsOf k)

def Given.expr : Given → Expr
  | .column e _ => e
  | .list l => l.expr

def Given.exprs : List Given → List Expr
  | [] => []
  | g :: gs => g.expr :: Given.exprs gs

def ClauseCall.apply : ClauseCall → Clauses → Clauses
  | .columns call given, c => call.apply c (Given.exprs given)
  | .order keys, c => c.setOrder keys

def ClauseCall.run : List ClauseCall → Clauses → Clauses
  | [], c => c
  | call :: calls, c => ClauseCall.run calls (call.apply c)

end

mutual

/-- The single columns that a column list was given, from left to right. -/
def Listing.leaves : Listing → List Expr
  | .new given => Given.leavesAll given
  | .append l given => l.leaves ++ Given.leavesAll given
  | .ordered keys => keys.map fun (e, dir) => .ordered e dir
  | .held calls k => ClauseCall.leavesAfter k calls (({} : Clauses).columnsOf k)

def Given.leaves : Given → List Expr
  | .column e _ => [e]
  | .list l => l.leaves

def Given.leavesAll : List Given → List Expr
  | [] => []
  | g :: gs => g.leaves ++ Given.leavesAll gs

/-- The columns of a clause after a call, from those before it. -/
def ClauseCall.leaves (k : ColumnClause) : ClauseCall → List Expr → List Expr
  | .columns call given, before => call.after k before (Given.leavesAll given)
  | .order keys, before =>
    if k = .order then keys.map fun (e, dir) => .ordered e dir else before

def ClauseCall.leavesAfter (k : ColumnClause) : List ClauseCall → List Expr → List Expr
  | [], before => before
  | call :: calls, before => ClauseCall.leavesAfter k calls (call.leaves k before)

end

/-- Whether a call is given the same single columns as another, grouped in whatever way. -/
inductive Edit.Regrouped : Edit → Edit → Prop
  | refl (e : Edit) : Regrouped e e
  | source {x y : Given} (h : x.leaves = y.leaves) : Regrouped (.source x.expr) (.source y.expr)
  | select {xs ys : List Given} (h : Given.leavesAll xs = Given.leavesAll ys) :
    Regrouped (.select (Given.exprs xs)) (.select (Given.exprs ys))
  | partitionBy {xs ys : List Given} (h : Given.leavesAll xs = Given.leavesAll ys) :
    Regrouped (.partitionBy (Given.exprs xs)) (.partitionBy (Given.exprs ys))
  | groupBy {xs ys : List Given} (h : Given.leavesAll xs = Given.leavesAll ys) :
    Regrouped (.groupBy (Given.exprs xs)) (.groupBy (Given.exprs ys))
  | addGroupBy {xs ys : List Given} (h : Given.leavesAll xs = Given.leavesAll ys) :
    Regrouped (.addGroupBy (Given.exprs xs)) (.addGroupBy (Given.exprs ys))

variable {b : Builder} {xs ys : List Given}

namespace Expr

theorem flatten_columns (cols : List Expr) (es : List Expr) :
    flatten (.columns cols :: es) = cols ++ flatten es := by
  simp [flatten]

/-- What is no list counts as a single column. -/
theorem flatten_cons {e : Expr} (h : e.isColumnList = false) (es : List Expr) :
    flatten (e :: es) = e :: flatten es := by
  cases e with
  | columns cols => cases h
  | _ => rfl

end Expr

/-- A call changes its own clause only, and sees single columns only. -/
theorem ColumnCall.columnsOf_apply (call : ColumnCall) (c : Clauses) (es : List Expr)
    (k : ColumnClause) :
    (call.apply c es).columnsOf k = call.after k (c.columnsOf k) (Expr.flatten es) := by
  cases call <;> cases k <;> rfl

theorem Clauses.columnsOf_setOrder (c : Clauses) (keys : List (Expr × Direction))
    (k : ColumnClause) :
    (c.setOrder keys).columnsOf k =
      if k = .order then keys.map fun (e, dir) => .ordered e dir else c.columnsOf k := by
  cases k <;> rfl

mutual

/-- A column list holds its leaves. -/
theorem Listing.expr_eq : ∀ l : Listing, l.expr = .columns l.leaves
  | .new given => by
    rw [Listing.expr, Listing.leaves, Expr.ofColumns, Given.flatten_exprs given]
  | .append l given => by
    rw [Listing.expr, Listing.leaves, Listing.expr_eq l, Expr.addColumns, Given.flatten_exprs given]
  | .ordered _ => rfl
  | .held calls k => by
    rw [Listing.expr, Listing.leaves, ClauseCall.columnsOf_run calls]

/-- Lists among the given columns are taken apart, down to the last of them. -/
theorem Given.flatten_exprs : ∀ gs : List Given, Expr.flatten (Given.exprs gs) = Given.leavesAll gs
  | [] => rfl
  | .column e h :: gs => by
    rw [Given.exprs, Given.expr, Expr.flatten_cons h, Given.flatten_exprs gs]
    rfl
  | .list l :: gs => by
    rw [Given.exprs, Given.expr, Listing.expr_eq l, Expr.flatten_columns, Given.flatten_exprs gs]
    rfl

theorem ClauseCall.columnsOf_apply (c : Clauses) (k : ColumnClause) :
    ∀ call : ClauseCall, (call.apply c).columnsOf k = call.leaves k (c.columnsOf k)
  | .columns call given => by
    rw [ClauseCall.apply, ClauseCall.leaves, ColumnCall.columnsOf_apply, Given.flatten_exprs given]
  | .order keys => c.columnsOf_setOrder keys k

/-- What a clause holds after some calls are the leaves of these calls. -/
theorem ClauseCall.columnsOf_run {k : ColumnClause} : ∀ (calls : List ClauseCall) (c : Clauses),
    (ClauseCall.run calls c).columnsOf k = ClauseCall.leavesAfter k calls (c.columnsOf k)
  | [], _ => rfl
  | call :: calls, c => by
    rw [ClauseCall.run, ClauseCall.leavesAfter, ClauseCall.columnsOf_run calls,
      ClauseCall.columnsOf_apply c k call]

end

theorem Expr.not_isColumnList_of_keys (keys : List (Expr × Direction)) :
    ∀ e ∈ keys.map fun (e, dir) => Expr.ordered e dir, e.isColumnList = false :=
  List.forall_mem_map.mpr fun _ _ => rfl

theorem ColumnCall.forall_mem_after {p : Expr → Prop} {before given : List Expr}
    (hbefore : ∀ e ∈ before, p e) (hgiven : ∀ e ∈ given, p e) (call : ColumnCall)
    (k : ColumnClause) : ∀ e ∈ call.after k before given, p e := by
  have hadded : ∀ e ∈ before ++ given, p e := List.forall_mem_append.mpr ⟨hbefore, hgiven⟩
  unfold after
  split
  · cases call <;> assumption
  · exact hbefore

mutual

/-- No column list is left as a member of another. -/
theorem Listing.not_isColumnList : ∀ l : Listing, ∀ e ∈ l.leaves, e.isColumnList = false
  | .new given => Given.not_isColumnList given
  | .append l given =>
    List.forall_mem_append.mpr ⟨Listing.not_isColumnList l, Given.not_isColumnList given⟩
  | .ordered keys => Expr.not_isColumnList_of_keys keys
  | .held calls k => by
    have hdefault : ∀ e ∈ ({} : Clauses).columnsOf k, e.isColumnList = false := by
      cases k <;> decide
    exact ClauseCall.not_isColumnList_leavesAfter calls hdefault

theorem Given.not_isColumnList :
    ∀ gs : List Given, ∀ e ∈ Given.leavesAll gs, e.isColumnList = false
  | [] => List.forall_mem_nil _
  | .column _ h :: gs => List.forall_mem_cons.mpr ⟨h, Given.not_isColumnList gs⟩
  | .list l :: gs =>
    List.forall_mem_append.mpr ⟨Listing.not_isColumnList l, Given.not_isColumnList gs⟩

theorem ClauseCall.not_isColumnList_leaves {before : List Expr} {k : ColumnClause}
    (h : ∀ e ∈ before, e.isColumnList = false) :
    ∀ call : ClauseCall, ∀ e ∈ call.leaves k before, e.isColumnList = false
  | .columns call given => call.forall_mem_after h (Given.not_isColumnList given) k
  | .order keys => by
    by_cases hk : k = .order
    · rw [ClauseCall.leaves, if_pos hk]
      exact Expr.not_isColumnList_of_keys keys
    · rw [ClauseCall.leaves, if_neg hk]
      exact h

theorem ClauseCall.not_isColumnList_leavesAfter {before : List Expr} {k : ColumnClause} :
    ∀ calls : List ClauseCall, (∀ e ∈ before, e.isColumnList = false) →
      ∀ e ∈ ClauseCall.leavesAfter k calls before, e.isColumnList = false
  | [], h => h
  | call :: calls, h =>
    ClauseCall.not_isColumnList_leavesAfter calls (ClauseCall.not_isColumnList_leaves h call)

end

theorem Given.leavesAll_append (xs ys : List Given) :
    Given.leavesAll (xs ++ ys) = Given.leavesAll xs ++ Given.leavesAll ys := by
  induction xs with
  | nil => rfl
  | cons x xs ih => rw [List.cons_append, leavesAll, leavesAll, ih, List.append_assoc]

/-- Columns are written as they are alone, with a comma and a space between two, or the error is
that of the first one that cannot be written. -/
theorem Expr.sql_columns (d : Dialect) (cols : List Expr) :
    (columns cols).sql d =
      (cols.mapM (sql d)).map (String.ofList [d.comma, d.space]).intercalate := by
  have hitems : ∀ step ∈ renderAll d cols, step.ContextFree := by
    rw [renderAll_eq_map]
    exact List.forall_mem_map.mpr fun e _ => e.contextFree_render d
  have hseparator : Step.result (Step.seq [Step.writeChar d.comma, Step.writeChar d.space]) =
      .ok (String.ofList [d.comma, d.space]) := by
    rw [Step.result_seq (by simp)]
    simp only [exceptMapM_cons, Step.result_writeChar, List.mapM_nil]
    simp [Except.bind, Except.map, pure, Except.pure, String.join]
  rw [sql, render, Step.commaSeparated, Step.result_separated _ hseparator hitems,
    mapM_result_renderAll]
  exact Step.contextFree_seq (by simp)

theorem Given.flatten_exprs_congr (h : leavesAll xs = leavesAll ys) :
    Expr.flatten (exprs xs) = Expr.flatten (exprs ys) := by
  rw [flatten_exprs, flatten_exprs, h]

/-- A call cannot tell how the columns that it is given are grouped. -/
theorem ColumnCall.apply_congr (h : Given.leavesAll xs = Given.leavesAll ys) (call : ColumnCall)
    (c : Clauses) : call.apply c (Given.exprs xs) = call.apply c (Given.exprs ys) := by
  have hcols := Given.flatten_exprs_congr h
  cases call with
  | select => rw [apply, Clauses.setSelect, hcols, Clauses.setSelect]
  | distinct => rw [apply, Clauses.setDistinct, hcols, Clauses.setDistinct]
  | source => rw [apply, Clauses.setSource, hcols, Clauses.setSource]
  | partitionBy => rw [apply, Clauses.setPartitionBy, hcols, Clauses.setPartitionBy]
  | groupBy => rw [apply, Clauses.setGroupBy, hcols, Clauses.setGroupBy]
  | addGroupBy => rw [apply, Clauses.addGroupBy, hcols, Clauses.addGroupBy]

namespace Builder

theorem edit_of_regrouped {e e' : Edit} (h : e.Regrouped e') : b.edit e = b.edit e' := by
  have hcall {xs ys : List Given} (h : Given.leavesAll xs = Given.leavesAll ys)
      (call : ColumnCall) :
      ({ b with clauses := call.apply b.clauses (Given.exprs xs) } : Builder) =
        { b with clauses := call.apply b.clauses (Given.exprs ys) } := by
    rw [ColumnCall.apply_congr h]
  cases h with
  | refl => rfl
  | @source x y h =>
    have hleaves : Given.leavesAll [x] = Given.leavesAll [y] := congrArg (· ++ []) h
    exact hcall hleaves .source
  | select h => rw [edit_select, edit_select, Given.flatten_exprs_congr h]
  | partitionBy h => exact hcall h .partitionBy
  | groupBy h => exact hcall h .groupBy
  | addGroupBy h => exact hcall h .addGroupBy

/-- Regrouping the columns of every call leaves the builder as it is. -/
theorem foldl_edit_of_regrouped {edits edits' : List Edit}
    (h : List.Forall₂ Edit.Regrouped edits edits') : edits.foldl edit b = edits'.foldl edit b := by
  induction h generalizing b with
  | nil => rfl
  | cons h _ ih =>
    rw [List.foldl_cons, List.foldl_cons, edit_of_regrouped h]
    exact ih

end Builder

namespace Listing

/-- However a column list comes about, it holds the single columns that were given, from left to
right. It is written as they are, with a comma and a space between two, or fails as the first of
them that cannot be written does. So grouping columns in another way changes no query. -/
theorem expr_by_leaves (d : Dialect) (l : Listing) :
    l.expr = .columns l.leaves ∧
    (∀ e ∈ l.leaves, e.isColumnList = false) ∧
    (∀ xs ys : List Given, (append (append l xs) ys).expr = (append l (xs ++ ys)).expr) ∧
    (∀ t, l.expr.sql d = .ok t ↔ ∃ ts,
      List.Forall₂ (fun e t => e.sql d = .ok t) l.leaves ts ∧
        (String.ofList [d.comma, d.space]).intercalate ts = t) ∧
    (∀ err, l.expr.sql d = .error err ↔ ∃ pre e post, l.leaves = pre ++ e :: post ∧
      (∀ x ∈ pre, ∃ t, x.sql d = .ok t) ∧ e.sql d = .error err) ∧
    (∀ (call : ColumnCall) (c : Clauses) (xs ys : List Given),
      Given.leavesAll xs = Given.leavesAll ys →
        call.apply c (Given.exprs xs) = call.apply c (Given.exprs ys)) ∧
    (∀ (b : Builder) (edits edits' : List Edit), List.Forall₂ Edit.Regrouped edits edits' →
      edits.foldl Builder.edit b = edits'.foldl Builder.edit b ∧
        ∀ zones instant, (edits.foldl Builder.edit b).compile zones instant =
          (edits'.foldl Builder.edit b).compile zones instant) := by
  refine ⟨l.expr_eq, l.not_isColumnList, fun xs ys => ?_, fun t => ?_, fun err => ?_,
    fun call c xs ys h => ColumnCall.apply_congr h call c, fun b edits edits' h => ?_⟩
  · rw [expr_eq, expr_eq, leaves, leaves, leaves, Given.leavesAll_append, List.append_assoc]
  · rw [expr_eq, Expr.sql_columns]
    exact exceptMap_mapM_eq_ok_iff
  · rw [expr_eq, Expr.sql_columns]
    exact exceptMap_mapM_eq_error_iff
  · have hbuilder : edits.foldl Builder.edit b = edits'.foldl Builder.edit b :=
      Builder.foldl_edit_of_regrouped h
    exact ⟨hbuilder, fun zones instant => by rw [hbuilder]⟩

/-- Lists of no columns, a sorted list in a list, and a clause that is added to itself. -/
theorem expr_by_leaves_nested :
    let d := Dialect.timeSeries
    let host := Expr.ofName "host"
    let usage := Expr.ofName "usage"
    let flat : List Given := [.column host rfl, .column (.ordered usage .desc) rfl]
    let nested : List Given :=
      [.list (.new []), .list (.new [.column host rfl, .list (.ordered [(usage, .desc)])])]
    let grouped : Listing :=
      .held [.columns .groupBy nested, .columns .addGroupBy [.list (.new nested)]] .groupBy
    let table : Given := .column (.ofName "cpu") rfl
    let edits : List Edit :=
      [.source table.expr, .select (Given.exprs flat), .select (Given.exprs []),
        .groupBy (Given.exprs flat)]
    let edits' : List Edit :=
      [.source (Given.list (.new [.list (.new []), table])).expr, .select (Given.exprs nested),
        .select (Given.exprs [.list (.new [])]), .groupBy (Given.exprs nested)]
    grouped.leaves = [host, .ordered usage .desc, host, .ordered usage .desc] ∧
      grouped.expr = .columns grouped.leaves ∧
      (append grouped [.column (.ofName "") rfl]).expr.sql d = .error .emptyIdentifier ∧
      List.Forall₂ Edit.Regrouped edits edits' ∧
      ((edits'.foldl Builder.edit {}).compile (fun _ _ => none) 0).result =
        .ok ⟨"SELECT * FROM cpu GROUP BY host, usage DESC", none⟩ := by
  intro d host usage flat nested grouped table edits edits'
  have hregrouped : List.Forall₂ Edit.Regrouped edits edits' :=
    .cons (.source rfl) (.cons (.select rfl) (.cons (.select rfl) (.cons (.groupBy rfl) .nil)))
  obtain ⟨heq, -, -, -, -, -, hbuilder⟩ := expr_by_leaves d grouped
  obtain ⟨-, -, -, -, herror, -, -⟩ :=
    expr_by_leaves d (append grouped [.column (.ofName "") rfl])
  obtain ⟨-, hcompile⟩ := hbuilder {} edits edits' hregrouped
  refine ⟨rfl, heq, ?_, hregrouped, ?_⟩
  · refine (herror _).mpr ⟨grouped.leaves, .ofName "", [], rfl, ?_, by decide +kernel⟩
    have hhost : host.sql d = .ok "host" := by decide +kernel
    have husage : (Expr.ordered usage .desc).sql d = .ok "usage DESC" := by decide +kernel
    have hleaves : grouped.leaves = [host, .ordered usage .desc, host, .ordered usage .desc] := rfl
    simp [hleaves, hhost, husage]
  · rw [← hcompile]
    decide +kernel

end Listing

end SeriesQuery
