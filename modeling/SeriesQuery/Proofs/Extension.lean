import SeriesQuery.Proofs.OperatorTable

/-! Statements in dialects with more and with fewer operators. -/

namespace SeriesQuery

open Step

variable {allowed : Error → Prop} {d : Dialect} {comparison : Comparison → Option String}
  {arithmetic : Arithmetic → Option String}

section

variable (hd : d.Keeps allowed comparison arithmetic)
include hd

theorem Expr.follows_renderAll (es : List Expr) :
    List.Forall₂ (Follows allowed) (Expr.renderAll d es)
      (Expr.renderAll (d.withOperators comparison arithmetic) es) := by
  rw [Expr.renderAll_eq_map, Expr.renderAll_eq_map]
  exact forall₂_map_of_forall fun e _ => (hereditary_follows hd).all_exprs e

theorem Expr.follows_commaSeparated (es : List Expr) :
    (commaSeparated d (Expr.renderAll d es)).Follows allowed
      (commaSeparated (d.withOperators comparison arithmetic)
        (Expr.renderAll (d.withOperators comparison arithmetic) es)) :=
  Step.follows_commaSeparated (Expr.follows_renderAll hd es)

/-- A fill has no operators in it. -/
theorem Fill.follows_render (fill : Fill) :
    (fill.render d).Follows allowed (fill.render (d.withOperators comparison arithmetic)) := by
  cases fill with
  | text s => exact follows_write s
  | int n => exact follows_write _
  | float x =>
    have hfloat := (meets_float x).contextFree
    exact follows_seq (.cons (follows_write _) (.cons (follows_self hfloat) .nil))
  | value v => exact (hereditary_follows hd).all_values v

namespace Clauses

omit hd in
theorem follows_renderArgument (keyword : String) {argument argument' : Step}
    (h : argument.Follows allowed argument') :
    (renderArgument d keyword argument).Follows allowed
      (renderArgument (d.withOperators comparison arithmetic) keyword argument') :=
  follows_seq (.cons (follows_write keyword)
    (.cons (follows_writeChar _) (.cons h (.cons (follows_writeChar _) .nil))))

theorem follows_renderColumns {keyword : Step} (hk : keyword.Follows allowed keyword)
    (cols : List Expr) :
    (renderColumns d keyword cols).Follows allowed
      (renderColumns (d.withOperators comparison arithmetic) keyword cols) := by
  have hcols := Expr.follows_commaSeparated hd cols
  exact follows_ite follows_skip (follows_seq (.cons hk (.cons hcols .nil)))

/-- Only the conditions and the columns of a fragment can have operators in them. -/
theorem follows_renderFragment (c : Clauses) (fragment : Fragment) :
    (c.renderFragment d fragment).Follows allowed
      (c.renderFragment (d.withOperators comparison arithmetic) fragment) := by
  have hspace : (writeChar d.space).Follows allowed (writeChar d.space) := follows_writeChar _
  cases fragment with
  | select =>
    have hcols := Expr.follows_commaSeparated hd c.select
    have hall := follows_ite (p := c.selectsAll || c.select.isEmpty)
      (follows_writeChar d.star) hcols
    exact follows_seq (.cons (follows_write _) (.cons hspace (.cons hall .nil)))
  | source =>
    have hkeyword := follows_seq (.cons (follows_write d.source) (.cons hspace .nil))
    exact follows_renderColumns hd hkeyword c.source
  | filter =>
    have hitems := Expr.follows_renderAll hd c.conditions
    exact follows_ite follows_skip
      (follows_seq (.cons (follows_write _) (.cons (follows_junction .and hitems) .nil)))
  | partitionBy => exact follows_renderColumns hd (follows_write _) c.partitionBy
  | groupBy => exact follows_renderColumns hd (follows_write _) c.groupBy
  | order => exact follows_renderColumns hd (follows_write _) c.order
  | interval =>
    exact follows_ite follows_skip (follows_renderArgument _ (follows_write c.interval))
  | fill =>
    rw [renderFragment, renderFragment]
    cases c.fill with
    | none => exact follows_skip
    | some fill => exact follows_renderArgument _ (fill.follows_render hd)
  | limit =>
    rw [renderFragment, renderFragment]
    cases c.limit with
    | none => exact follows_skip
    | some limit => exact follows_seq (.cons (follows_write _) (.cons (follows_write _) .nil))
  | offset =>
    exact follows_ite follows_skip
      (follows_seq (.cons (follows_write _) (.cons (follows_write _) .nil)))
  | timezone => exact follows_self (c.meets_renderFragment d .timezone).contextFree
  | commonTable | join | having | compounds | locking => exact follows_fail_left _

theorem follows_render (c : Clauses) :
    (c.render d).Follows allowed (c.render (d.withOperators comparison arithmetic)) :=
  follows_seq (forall₂_map_of_forall fun fragment _ => c.follows_renderFragment hd fragment)

end Clauses

end

/-- What can be compiled on its own. -/
inductive Query
  | expr (e : Expr)
  | select (c : Clauses)

namespace Query

def sql (d : Dialect) : Query → Except Error String
  | expr e => e.sql d
  | select c => c.sql d

variable {q : Query} {t : String}

/-- A query that compiles comes out the same in a dialect with other operators, or it fails with
an allowed error. -/
theorem sql_withOperators (hd : d.Keeps allowed comparison arithmetic) (h : q.sql d = .ok t) :
    q.sql (d.withOperators comparison arithmetic) = .ok t ∨
      ∃ e, q.sql (d.withOperators comparison arithmetic) = .error e ∧ allowed e := by
  cases q with
  | expr e => exact ((hereditary_follows hd).all_exprs e).result h
  | select c => exact (c.follows_render hd).result h

/-- Where no text of an operator is lost, every query that compiles comes out the same. -/
theorem sql_withOperators_of_extends (h : q.sql d = .ok t)
    (hcomparison : ∀ op text, d.comparison op = some text → comparison op = some text)
    (harithmetic : ∀ op text, d.arithmetic op = some text → arithmetic op = some text) :
    q.sql (d.withOperators comparison arithmetic) = .ok t := by
  have hd : d.Keeps (fun _ => False) comparison arithmetic :=
    ⟨fun htext => .inl (hcomparison _ _ htext), fun htext => .inl (harithmetic _ _ htext)⟩
  rcases sql_withOperators hd h with hok | ⟨e, -, he⟩
  · exact hok
  · exact he.elim

/-- A comparison that is taken away can be missed by itself and by the range tests that need it. -/
theorem keeps_withoutComparison (d : Dialect) (op : Comparison) :
    d.Keeps
      (fun e => e = .unsupportedComparison op ∨ ∃ test : RangeTest,
        (op = test.comparisons.1 ∨ op = test.comparisons.2) ∧ e = .unsupportedRange test)
      (d.withoutComparison op).comparison d.arithmetic where
  comparison {o text} htext := by
    by_cases ho : o = op
    · subst ho
      exact .inr ⟨if_pos rfl, .inl rfl, fun test htest => .inr ⟨test, htest, rfl⟩⟩
    · exact .inl ((if_neg ho).trans htext)
  arithmetic htext := .inl htext

/-- To a query that compiles it makes no difference that an operator without a text gets one. That
a comparison loses its text makes none either, or the query fails for that comparison or for a range
that needs it. -/
theorem sql_of_operator_changed (q : Query) (d : Dialect) (t : String) (h : q.sql d = .ok t) :
    (∀ op text, d.comparison op = none → q.sql (d.withComparison op text) = .ok t) ∧
    (∀ op text, d.arithmetic op = none → q.sql (d.withArithmetic op text) = .ok t) ∧
    ∀ op, q.sql (d.withoutComparison op) = .ok t ∨
      q.sql (d.withoutComparison op) = .error (.unsupportedComparison op) ∨
      ∃ test : RangeTest, (op = test.comparisons.1 ∨ op = test.comparisons.2) ∧
        q.sql (d.withoutComparison op) = .error (.unsupportedRange test) := by
  refine ⟨fun op text hop => ?_, fun op text hop => ?_, fun op => ?_⟩
  · refine sql_withOperators_of_extends h (fun o s hs => ?_) fun _ _ hs => hs
    have ho : o ≠ op := fun ho => by cases (ho ▸ hs).symm.trans hop
    exact (if_neg ho).trans hs
  · refine sql_withOperators_of_extends h (fun _ _ hs => hs) fun o s hs => ?_
    have ho : o ≠ op := fun ho => by cases (ho ▸ hs).symm.trans hop
    exact (if_neg ho).trans hs
  · rcases sql_withOperators (keeps_withoutComparison d op) h with hok | ⟨e, herror, he⟩
    · exact .inl hok
    · rcases he with rfl | ⟨test, htest, rfl⟩
      · exact .inr (.inl herror)
      · exact .inr (.inr ⟨test, htest, herror⟩)

/-- A range and a comparison in the expansion of a map, each beside a sum. -/
theorem sql_of_operator_changed_range :
    let q : Query := .select
      { source := [.ofName "meters"]
        conditions := [.range .between (.ofName "ts") (.int 1) (.int 2),
          .conditions .or [("kwh", .tests [("gt", .int 5)])],
          .compare .eq (.compute .add (.ofName "a") (.uint 1)) (.list [])] }
    let d := Dialect.timeSeries.withoutArithmetic .mul
    let t := "SELECT * FROM meters WHERE ((ts >= 1 AND ts <= 2) AND (kwh > 5) AND (a+1 = ()))"
    q.sql d = .ok t ∧ d.comparison .like = none ∧ d.arithmetic .mul = none ∧
      q.sql (d.withComparison .like "LIKE") = .ok t ∧ q.sql (d.withArithmetic .mul " * ") = .ok t ∧
      q.sql (d.withoutComparison .ne) = .ok t ∧
      q.sql (d.withoutComparison .gt) = .error (.unsupportedComparison .gt) ∧
      q.sql (d.withoutComparison .le) = .error (.unsupportedRange .between) := by
  intro q d t
  have h : q.sql d = .ok t := by decide +kernel
  obtain ⟨hcomparison, harithmetic, -⟩ := sql_of_operator_changed q d t h
  refine ⟨h, rfl, rfl, hcomparison .like _ rfl, harithmetic .mul _ rfl, ?_, ?_, ?_⟩
  · decide +kernel
  · decide +kernel
  · decide +kernel

end Query

end SeriesQuery
