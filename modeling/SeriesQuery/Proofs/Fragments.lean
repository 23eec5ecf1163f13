import SeriesQuery.Proofs.Generation
import SeriesQuery.Proofs.Result

/-! A select statement is written fragment by fragment, each one as it is written alone and from
the one clause that it reads. -/

namespace SeriesQuery

open Step

variable {d : Dialect} {c c' : Clauses} {f : Fragment}

/-- What is written for a fragment whose clause is not set. -/
def Fragment.unsetText (d : Dialect) : Fragment → String
  | select => d.select ++ String.singleton d.space ++ String.singleton d.star
  | _ => ""

namespace Clauses

/-- The text of a fragment alone. -/
def fragmentSql (d : Dialect) (c : Clauses) (f : Fragment) : Except Error String :=
  Step.result (c.renderFragment d f)

/-- Whether the clause of a fragment is not set. A time zone needs a keyword to count. -/
def IsUnset (d : Dialect) (c : Clauses) : Fragment → Prop
  | .select => c.select = [] ∨ c.select = [.star]
  | .source => c.source = []
  | .filter => c.conditions = []
  | .partitionBy => c.partitionBy = []
  | .groupBy => c.groupBy = []
  | .interval => c.interval = ""
  | .fill => c.fill = none
  | .order => c.order = []
  | .limit => c.limit = none
  | .offset => c.offset = 0
  | .timezone => c.timezone = "" ∨ d.timezone = none
  | .commonTable | .join | .having | .compounds | .locking => False

/-- Whether what a fragment reads is the same in both. -/
def SameFor (d : Dialect) (c c' : Clauses) : Fragment → Prop
  | .select => c.select = c'.select
  | .source => c.source = c'.source
  | .filter => c.conditions = c'.conditions
  | .partitionBy => c.partitionBy = c'.partitionBy
  | .groupBy => c.groupBy = c'.groupBy
  | .interval => c.interval = c'.interval
  | .fill => c.fill = c'.fill
  | .order => c.order = c'.order
  | .limit => c.limit = c'.limit
  | .offset => c.offset = c'.offset
  | .timezone => c.timezone = c'.timezone ∨ d.timezone = none
  | .commonTable | .join | .having | .compounds | .locking => True

/-- No fragment can tell where in the statement it stands. -/
theorem sql_eq_mapM (d : Dialect) (c : Clauses) :
    c.sql d = (d.selectOrder.mapM (c.fragmentSql d)).map String.join := by
  have hfragments : ∀ step ∈ d.selectOrder.map (c.renderFragment d), step.ContextFree :=
    List.forall_mem_map.mpr fun f _ => (c.meets_renderFragment d f).contextFree
  rw [sql, render, result_seq hfragments, List.mapM_map]
  rfl

/-- A clause that is not set leaves no trace, but for the star of a selection. -/
theorem fragmentSql_of_isUnset (h : c.IsUnset d f) : c.fragmentSql d f = .ok (f.unsetText d) := by
  cases f with
  | select =>
    have hall : (c.selectsAll || c.select.isEmpty) = true := by
      rcases h with h | h <;> rw [selectsAll, h] <;> rfl
    rw [fragmentSql, renderFragment, renderSelect, hall, if_pos rfl]
    simp [Step.result, Buffer.result, write, writeChar, Fragment.unsetText]
  | source | partitionBy | groupBy | order =>
    rw [fragmentSql, renderFragment, renderColumns, h]
    rfl
  | filter | interval | fill | limit | offset =>
    rw [fragmentSql, renderFragment, h]
    rfl
  | timezone =>
    rw [fragmentSql, renderFragment, renderTimezone]
    rcases h with h | h
    · rw [h]
      cases d.timezone <;> rfl
    · rw [h]
      rfl
  | commonTable | join | having | compounds | locking => exact h.elim

theorem renderFragment_congr (h : SameFor d c c' f) :
    c.renderFragment d f = c'.renderFragment d f := by
  cases f with
  | select =>
    rw [renderFragment, renderFragment, renderSelect, renderSelect, selectsAll, selectsAll, h]
  | timezone =>
    rw [renderFragment, renderFragment, renderTimezone, renderTimezone]
    rcases h with h | h <;> rw [h]
  | commonTable | join | having | compounds | locking => rfl
  | _ => rw [renderFragment, renderFragment, h]

/-- Only what the fragments of the dialect read plays a part. -/
theorem sql_congr (h : ∀ f ∈ d.selectOrder, SameFor d c c' f) : c.sql d = c'.sql d := by
  have hfragments : d.selectOrder.map (c.renderFragment d) =
      d.selectOrder.map (c'.renderFragment d) :=
    List.map_congr_left fun f hf => renderFragment_congr (h f hf)
  rw [sql, sql, render, render, hfragments]

theorem sql_eq_ok_iff {t : String} :
    c.sql d = .ok t ↔ ∃ ts,
      List.Forall₂ (fun f t => c.fragmentSql d f = .ok t) d.selectOrder ts ∧
        String.join ts = t := by
  rw [sql_eq_mapM]
  exact exceptMap_mapM_eq_ok_iff

/-- The error of a statement is that of the first fragment, in the order of the dialect, that
fails. -/
theorem sql_eq_error_iff_fragment {e : Error} :
    c.sql d = .error e ↔ ∃ pre f post, d.selectOrder = pre ++ f :: post ∧
      (∀ g ∈ pre, ∃ t, c.fragmentSql d g = .ok t) ∧ c.fragmentSql d f = .error e := by
  rw [sql_eq_mapM]
  exact exceptMap_mapM_eq_error_iff

/-- No fragment reads the distinct columns. -/
theorem sameFor_setDistinct (d : Dialect) (c : Clauses) (cols : List Expr) (f : Fragment) :
    SameFor d { c with distinct := cols } c f := by
  cases f with
  | timezone => exact .inl rfl
  | commonTable | join | having | compounds | locking => exact trivial
  | _ => rfl

/-- A statement is the texts of its fragments one after the other, or the error of the first of
them that cannot be written. What is not set is written as nothing, but for the star of the
selection, and what no fragment reads plays no part. -/
theorem sql_by_fragments (d : Dialect) (c : Clauses) :
    (∀ t, c.sql d = .ok t ↔ ∃ ts,
      List.Forall₂ (fun f t => c.fragmentSql d f = .ok t) d.selectOrder ts ∧
        String.join ts = t) ∧
    (∀ e, c.sql d = .error e ↔ ∃ pre f post, d.selectOrder = pre ++ f :: post ∧
      (∀ g ∈ pre, ∃ t, c.fragmentSql d g = .ok t) ∧ c.fragmentSql d f = .error e) ∧
    (∀ f ∈ [.commonTable, .join, .having, .compounds, .locking],
      c.fragmentSql d f = .error (.unsupportedFragment f)) ∧
    (∀ f, c.IsUnset d f → c.fragmentSql d f = .ok (f.unsetText d)) ∧
    (∀ c', (∀ f ∈ d.selectOrder, SameFor d c c' f) → c.sql d = c'.sql d) ∧
    (∀ cols, ({ c with distinct := cols } : Clauses).sql d = c.sql d) := by
  refine ⟨fun t => sql_eq_ok_iff, fun e => sql_eq_error_iff_fragment, fun f hf => ?_,
    fun f => fragmentSql_of_isUnset, fun c' => sql_congr, fun cols => ?_⟩
  · simp only [List.mem_cons, List.not_mem_nil, or_false] at hf
    rcases hf with rfl | rfl | rfl | rfl | rfl <;> exact result_fail _
  · exact sql_congr fun f _ => sameFor_setDistinct d c cols f

/-- Fragments twice and in another order, one of them with no clause; and two that fail. -/
theorem sql_by_fragments_reordered :
    let c : Clauses :=
      { source := [.ofName "cpu"], groupBy := [.ofName "host"], limit := some 3, offset := 9
        order := [.ofName "time"] }
    let c' : Clauses := { c with interval := "1d", fill := some (.text "PREV"), order := [] }
    let d := Dialect.timeSeries.withSelectOrder [.limit, .select, .source, .partitionBy, .limit]
    let failing := d.withSelectOrder [.select, .having, .join]
    (∀ f ∈ d.selectOrder, SameFor d c c' f) ∧ c.IsUnset d .partitionBy ∧
      c'.sql d = .ok " LIMIT 3SELECT * FROM cpu LIMIT 3" ∧
      c.sql failing = .error (.unsupportedFragment .having) ∧
      ({ c with distinct := [.ofName "host"] } : Clauses).sql d = c.sql d := by
  intro c c' d failing
  have hsame : ∀ f ∈ d.selectOrder, SameFor d c c' f := by
    simp [d, Dialect.withSelectOrder, SameFor, c, c']
  obtain ⟨-, -, -, -, hcongr, hdistinct⟩ := sql_by_fragments d c
  obtain ⟨-, herror, hunsupported, hunset, -, -⟩ := sql_by_fragments failing c
  have hsql : c.sql d = .ok " LIMIT 3SELECT * FROM cpu LIMIT 3" := by decide +kernel
  refine ⟨hsame, rfl, (hcongr c' hsame).symm.trans hsql, ?_, hdistinct _⟩
  refine (herror _).mpr ⟨[.select], .having, [.join], rfl, ?_, hunsupported .having (by simp)⟩
  exact List.forall_mem_singleton.mpr ⟨_, hunset .select (.inr rfl)⟩

end Clauses

end SeriesQuery
