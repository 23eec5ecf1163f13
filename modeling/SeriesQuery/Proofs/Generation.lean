import SeriesQuery.Proofs.StatementFault

/-! Every call that adds to a buffer, and what any sequence of such calls leaves there. -/

namespace SeriesQuery

open Step

theorem Expr.contextFree_commaSeparated (d : Dialect) (es : List Expr) :
    (commaSeparated d (Expr.renderAll d es)).ContextFree :=
  (meets_commaSeparated (Expr.meets_renderAll d es)).contextFree

theorem Expr.contextFree_junction (d : Dialect) (op : Connective) (es : List Expr) :
    (Step.junction d op (Expr.renderAll d es)).ContextFree :=
  (meets_junction op (Expr.meets_renderAll d es)).contextFree

/-- A call that adds to a buffer. -/
inductive Generation
  | write (s : String)
  | writeChar (c : Char)
  | fail (e : Error)
  | expr (e : Expr)
  | value (v : Value)
  | columns (cols : List Expr)
  | junction (op : Connective) (items : List Expr)
  | quoted (s : String)
  | select (c : Clauses)

namespace Generation

def step (d : Dialect) : Generation → Step
  | write s => Step.write s
  | writeChar c => Step.writeChar c
  | fail e => Step.fail e
  | expr e => e.render d
  | value v => v.render d
  | columns cols => Step.commaSeparated d (Expr.renderAll d cols)
  | junction op items => Step.junction d op (Expr.renderAll d items)
  | quoted s => Step.quoted d s
  | select c => c.render d

/-- None of the calls looks at what is in the buffer, but for whether it is an error. -/
theorem contextFree_step (d : Dialect) (g : Generation) : (g.step d).ContextFree := by
  cases g with
  | write s => exact contextFree_write s
  | writeChar c => exact contextFree_writeChar c
  | fail e => exact contextFree_fail e
  | expr e => exact e.contextFree_render d
  | value v => exact v.contextFree_render d
  | columns cols => exact Expr.contextFree_commaSeparated d cols
  | junction op items => exact Expr.contextFree_junction d op items
  | quoted s => exact (meets_quoted d s).contextFree
  | select c => exact (c.meets_render d).contextFree

/-- What a call leaves in an empty buffer. -/
def own (g : Dialect × Generation) : Buffer := g.2.step g.1 {}

/-- What calls made one after the other, each in its own dialect, leave in an empty buffer. -/
def run (gs : List (Dialect × Generation)) : Buffer :=
  Step.seq (gs.map fun g => g.2.step g.1) {}

/-- What a call adds does not depend on the calls before it, unless one of them failed. -/
theorem run_eq_concat (gs : List (Dialect × Generation)) : run gs = Buffer.concat (gs.map own) := by
  have h : ∀ step ∈ gs.map fun g => g.2.step g.1, step.ContextFree :=
    List.forall_mem_map.mpr fun g _ => g.2.contextFree_step g.1
  rw [run, seq_empty h, List.map_map]
  rfl

theorem run_of_no_error {gs : List (Dialect × Generation)} (h : ∀ g ∈ gs, (own g).error = none) :
    run gs = ⟨String.join (gs.map fun g => (own g).text), none⟩ := by
  rw [run_eq_concat, Buffer.concat_of_no_error (List.forall_mem_map.mpr h), List.map_map]
  rfl

/-- The calls after the first one that fails leave no trace. -/
theorem run_of_error {pre post : List (Dialect × Generation)} {g : Dialect × Generation} {e : Error}
    (hpre : ∀ p ∈ pre, (own p).error = none) (hg : (own g).error = some e) :
    run (pre ++ g :: post) =
      ⟨String.join (pre.map fun p => (own p).text) ++ (own g).text, some e⟩ := by
  have h := run_of_no_error hpre
  rw [run_eq_concat] at h ⊢
  rw [List.map_append, List.map_cons, Buffer.concat_append, Buffer.concat_cons, h,
    Buffer.append_of_error hg, Buffer.append_of_no_error rfl, hg]

/-- A call changes nothing in a buffer that holds an error, and otherwise appends what it leaves in
an empty one. So a sequence gives the texts of its calls, or the error of the first that fails. -/
theorem generation_contextFree :
    (∀ (d : Dialect) (g : Generation) (b : Buffer),
      g.step d b =
        match b.error with
        | some _ => b
        | none => ⟨b.text ++ (g.step d {}).text, (g.step d {}).error⟩) ∧
    (∀ gs : List (Dialect × Generation), (∀ g ∈ gs, (own g).error = none) →
      (run gs).result = .ok (String.join (gs.map fun g => (own g).text))) ∧
    (∀ (pre post : List (Dialect × Generation)) (g : Dialect × Generation) (e : Error),
      (∀ p ∈ pre, (own p).error = none) → (own g).error = some e →
      (run (pre ++ g :: post)).result = .error e ∧
        (run (pre ++ g :: post)).text =
          String.join (pre.map fun p => (own p).text) ++ (own g).text) := by
  refine ⟨fun d g b => ?_, fun gs h => ?_, fun pre post g e hpre hg => ?_⟩
  · rw [g.contextFree_step d b]
    rfl
  · rw [run_of_no_error h]
    rfl
  · rw [run_of_error hpre hg]
    exact ⟨rfl, rfl⟩

/-- The second of two conditions fails, and what comes after it is not written. -/
theorem generation_contextFree_failing_condition :
    let pre : List (Dialect × Generation) := [(.timeSeries, .write "SELECT ")]
    let g : Dialect × Generation := (.timeSeries, .expr (.join .and
      [.equals (.ofName "a") (.string "x"), .compare .like (.ofName "b") (.string "y")]))
    let post : List (Dialect × Generation) :=
      [(.timeSeries, .writeChar '*'), (.timeSeries, .fail .noData)]
    (∀ p ∈ pre, (own p).error = none) ∧ (own g).error = some (.unsupportedComparison .like) ∧
      (run pre).result = .ok "SELECT " ∧
      (run (pre ++ g :: post)).result = .error (.unsupportedComparison .like) ∧
      (run (pre ++ g :: post)).text = "SELECT ((a = 'x') AND " := by
  intro pre g post
  have hpre : ∀ p ∈ pre, (own p).error = none := List.forall_mem_singleton.mpr rfl
  have hg : (own g).error = some (.unsupportedComparison .like) := by decide +kernel
  have hok := generation_contextFree.2.1 pre hpre
  obtain ⟨hresult, htext⟩ := generation_contextFree.2.2 pre post g _ hpre hg
  refine ⟨hpre, hg, hok, hresult, htext.trans ?_⟩
  simp only [pre, g]
  decide +kernel

end Generation

end SeriesQuery
