import SeriesQuery.Proofs.Equality
import SeriesQuery.Proofs.StatementFault

/-! Equal expressions are compiled alike: to the same text, up to the signs of zeros in it, or with
the same error. -/

namespace SeriesQuery

open Step

/-! ## Faults after a change of numbers -/

section

variable {d : Dialect} {g : Binary64 → Binary64}

/-- The choice between the kinds of equality does not look at numbers. -/
theorem Comparison.equalityWith_mapFloats (v : Value) :
    equalityWith (v.mapFloats g) = equalityWith v := by
  cases v <;> rfl

theorem Comparison.ofTest?_mapFloats (name : String) (v : Value) :
    ofTest? name (v.mapFloats g) = ofTest? name v := by
  rw [ofTest?, ofTest?, equalityWith_mapFloats]

theorem Condition.unknownTests_mapFloats (c : Condition) :
    (c.mapFloats g).unknownTests = c.unknownTests := by
  cases c with
  | equals v => rfl
  | tests comparands =>
    rw [mapFloats_eq_mapValues, mapValues, unknownTests, unknownTests, List.filterMap_map]
    refine List.filterMap_congr fun test _ => ?_
    simp [Comparison.ofTest?_mapFloats]

theorem Condition.faultsTests_mapFloats {column : String} {comparands : List (String × Value)}
    (h : ∀ v ∈ comparands.map Prod.snd, (v.mapFloats g).faults d = v.faults d) :
    faultsTests d column (mapFloatsTests g comparands) = faultsTests d column comparands := by
  induction comparands with
  | nil => rfl
  | cons test rest ih =>
    obtain ⟨name, v⟩ := test
    obtain ⟨hv, hrest⟩ := List.forall_mem_cons.mp h
    rw [mapFloatsTests, faultsTests, faultsTests, Comparison.ofTest?_mapFloats, hv, ih hrest]

theorem Condition.faultsAll_mapFloats {entries : List (String × Condition)}
    (h : ∀ entry ∈ entries, ∀ v ∈ entry.2.values, (v.mapFloats g).faults d = v.faults d) :
    faultsAll d (mapFloatsAll g entries) = faultsAll d entries := by
  induction entries with
  | nil => rfl
  | cons entry rest ih =>
    obtain ⟨column, c⟩ := entry
    obtain ⟨hc, hrest⟩ := List.forall_mem_cons.mp h
    cases c with
    | equals v =>
      have hv := hc v (List.mem_singleton.mpr rfl)
      rw [mapFloatsAll, mapFloats, faultsAll, faultsAll, Comparison.equalityWith_mapFloats, hv,
        ih hrest]
    | tests comparands =>
      rw [mapFloatsAll, mapFloats, faultsAll, faultsAll, faultsTests_mapFloats hc, ih hrest]

theorem Value.faultsEach_mapFloats {vs : List Value}
    (h : ∀ v ∈ vs, (v.mapFloats g).faults d = v.faults d) :
    faultsEach d (mapFloatsAll g vs) = faultsEach d vs := by
  rw [mapFloatsAll_eq_map, faultsEach_eq_map, faultsEach_eq_map, List.map_map]
  exact List.map_congr_left h

theorem Expr.faultsEach_mapFloats {es : List Expr}
    (h : ∀ e ∈ es, (e.mapFloats g).faults d = e.faults d) :
    faultsEach d (mapFloatsAll g es) = faultsEach d es := by
  rw [mapFloatsAll_eq_map, faultsEach_eq_map, faultsEach_eq_map, List.map_map]
  exact List.map_congr_left h

/-- A column is refused by the kind of it, whatever the numbers in it are. -/
theorem Expr.kindName_mapFloats (e : Expr) : (e.mapFloats g).kindName = e.kindName := by
  cases e with
  | conditions op entries => cases op <;> rfl
  | _ => rfl

/-- A literal column keeps its own faults, and any other expression is refused by its kind. -/
theorem Column.faults_mapFloats {column : Column}
    (h : ∀ l, column = .literal l →
      ((Expr.literal l).mapFloats g).faults d = (Expr.literal l).faults d) :
    (column.mapFloats g).faults d = column.faults d := by
  cases column with
  | none => rfl
  | name s => rfl
  | literal l => exact h l rfl
  | other e => rw [Column.mapFloats, Column.faults, Column.faults, e.kindName_mapFloats]

theorem Identifier.emptyFault_mapFloats (i : Identifier) :
    (i.mapFloats g).emptyFault = i.emptyFault := by
  obtain ⟨schema, table, column⟩ := i
  cases column <;> rfl

/-- Faults are kept by a change of the numbers that keeps those of the numbers. -/
theorem compositional_faults_mapFloats
    (hg : ∀ x, (Value.float (g x)).faults d = (Value.float x).faults d) :
    Compositional (fun v => (v.mapFloats g).faults d = v.faults d)
      (fun e => (e.mapFloats g).faults d = e.faults d) where
  null := rfl
  bool _ := rfl
  int _ := rfl
  uint _ := rfl
  float := hg
  string _ := rfl
  bytes _ := rfl
  list vs h := by rw [Value.mapFloats, Value.faults, Value.faults, Value.faultsEach_mapFloats h]
  expr e h := h
  ident i h _ := by
    have hempty := i.emptyFault_mapFloats (g := g)
    obtain ⟨schema, table, column⟩ := i
    rw [Expr.mapFloats, Expr.faults, Expr.faults, Identifier.faults_eq, Identifier.faults_eq,
      hempty]
    exact congrArg _ (Column.faults_mapFloats h)
  literal l h := by
    obtain ⟨sql, args⟩ := l
    rw [Expr.mapFloats, Literal.mapFloats, Expr.faults, Expr.faults, Literal.faults, Literal.faults,
      Value.faultsEach_mapFloats h]
  compare op lhs rhs hl hr := by rw [Expr.mapFloats, Expr.faults, Expr.faults, hl, hr]
  compute op lhs rhs hl hr := by rw [Expr.mapFloats, Expr.faults, Expr.faults, hl, hr]
  range test lhs start stop hl ha hb := by
    rw [Expr.mapFloats, Expr.faults, Expr.faults, hl, ha, hb]
  ordered e dir h := h
  aliased e name h hname := by
    have hname : (name.mapFloats g).faults d = name.faults d := hname
    rw [Expr.mapFloats, Expr.faults, Expr.faults, h, hname]
  call function args h := by
    rw [Expr.mapFloats, Expr.faults, Expr.faults, Value.faultsEach_mapFloats h]
  junction op items h := by
    rw [Expr.mapFloats, Expr.faults, Expr.faults, Expr.faultsEach_mapFloats h]
  columns cols h := by rw [Expr.mapFloats, Expr.faults, Expr.faults, Expr.faultsEach_mapFloats h]
  conditions op entries h := by
    have hunknown : (Condition.mapFloatsAll g entries).flatMap (·.2.unknownTests) =
        entries.flatMap (·.2.unknownTests) := by
      rw [Condition.mapFloatsAll_eq_map, List.flatMap_map]
      exact List.flatMap_congr fun entry _ => entry.2.unknownTests_mapFloats
    rw [Expr.mapFloats, Expr.faults, Expr.faults, hunknown, Condition.faultsAll_mapFloats h]

theorem Fill.faults_mapFloats
    (hg : ∀ x, (Value.float (g x)).faults d = (Value.float x).faults d) (fill : Fill) :
    (fill.mapFloats g).faults d = fill.faults d := by
  cases fill with
  | float x => exact hg x
  | value v => exact (compositional_faults_mapFloats hg).all_values v
  | _ => rfl

/-- Of the numbers in a statement only those matter to its faults that cannot be written. -/
theorem Clauses.faults_mapFloats
    (hg : ∀ x, (Value.float (g x)).faults d = (Value.float x).faults d) (c : Clauses) :
    (c.mapFloats g).faults d = c.faults d := by
  have hcols (es : List Expr) :
      Expr.faultsEach d (Expr.mapFloatsAll g es) = Expr.faultsEach d es :=
    Expr.faultsEach_mapFloats fun e _ => (compositional_faults_mapFloats hg).all_exprs e
  refine congrArg List.flatten (List.map_congr_left fun fragment _ => ?_)
  cases fragment with
  | select | source | filter | partitionBy | groupBy | order => exact congrArg _ (hcols _)
  | fill =>
    rw [fragmentFaults, fragmentFaults, mapFloats]
    cases c.fill with
    | none => rfl
    | some fill => simp [fill.faults_mapFloats hg]
  | _ => rfl

end

/-- The sign of a zero is never what keeps a number from being written. -/
theorem Value.faults_mergeZeros (d : Dialect) (x : Binary64) :
    (float x.mergeZeros).faults d = (float x).faults d := by
  cases hx : x.isZero with
  | false => simp [Binary64.mergeZeros, hx]
  | true =>
    have hfinite : x.isFinite := by
      simp only [Binary64.isZero, Bool.and_eq_true, beq_iff_eq] at hx
      simp [Binary64.isFinite, hx.1]
    rw [Binary64.mergeZeros, if_pos hx, faults, faults, if_pos hfinite]
    rfl

/-! ## The laws of equality -/

/-- A step that meets faults fails exactly with the first of them. -/
theorem Step.Meets.result_eq_error_iff {step : Step} {f : List Error} (h : step.Meets f)
    (err : Error) : step.result = .error err ↔ f.head? = some err := by
  rw [Step.result, Buffer.result_eq_error_iff, h.error_eq]

/-- Equality of what has these numbers in it and is written in this way. It fails to be an
equivalence only for what has a NaN in it. What is equal is written alike if the zeros have the same
signs, and fails alike whatever signs they have. -/
structure IsCongruence {α : Type} [BEq α] (numbers : α → List Binary64)
    (sql : Dialect → α → Except Error String) : Prop where
  symm (a b : α) : a == b → b == a
  trans (a b c : α) : a == b → b == c → a == c
  self_iff (a : α) : a == a ↔ NaNFree (numbers a)
  sql_eq (a b : α) : a == b → ZerosAgree (numbers a) (numbers b) → ∀ d, sql d a = sql d b
  error_iff (a b : α) : a == b → ∀ d err, sql d a = .error err ↔ sql d b = .error err

open Binary64 (mergeZeros)

/-- It is enough that things are equal when they are free of NaNs and agree but for the signs of
zeros, and that these signs do not matter to faults. -/
theorem isCongruence_of_equated {α : Type} [BEq α] {numbers : α → List Binary64} {merge : α → α}
    {faults : Dialect → α → List Error} {sql : Dialect → α → Except Error String}
    (hbeq : ∀ {a b : α}, a == b ↔ Equated (numbers a) (numbers b) (merge a = merge b))
    (hnumbers : ∀ a, numbers (merge a) = (numbers a).map mergeZeros)
    (heq : ∀ {a b : α}, merge a = merge b → numbers a = numbers b → a = b)
    (hfaults : ∀ d a, faults d (merge a) = faults d a)
    (hsql : ∀ d a err, sql d a = .error err ↔ (faults d a).head? = some err) :
    IsCongruence numbers sql where
  symm a b h := by
    obtain ⟨ha, hb, hab⟩ := hbeq.mp h
    exact hbeq.mpr ⟨hb, ha, hab.symm⟩
  trans a b c hab hbc := by
    obtain ⟨ha, -, hab⟩ := hbeq.mp hab
    obtain ⟨-, hc, hbc⟩ := hbeq.mp hbc
    exact hbeq.mpr ⟨ha, hc, hab.trans hbc⟩
  self_iff a := by
    rw [hbeq]
    exact ⟨fun h => h.1, fun h => ⟨h, h, rfl⟩⟩
  sql_eq a b h hzeros d := by
    obtain ⟨-, -, hab⟩ := hbeq.mp h
    have hmerged : (numbers a).map mergeZeros = (numbers b).map mergeZeros := by
      rw [← hnumbers, ← hnumbers, hab]
    rw [heq hab (eq_of_zerosAgree hmerged hzeros)]
  error_iff a b h d err := by
    obtain ⟨-, -, hab⟩ := hbeq.mp h
    rw [hsql, hsql, ← hfaults d a, hab, hfaults]

theorem Value.isCongruence : IsCongruence Value.floats Value.sql := by
  refine isCongruence_of_equated beq_iff (floats_mapFloats _) eq_of_mapFloats_eq
    (fun d v => ?_) fun d v => ((hereditary_meets d).all_values v).result_eq_error_iff
  exact (compositional_faults_mapFloats (faults_mergeZeros d)).all_values v

theorem Expr.isCongruence : IsCongruence Expr.floats Expr.sql := by
  refine isCongruence_of_equated beq_iff (floats_mapFloats _) eq_of_mapFloats_eq
    (fun d e => ?_) fun d e => ((hereditary_meets d).all_exprs e).result_eq_error_iff
  exact (compositional_faults_mapFloats (Value.faults_mergeZeros d)).all_exprs e

theorem Clauses.isCongruence : IsCongruence Clauses.floats Clauses.sql := by
  refine isCongruence_of_equated beq_iff (floats_mapFloats _) eq_of_mapFloats_eq
    (fun d c => ?_) fun d c => (c.meets_render d).result_eq_error_iff
  exact c.faults_mapFloats (Value.faults_mergeZeros d)

/-- Equality is a congruence for compilation, up to the signs of zeros and for what has no NaN in
it. It is finer than to be written alike: no signed number is equal to an unsigned one, and a column
that is not there is not the empty column. -/
theorem sql_respects_equality :
    IsCongruence Value.floats Value.sql ∧
    IsCongruence Expr.floats Expr.sql ∧
    IsCongruence Clauses.floats Clauses.sql ∧
    (∀ (n : Int64) (m : UInt64), (Value.int n == .uint m) = false ∧
      (Value.uint m == .int n) = false ∧
      (n.toInt = m.toNat → ∀ d, Value.sql d (.int n) = Value.sql d (.uint m))) ∧
    ∀ schema table : String,
      (Expr.ident ⟨schema, table, .none⟩ == .ident ⟨schema, table, .name ""⟩) = false ∧
      (Expr.ident ⟨schema, table, .name ""⟩ == .ident ⟨schema, table, .none⟩) = false ∧
      ∀ d, Expr.sql d (.ident ⟨schema, table, .none⟩) =
        Expr.sql d (.ident ⟨schema, table, .name ""⟩) := by
  refine ⟨Value.isCongruence, Expr.isCongruence, Clauses.isCongruence, fun n m => ?_,
    fun schema table => ?_⟩
  · refine ⟨Bool.eq_false_iff.mpr fun h => ?_, Bool.eq_false_iff.mpr fun h => ?_, fun h d => ?_⟩
    · cases (Value.beq_iff.mp h).2.2
    · cases (Value.beq_iff.mp h).2.2
    · rw [Value.sql, Value.sql, Value.render, Value.render, h]
      rfl
  · refine ⟨Bool.eq_false_iff.mpr fun h => ?_, Bool.eq_false_iff.mpr fun h => ?_, fun d => ?_⟩
    · cases (Expr.beq_iff.mp h).2.2
    · cases (Expr.beq_iff.mp h).2.2
    · rfl

/-- Zeros of either sign in a map and in what is filled with are equal, though they are written with
their signs. An operator without a text fails alike beside them, and a NaN makes a statement unequal
to itself. -/
theorem sql_respects_equality_signed_zeros :
    let above (x : Binary64) : Expr := .conditions .and [("load", .tests [("gt", .float x)])]
    let query (others : List Expr) (x : Binary64) : Clauses :=
      { source := [.ofName "cpu"], conditions := above x :: others, fill := some (.float x) }
    let like : Expr := .compare .like (.ofName "host") (.string "a")
    let plus : Binary64 := ⟨0⟩
    let minus : Binary64 := ⟨0x8000000000000000⟩
    let nan : Binary64 := ⟨0x7ff8000000000000⟩
    let d := Dialect.timeSeries
    query [] plus == query [] minus ∧ query [] minus == query [] plus ∧
      (query [] plus).sql d = .ok "SELECT * FROM cpu WHERE (load > 0) FILL(VALUE, 0)" ∧
      (query [] minus).sql d = .ok "SELECT * FROM cpu WHERE (load > -0) FILL(VALUE, -0)" ∧
      (query [like] minus).sql d = .error (.unsupportedComparison .like) ∧
      (query [] nan == query [] nan) = false ∧
      Value.sql d (.int 3) = Value.sql d (.uint 3) := by
  intro above query like plus minus nan d
  obtain ⟨-, -, hclauses, hnumbers, -⟩ := sql_respects_equality
  have hequal (others : List Expr) (hfloats : ∀ x, (query others x).floats = [x, x]) :
      query others plus == query others minus := by
    refine Clauses.beq_iff.mpr ⟨?_, ?_, ?_⟩
    · rw [hfloats]
      unfold NaNFree
      decide
    · rw [hfloats]
      unfold NaNFree
      decide
    · have hmerge : mergeZeros plus = mergeZeros minus := by decide
      simp only [query, above, Clauses.mapFloats, Expr.mapFloatsAll, Expr.mapFloats,
        Condition.mapFloatsAll, Condition.mapFloats, Condition.mapFloatsTests, Value.mapFloats,
        Fill.mapFloats, Option.map_some, hmerge]
  have hlike : (query [like] plus).sql d = .error (.unsupportedComparison .like) := by
    decide +kernel
  have hnone : query [] plus == query [] minus := hequal [] fun _ => rfl
  refine ⟨hnone, hclauses.symm _ _ hnone, ?_, ?_, ?_, ?_, ?_⟩
  · decide +kernel
  · decide +kernel
  · exact (hclauses.error_iff _ _ (hequal [like] fun _ => rfl) d _).mp hlike
  · refine Bool.eq_false_iff.mpr fun h => ?_
    have hfloats : (query [] nan).floats = [nan, nan] := rfl
    have hfree := (hclauses.self_iff _).mp h
    rw [hfloats] at hfree
    exact hfree nan List.mem_cons_self (by decide)
  · exact (hnumbers 3 3).2.2 rfl d

end SeriesQuery
