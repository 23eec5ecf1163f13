import SeriesQuery.Proofs.FloatLiterals
import SeriesQuery.Proofs.FloatPlaces

/-! Equality of expressions is equality of form once the two zeros are one, for expressions in which
there is no NaN. -/

namespace SeriesQuery

namespace Binary64

variable {x y : Binary64}

/-- The number, with zero for either zero. -/
def mergeZeros (x : Binary64) : Binary64 := if x.isZero then ⟨0⟩ else x

theorem isZero_mergeZeros (x : Binary64) : x.mergeZeros.isZero = x.isZero := by
  unfold mergeZeros
  split
  · rename_i h
    exact h.symm
  · rfl

/-- Equality of numbers is that of their patterns, but a NaN equals nothing and the zeros equal each
other. -/
theorem beq_iff : (x == y) = true ↔ ¬ x.isNaN ∧ ¬ y.isNaN ∧ x.mergeZeros = y.mergeZeros := by
  have hbeq : (x == y) = (!x.isNaN && !y.isNaN && (x.bits == y.bits || x.isZero && y.isZero)) := rfl
  have hzero : x.mergeZeros = y.mergeZeros ↔ x.bits = y.bits ∨ x.isZero ∧ y.isZero := by
    constructor
    · intro h
      have hsame : x.isZero = y.isZero := by rw [← isZero_mergeZeros, h, isZero_mergeZeros]
      unfold mergeZeros at h
      cases hx : x.isZero with
      | true => exact .inr ⟨rfl, hsame.symm.trans hx⟩
      | false =>
        rw [← hsame, hx] at h
        exact .inl (congrArg bits h)
    · rintro (h | ⟨hx, hy⟩)
      · rw [show x = y from congrArg mk h]
      · rw [mergeZeros, mergeZeros, if_pos hx, if_pos hy]
  rw [hbeq, hzero]
  simp [and_assoc]

/-- Only a zero can be another number than the one it is equal to. -/
theorem eq_of_mergeZeros_eq (h : x.mergeZeros = y.mergeZeros)
    (hsign : x.isZero → y.isZero → x.isNegative = y.isNegative) : x = y := by
  have hsame : x.isZero = y.isZero := by rw [← isZero_mergeZeros, h, isZero_mergeZeros]
  cases hx : x.isZero with
  | true =>
    have hy : y.isZero := hsame.symm.trans hx
    exact eq_of_pattern_eq (hsign hx hy)
      ((x.isZero_iff.mp hx).trans (y.isZero_iff.mp hy).symm)
  | false => simpa [mergeZeros, ← hsame, hx] using h

end Binary64

/-- None of the numbers is a NaN. -/
def NaNFree (xs : List Binary64) : Prop := ∀ x ∈ xs, ¬ x.isNaN

@[simp] theorem nanFree_nil : NaNFree [] := List.forall_mem_nil _

/-- Zeros in the same place have the same sign. -/
def ZerosAgree (xs ys : List Binary64) : Prop :=
  ∀ p ∈ xs.zip ys, p.1.isZero → p.2.isZero → p.1.isNegative = p.2.isNegative

/-- Numbers that agree but for their zeros are the same if the zeros have the same signs. -/
theorem eq_of_zerosAgree {xs ys : List Binary64}
    (h : xs.map Binary64.mergeZeros = ys.map Binary64.mergeZeros) (hzeros : ZerosAgree xs ys) :
    xs = ys := by
  induction xs generalizing ys with
  | nil => exact (List.map_eq_nil_iff.mp h.symm).symm
  | cons x xs ih =>
    obtain ⟨y, ys, rfl, hxy, hrest⟩ := List.map_eq_cons_iff.mp h.symm
    rw [ZerosAgree, List.zip_cons_cons, List.forall_mem_cons] at hzeros
    rw [Binary64.eq_of_mergeZeros_eq hxy.symm hzeros.1, ih hrest.symm hzeros.2]

/-- Two things with these numbers in them are the same but for their zeros, and neither has a NaN in
it. -/
def Equated (xs ys : List Binary64) (same : Prop) : Prop := NaNFree xs ∧ NaNFree ys ∧ same

namespace Equated

variable {xs xs' ys ys' : List Binary64} {p q : Prop}

@[simp] theorem nil : Equated [] [] p ↔ p := by simp [Equated, NaNFree]

/-- Two things are equated when their parts are, one by one. -/
theorem append : Equated (xs ++ xs') (ys ++ ys') (p ∧ q) ↔ Equated xs ys p ∧ Equated xs' ys' q := by
  simp only [Equated, NaNFree, List.forall_mem_append]
  tauto

theorem and_left : Equated xs ys (p ∧ q) ↔ p ∧ Equated xs ys q := by
  unfold Equated
  tauto

theorem and_right : Equated xs ys (p ∧ q) ↔ Equated xs ys p ∧ q := by
  unfold Equated
  tauto

section

variable {α : Type} {numbers : α → List Binary64} {merge : α → α} {as bs : List α}

/-- Lists are equal when they are of one length and their elements are equal in their places. -/
theorem isEqv_iff {r : α → α → Bool}
    (h : ∀ a ∈ as, ∀ b, r a b ↔ Equated (numbers a) (numbers b) (merge a = merge b)) :
    as.isEqv bs r ↔
      Equated (as.flatMap numbers) (bs.flatMap numbers) (as.map merge = bs.map merge) := by
  induction as generalizing bs with
  | nil =>
    cases bs with
    | nil => simp [List.isEqv]
    | cons b bs => simp [List.isEqv, Equated]
  | cons a as ih =>
    cases bs with
    | nil => simp [List.isEqv, Equated]
    | cons b bs =>
      obtain ⟨ha, has⟩ := List.forall_mem_cons.mp h
      rw [List.isEqv, Bool.and_eq_true, ha b, ih has, List.map_cons, List.map_cons, List.cons.injEq,
        List.flatMap_cons, List.flatMap_cons, append]

theorem list_beq_iff [BEq α]
    (h : ∀ a b : α, a == b ↔ Equated (numbers a) (numbers b) (merge a = merge b)) :
    as == bs ↔ Equated (as.flatMap numbers) (bs.flatMap numbers) (as.map merge = bs.map merge) := by
  change List.beq as bs ↔ _
  rw [List.beq_eq_isEqv]
  exact isEqv_iff fun a _ => h a

end

end Equated

open Binary64 (mergeZeros)

/-- A value is equal to what is the same but for its zeros, unless there is a NaN in one of them. -/
def Value.BeqIff (v : Value) : Prop :=
  ∀ w, v.beq w ↔ Equated v.floats w.floats (v.mapFloats mergeZeros = w.mapFloats mergeZeros)

def Expr.BeqIff (e : Expr) : Prop :=
  ∀ f, e.beq f ↔ Equated e.floats f.floats (e.mapFloats mergeZeros = f.mapFloats mergeZeros)

theorem Value.beqAll_iff {vs ws : List Value} (h : ∀ v ∈ vs, v.BeqIff) :
    beqAll vs ws ↔ Equated (floatsAll vs) (floatsAll ws)
      (mapFloatsAll mergeZeros vs = mapFloatsAll mergeZeros ws) := by
  have hbeq : beqAll vs ws = vs.isEqv ws beq :=
    eq_isEqv_of_cons (by simp only [beqAll, implies_true, and_self]) vs ws
  rw [hbeq, floatsAll_eq_flatMap, floatsAll_eq_flatMap, mapFloatsAll_eq_map, mapFloatsAll_eq_map]
  exact Equated.isEqv_iff h

/-- Comparing lists of expressions is comparing their numbers, place by place, and what is left
without them. -/
theorem Expr.beqAll_iff {es fs : List Expr} (h : ∀ e ∈ es, e.BeqIff) :
    beqAll es fs ↔ Equated (floatsAll es) (floatsAll fs)
      (mapFloatsAll mergeZeros es = mapFloatsAll mergeZeros fs) := by
  have hbeq : beqAll es fs = es.isEqv fs beq :=
    eq_isEqv_of_cons (by simp only [beqAll, implies_true, and_self]) es fs
  rw [hbeq, floatsAll_eq_flatMap, floatsAll_eq_flatMap, mapFloatsAll_eq_map, mapFloatsAll_eq_map]
  exact Equated.isEqv_iff h

/-- A single value and a list of tests are never equal, even when they expand alike. -/
theorem Condition.beq_iff {c c' : Condition} (h : ∀ v ∈ c.values, v.BeqIff) :
    c.beq c' ↔ Equated c.floats c'.floats (c.mapFloats mergeZeros = c'.mapFloats mergeZeros) := by
  cases c with
  | equals v =>
    cases c' with
    | equals w =>
      have hvalue := h v (List.mem_singleton.mpr rfl) w
      simpa [beq, floats, mapFloats] using hvalue
    | tests => simp [beq, mapFloats, Equated]
  | tests comparands =>
    cases c' with
    | equals => simp [beq, mapFloats, Equated]
    | tests comparands' =>
      have hbeq : beqTests comparands comparands' = comparands.isEqv comparands'
          fun test test' => test.1 == test'.1 && test.2.beq test'.2 :=
        eq_isEqv_of_cons (by simp only [beqTests, Prod.forall, implies_true, and_self]) _ _
      rw [beq, hbeq, mapFloats_eq_mapValues, mapFloats_eq_mapValues, mapValues, mapValues,
        tests.injEq, floats_eq_flatMap, floats_eq_flatMap, values, values, List.flatMap_map,
        List.flatMap_map]
      apply Equated.isEqv_iff
      rintro ⟨name, v⟩ hmem ⟨name', w⟩
      rw [Bool.and_eq_true, beq_iff_eq, h v (List.mem_map_of_mem hmem) w, Prod.mk.injEq,
        Equated.and_left]

/-- Equality goes through all parts of values and expressions, down to the numbers. -/
theorem compositional_beqIff : Compositional Value.BeqIff Expr.BeqIff where
  null w := by
    cases w <;> simp [Value.beq, Value.floats, Value.mapFloats, Equated]
  bool b w := by
    cases w <;> simp [Value.beq, Value.floats, Value.mapFloats, Equated]
  int n w := by
    cases w <;> simp [Value.beq, Value.floats, Value.mapFloats, Equated]
  uint n w := by
    cases w <;> simp [Value.beq, Value.floats, Value.mapFloats, Equated]
  float x w := by
    cases w <;> simp [Value.beq, Value.floats, Value.mapFloats, Equated, NaNFree, Binary64.beq_iff]
  string s w := by
    cases w <;> simp [Value.beq, Value.floats, Value.mapFloats, Equated]
  bytes bs w := by
    cases w <;> simp [Value.beq, Value.floats, Value.mapFloats, Equated]
  list vs h w := by
    cases w with
    | list ws => simpa [Value.beq, Value.floats, Value.mapFloats] using Value.beqAll_iff h
    -- What is of another kind is not equal, and merging zeros does not change the kind.
    | _ => simp [Value.beq, Value.mapFloats, Equated]
  expr e h w := by
    cases w with
    | expr f => simpa [Value.beq, Value.floats, Value.mapFloats] using h f
    | _ => simp [Value.beq, Value.mapFloats, Equated]
  ident i hl he f := by
    cases f with
    | ident j =>
      obtain ⟨schema, table, column⟩ := i
      obtain ⟨schema', table', column'⟩ := j
      have hcolumn : column.beq column' ↔ Equated column.floats column'.floats
          (column.mapFloats mergeZeros = column'.mapFloats mergeZeros) := by
        cases column with
        | none => cases column' <;> simp [Column.beq, Column.floats, Column.mapFloats, Equated]
        | name s => cases column' <;> simp [Column.beq, Column.floats, Column.mapFloats, Equated]
        | literal l =>
          cases column' with
          | literal l' =>
            simpa [Column.beq, Column.floats, Column.mapFloats, Expr.beq, Expr.floats,
              Expr.mapFloats] using hl l rfl (.literal l')
          | _ => simp [Column.beq, Column.mapFloats, Equated]
        | other e =>
          cases column' with
          | other e' => simpa [Column.beq, Column.floats, Column.mapFloats] using he e rfl e'
          | _ => simp [Column.beq, Column.mapFloats, Equated]
      simp only [Expr.beq, Identifier.beq, Bool.and_eq_true, beq_iff_eq, hcolumn, Expr.floats,
        Identifier.floats, Expr.mapFloats, Identifier.mapFloats, Expr.ident.injEq,
        Identifier.mk.injEq, Equated.and_left, and_assoc]
    | _ => simp [Expr.beq, Expr.mapFloats, Equated]
  literal l h f := by
    cases f with
    | literal m =>
      obtain ⟨sql, args⟩ := l
      obtain ⟨sql', args'⟩ := m
      simp only [Expr.beq, Literal.beq, Bool.and_eq_true, beq_iff_eq, Value.beqAll_iff h,
        Expr.floats, Literal.floats, Expr.mapFloats, Literal.mapFloats, Expr.literal.injEq,
        Literal.mk.injEq, Equated.and_left]
    | _ => simp [Expr.beq, Expr.mapFloats, Equated]
  compare op lhs rhs hl hr f := by
    cases f with
    | compare op' lhs' rhs' =>
      rw [Expr.beq, Bool.and_eq_true, Bool.and_eq_true, beq_iff_eq, hl lhs', hr rhs', and_assoc,
        ← Equated.append, ← Equated.and_left, Expr.mapFloats, Expr.mapFloats, Expr.compare.injEq,
        Expr.floats, Expr.floats]
    | _ => simp [Expr.beq, Expr.mapFloats, Equated]
  compute op lhs rhs hl hr f := by
    cases f with
    | compute op' lhs' rhs' =>
      rw [Expr.beq, Bool.and_eq_true, Bool.and_eq_true, beq_iff_eq, hl lhs', hr rhs', and_assoc,
        ← Equated.append, ← Equated.and_left, Expr.mapFloats, Expr.mapFloats, Expr.compute.injEq,
        Expr.floats, Expr.floats]
    | _ => simp [Expr.beq, Expr.mapFloats, Equated]
  range test lhs start stop hl ha hb f := by
    cases f with
    | range test' lhs' start' stop' =>
      rw [Expr.beq, Bool.and_eq_true, Bool.and_eq_true, Bool.and_eq_true, beq_iff_eq, hl lhs',
        ha start', hb stop', and_assoc, and_assoc, ← Equated.append, ← Equated.append,
        ← Equated.and_left, Expr.mapFloats, Expr.mapFloats, Expr.range.injEq, Expr.floats,
        Expr.floats]
    | _ => simp [Expr.beq, Expr.mapFloats, Equated]
  ordered e dir h f := by
    cases f with
    | ordered e' dir' =>
      rw [Expr.beq, Bool.and_eq_true, beq_iff_eq, h e', ← Equated.and_right, Expr.mapFloats,
        Expr.mapFloats, Expr.ordered.injEq, Expr.floats, Expr.floats]
    | _ => simp [Expr.beq, Expr.mapFloats, Equated]
  aliased e name h hname f := by
    cases f with
    | aliased e' name' =>
      have hname : name.beq name' ↔ Equated name.floats name'.floats
          (name.mapFloats mergeZeros = name'.mapFloats mergeZeros) := by
        simpa [Expr.beq, Expr.floats, Expr.mapFloats] using hname (.ident name')
      rw [Expr.beq, Bool.and_eq_true, h e', hname, ← Equated.append, Expr.mapFloats, Expr.mapFloats,
        Expr.aliased.injEq, Expr.floats, Expr.floats]
    | _ => simp [Expr.beq, Expr.mapFloats, Equated]
  call function args h f := by
    cases f with
    | call function' args' =>
      rw [Expr.beq, Bool.and_eq_true, beq_iff_eq, Value.beqAll_iff h, ← Equated.and_left,
        Expr.mapFloats, Expr.mapFloats, Expr.call.injEq, Expr.floats, Expr.floats]
    | _ => simp [Expr.beq, Expr.mapFloats, Equated]
  junction op items h f := by
    cases f with
    | junction op' items' =>
      rw [Expr.beq, Bool.and_eq_true, beq_iff_eq, Expr.beqAll_iff h, ← Equated.and_left,
        Expr.mapFloats, Expr.mapFloats, Expr.junction.injEq, Expr.floats, Expr.floats]
    | _ => simp [Expr.beq, Expr.mapFloats, Equated]
  columns cols h f := by
    cases f with
    | columns cols' => simpa [Expr.beq, Expr.floats, Expr.mapFloats] using Expr.beqAll_iff h
    | _ => simp [Expr.beq, Expr.mapFloats, Equated]
  conditions op entries h f := by
    cases f with
    | conditions op' entries' =>
      have hbeq : Condition.beqAll entries entries' = entries.isEqv entries'
          fun entry entry' => entry.1 == entry'.1 && entry.2.beq entry'.2 :=
        eq_isEqv_of_cons (by simp only [Condition.beqAll, Prod.forall, implies_true, and_self]) _ _
      have hentries : Condition.beqAll entries entries' ↔
          Equated (Condition.floatsAll entries) (Condition.floatsAll entries')
            (Condition.mapFloatsAll mergeZeros entries =
              Condition.mapFloatsAll mergeZeros entries') := by
        rw [hbeq, Condition.floatsAll_eq_flatMap, Condition.floatsAll_eq_flatMap,
          Condition.mapFloatsAll_eq_map, Condition.mapFloatsAll_eq_map]
        apply Equated.isEqv_iff
        rintro ⟨column, c⟩ hmem ⟨column', c'⟩
        rw [Bool.and_eq_true, beq_iff_eq, Condition.beq_iff (h _ hmem), Prod.mk.injEq,
          Equated.and_left]
      rw [Expr.beq, Bool.and_eq_true, beq_iff_eq, hentries, ← Equated.and_left, Expr.mapFloats,
        Expr.mapFloats, Expr.conditions.injEq, Expr.floats, Expr.floats]
    | _ => simp [Expr.beq, Expr.mapFloats, Equated]

theorem Value.beq_iff {v w : Value} :
    v == w ↔ Equated v.floats w.floats (v.mapFloats mergeZeros = w.mapFloats mergeZeros) :=
  compositional_beqIff.all_values v w

theorem Expr.beq_iff {e f : Expr} :
    e == f ↔ Equated e.floats f.floats (e.mapFloats mergeZeros = f.mapFloats mergeZeros) :=
  compositional_beqIff.all_exprs e f

theorem Expr.list_beq_iff (es fs : List Expr) :
    es == fs ↔ Equated (floatsAll es) (floatsAll fs)
      (mapFloatsAll mergeZeros es = mapFloatsAll mergeZeros fs) := by
  rw [floatsAll_eq_flatMap, floatsAll_eq_flatMap, mapFloatsAll_eq_map, mapFloatsAll_eq_map]
  exact Equated.list_beq_iff fun e f => beq_iff

theorem Fill.beq_iff {fill fill' : Fill} :
    fill == fill' ↔ Equated fill.floats fill'.floats
      (fill.mapFloats mergeZeros = fill'.mapFloats mergeZeros) := by
  cases fill with
  | text s => cases fill' <;> simp [BEq.beq, floats, mapFloats, Equated]
  | int n => cases fill' <;> simp [BEq.beq, floats, mapFloats, Equated]
  | float x =>
    cases fill' with
    | float y =>
      change x == y ↔ _
      rw [Binary64.beq_iff]
      simp [floats, mapFloats, Equated, NaNFree]
    | _ => simp [BEq.beq, mapFloats, Equated]
  | value v =>
    cases fill' with
    | value w =>
      change v == w ↔ _
      rw [Value.beq_iff]
      simp [floats, mapFloats]
    | _ => simp [BEq.beq, mapFloats, Equated]

theorem Fill.option_beq_iff {fill fill' : Option Fill} :
    fill == fill' ↔ Equated (fill.toList.flatMap floats) (fill'.toList.flatMap floats)
      (fill.map (mapFloats mergeZeros) = fill'.map (mapFloats mergeZeros)) := by
  cases fill with
  | none => cases fill' <;> simp [Equated]
  | some f =>
    cases fill' with
    | none => simp [Equated]
    | some f' => simp [beq_iff]

/-- Statements are equal clause by clause. -/
theorem Clauses.beq_iff {c c' : Clauses} :
    c == c' ↔ Equated c.floats c'.floats (c.mapFloats mergeZeros = c'.mapFloats mergeZeros) := by
  have hlists : c.lists == c'.lists ↔
      Equated (c.lists.flatMap Expr.floatsAll) (c'.lists.flatMap Expr.floatsAll)
        (c.lists.map (Expr.mapFloatsAll mergeZeros) =
          c'.lists.map (Expr.mapFloatsAll mergeZeros)) :=
    Equated.list_beq_iff Expr.list_beq_iff
  have hbeq : c == c' ↔ (c.lists == c'.lists ∧ c.fill == c'.fill) ∧ c.limit = c'.limit ∧
      c.interval = c'.interval ∧ c.timezone = c'.timezone ∧ c.offset = c'.offset := by
    rw [BEq.beq, instBEq]
    simp [lists, and_assoc]
  have hmerge : c.mapFloats mergeZeros = c'.mapFloats mergeZeros ↔
      (c.lists.map (Expr.mapFloatsAll mergeZeros) =
          c'.lists.map (Expr.mapFloatsAll mergeZeros) ∧
        c.fill.map (Fill.mapFloats mergeZeros) = c'.fill.map (Fill.mapFloats mergeZeros)) ∧
      c.limit = c'.limit ∧ c.interval = c'.interval ∧ c.timezone = c'.timezone ∧
      c.offset = c'.offset := by
    simp [mapFloats, lists, and_assoc]
  rw [hbeq, hlists, Fill.option_beq_iff, hmerge, Equated.and_right, floats, floats, Equated.append]

end SeriesQuery
