import SeriesQuery.Proofs.Generation

/-! Dialects with other texts for operators. What is written in a dialect is written in the same
way with more operators, and with fewer operators unless one of those left out is needed. -/

namespace SeriesQuery

namespace Buffer

/-- Unless there is an error in the first buffer, the second is the same or has an allowed one. -/
def Follows (allowed : Error → Prop) (b b' : Buffer) : Prop :=
  b.error = none → b' = b ∨ ∃ e, b'.error = some e ∧ allowed e

end Buffer

namespace Step

/-- What the first step writes the second one writes as well, or it fails with an allowed error. -/
def Follows (allowed : Error → Prop) (step step' : Step) : Prop :=
  ∀ b b' : Buffer, b.Follows allowed b' → (step b).Follows allowed (step' b')

variable {allowed : Error → Prop} {step step' other other' : Step}
  {steps steps' items items' args args' : List Step} {e : Error}

/-- A step does nothing after an error. -/
theorem ContextFree.apply_of_error {b : Buffer} (h : step.ContextFree) (hb : b.error = some e) :
    step b = b := (h b).trans (Buffer.append_of_error hb)

/-- Where a step leaves no error, there was none before. -/
theorem ContextFree.error_eq_none {b : Buffer} (h : step.ContextFree)
    (hb : (step b).error = none) : b.error = none := by
  cases herror : b.error with
  | none => rfl
  | some e =>
    rw [h.apply_of_error herror, herror] at hb
    exact hb

/-- What depends on no operator is written alike in the two dialects. -/
theorem follows_self (h : step.ContextFree) : step.Follows allowed step := by
  intro b b' hb hnone
  rcases hb (h.error_eq_none hnone) with rfl | ⟨e, herror, he⟩
  · exact .inl rfl
  · rw [h.apply_of_error herror]
    exact .inr ⟨e, herror, he⟩

/-- Nothing is asked where the first step fails. -/
theorem follows_fail_left (e : Error) : (fail e).Follows allowed step := by
  intro b b' _ hnone
  cases herror : b.error <;> simp [fail, herror] at hnone

/-- A step may fail for another one if the error is allowed. -/
theorem follows_fail_right (h : step.ContextFree) (he : allowed e) :
    step.Follows allowed (fail e) := by
  intro b b' hb hnone
  have hb' := hb (h.error_eq_none hnone)
  right
  cases herror : b'.error with
  | none => exact ⟨e, by simp [fail, herror], he⟩
  | some e' =>
    have hkept : fail e b' = b' := (contextFree_fail e).apply_of_error herror
    rcases hb' with rfl | ⟨e'', herror', he'⟩
    · cases herror.symm.trans (h.error_eq_none hnone)
    · rw [hkept]
      exact ⟨e'', herror', he'⟩

/-- An error that is allowed stays in the second run, whatever the later steps do. -/
theorem follows_seq (h : List.Forall₂ (Follows allowed) steps steps') :
    (seq steps).Follows allowed (seq steps') := by
  induction h with
  | nil => exact fun _ _ hb => hb
  | cons h _ ih => exact fun b b' hb => ih _ _ (h b b' hb)

theorem follows_ite {p : Prop} [Decidable p] (h : step.Follows allowed step')
    (h' : other.Follows allowed other') :
    (if p then step else other).Follows allowed (if p then step' else other') := by
  split <;> assumption

theorem follows_skip : skip.Follows allowed skip := follows_self contextFree_skip

theorem follows_write (s : String) : (write s).Follows allowed (write s) :=
  follows_self (contextFree_write s)

theorem follows_writeChar (c : Char) : (writeChar c).Follows allowed (writeChar c) :=
  follows_self (contextFree_writeChar c)

theorem follows_separated (hs : step.Follows allowed step')
    (h : List.Forall₂ (Follows allowed) items items') :
    (separated step items).Follows allowed (separated step' items') :=
  follows_seq (forall₂_intersperse hs h)

theorem follows_substitute (cs : List Char) (h : List.Forall₂ (Follows allowed) args args') :
    (substitute cs args).Follows allowed (substitute cs args') := by
  induction cs generalizing args args' with
  | nil => simpa [substitute] using follows_skip
  | cons c cs ih =>
    have hc : (writeChar c).Follows allowed (writeChar c) := follows_writeChar c
    cases h with
    | nil => exact follows_seq (.cons hc (.cons (ih .nil) .nil))
    | cons harg hargs =>
      have hmark := follows_seq (.cons harg (.cons (ih hargs) .nil))
      have hplain := follows_seq (.cons hc (.cons (ih (.cons harg hargs)) .nil))
      exact follows_ite hmark hplain

/-- A finished text comes out again, or an allowed error. -/
theorem Follows.result (h : step.Follows allowed step') {t : String} (ht : step.result = .ok t) :
    step'.result = .ok t ∨ ∃ e, step'.result = .error e ∧ allowed e := by
  have hbuffer := Buffer.result_eq_ok_iff.mp ht
  have hempty : ({} : Buffer).Follows allowed {} := fun _ => .inl rfl
  rcases h {} {} hempty (by rw [hbuffer]) with heq | ⟨e, herror, he⟩
  · left
    rw [Step.result, heq]
    exact ht
  · exact .inr ⟨e, Buffer.result_eq_error_iff.mpr herror, he⟩

end Step

namespace Dialect

/-- The dialect with other texts for operators. -/
def withOperators (d : Dialect) (comparison : Comparison → Option String)
    (arithmetic : Arithmetic → Option String) : Dialect :=
  { d with comparison, arithmetic }

/-- The operators of the dialect keep their texts, except those whose lack is an allowed error. -/
structure Keeps (allowed : Error → Prop) (d : Dialect) (comparison : Comparison → Option String)
    (arithmetic : Arithmetic → Option String) : Prop where
  comparison {op text} : d.comparison op = some text → comparison op = some text ∨
    comparison op = none ∧ allowed (.unsupportedComparison op) ∧
      ∀ test : RangeTest, op = test.comparisons.1 ∨ op = test.comparisons.2 →
        allowed (.unsupportedRange test)
  arithmetic {op text} : d.arithmetic op = some text → arithmetic op = some text ∨
    arithmetic op = none ∧ allowed (.unsupportedArithmetic op)

end Dialect

variable {allowed : Error → Prop} {d : Dialect} {comparison : Comparison → Option String}
  {arithmetic : Arithmetic → Option String}

namespace Step

variable {lhs lhs' rhs rhs' start start' stop stop' : Step} {items items' args args' : List Step}

theorem follows_commaSeparated (h : List.Forall₂ (Follows allowed) items items') :
    (commaSeparated d items).Follows allowed
      (commaSeparated (d.withOperators comparison arithmetic) items') := by
  have hcomma : (writeChar d.comma).Follows allowed (writeChar d.comma) := follows_writeChar _
  have hspace : (writeChar d.space).Follows allowed (writeChar d.space) := follows_writeChar _
  exact follows_separated (follows_seq (.cons hcomma (.cons hspace .nil))) h

theorem follows_parenthesized (h : List.Forall₂ (Follows allowed) items items') :
    (seq (writeChar d.leftParen :: items ++ [writeChar d.rightParen])).Follows allowed
      (seq (writeChar d.leftParen :: items' ++ [writeChar d.rightParen])) :=
  follows_seq (.cons (follows_writeChar _) (List.rel_append h (.cons (follows_writeChar _) .nil)))

theorem follows_tuple (h : List.Forall₂ (Follows allowed) items items') :
    (tuple d items).Follows allowed (tuple (d.withOperators comparison arithmetic) items') :=
  follows_parenthesized (.cons (follows_commaSeparated h) .nil)

theorem follows_junction (op : Connective) (h : List.Forall₂ (Follows allowed) items items') :
    (junction d op items).Follows allowed
      (junction (d.withOperators comparison arithmetic) op items') := by
  have hconnective : (write (d.connective op)).Follows allowed (write (d.connective op)) :=
    follows_write _
  cases h with
  | nil => exact follows_skip
  | cons h hs =>
    cases hs with
    | nil => exact h
    | cons h' hs =>
      have hitems := follows_separated hconnective (.cons h (.cons h' hs))
      exact follows_parenthesized (.cons hitems .nil)

/-- The operators of a literal in the place of the column are the only ones in an identifier. -/
theorem follows_identifier {i : Identifier}
    (h : ∀ l, i.column = .literal l →
      (substitute l.sql.toList args).Follows allowed (substitute l.sql.toList args')) :
    (identifier d i args).Follows allowed
      (identifier (d.withOperators comparison arithmetic) i args') := by
  obtain ⟨schema, table, column⟩ := i
  have hperiod : (writeChar d.period).Follows allowed (writeChar d.period) := follows_writeChar _
  unfold identifier
  refine follows_ite (follows_self (contextFree_fail _)) (follows_seq (.cons (follows_write _)
    (.cons (follows_ite follows_skip hperiod) (.cons (follows_write _) (.cons ?_ .nil)))))
  cases column with
  | none => exact follows_skip
  | name s =>
    exact follows_ite follows_skip
      (follows_seq (.cons (follows_ite hperiod follows_skip) (.cons (follows_write s) .nil)))
  | literal l =>
    exact follows_seq (.cons (follows_ite hperiod follows_skip) (.cons (h l rfl) .nil))
  | other e => exact follows_fail_left _

variable (hd : d.Keeps allowed comparison arithmetic)
include hd

/-- An operator that has no text in the first dialect asks nothing of the second. One that has a
text has the same in the second, or fails there as it may. -/
theorem follows_compare (op : Comparison) (hfree : (compare d op lhs rhs).ContextFree)
    (hl : lhs.Follows allowed lhs') (hr : rhs.Follows allowed rhs') :
    (compare d op lhs rhs).Follows allowed
      (compare (d.withOperators comparison arithmetic) op lhs' rhs') := by
  have hspace : (writeChar d.space).Follows allowed (writeChar d.space) := follows_writeChar _
  unfold compare at hfree ⊢
  cases htext : d.comparison op with
  | none => exact follows_fail_left _
  | some text =>
    rw [htext] at hfree
    rcases hd.comparison htext with hkept | ⟨hlost, he, -⟩
    · simp only [Dialect.withOperators, hkept]
      exact follows_parenthesized
        (.cons hl (.cons hspace (.cons (follows_write text) (.cons hspace (.cons hr .nil)))))
    · simp only [Dialect.withOperators, hlost]
      exact follows_fail_right hfree he

theorem follows_compute (op : Arithmetic) (hfree : (compute d op lhs rhs).ContextFree)
    (hl : lhs.Follows allowed lhs') (hr : rhs.Follows allowed rhs') :
    (compute d op lhs rhs).Follows allowed
      (compute (d.withOperators comparison arithmetic) op lhs' rhs') := by
  unfold compute at hfree ⊢
  cases htext : d.arithmetic op with
  | none => exact follows_fail_left _
  | some text =>
    rw [htext] at hfree
    rcases hd.arithmetic htext with hkept | ⟨hlost, he⟩
    · simp only [Dialect.withOperators, hkept]
      exact follows_seq (.cons hl (.cons (follows_write text) (.cons hr .nil)))
    · simp only [Dialect.withOperators, hlost]
      exact follows_fail_right hfree he

theorem follows_range (test : RangeTest) (hfree : (range d test lhs start stop).ContextFree)
    (hl : lhs.Follows allowed lhs') (ha : start.Follows allowed start')
    (hb : stop.Follows allowed stop') :
    (range d test lhs start stop).Follows allowed
      (range (d.withOperators comparison arithmetic) test lhs' start' stop') := by
  have hspace : (writeChar d.space).Follows allowed (writeChar d.space) := follows_writeChar _
  have hbound (text : String) {step step' : Step} (h : step.Follows allowed step') :=
    List.Forall₂.cons hl (.cons hspace (.cons (follows_write text) (.cons hspace (.cons h .nil))))
  unfold range at hfree ⊢
  cases hlower : d.comparison test.comparisons.1 with
  | none => exact follows_fail_left _
  | some lower =>
    cases hupper : d.comparison test.comparisons.2 with
    | none => exact follows_fail_left _
    | some upper =>
      rw [hlower, hupper] at hfree
      rcases hd.comparison hlower with hlower' | ⟨hlost, -, hrange⟩
      · rcases hd.comparison hupper with hupper' | ⟨hlost, -, hrange⟩
        · simp only [Dialect.withOperators, hlower', hupper']
          have hrest := List.Forall₂.cons (follows_write d.conjunction) (hbound upper hb)
          exact follows_parenthesized (List.rel_append (hbound lower ha) hrest)
        · simp only [Dialect.withOperators, hlower', hlost]
          exact follows_fail_right hfree (hrange test (.inr rfl))
      · simp only [Dialect.withOperators, hlost]
        exact follows_fail_right hfree (hrange test (.inl rfl))

end Step

open Step

/-- What is written with fewer operators is written in the same way, or an operator lacks. -/
theorem hereditary_follows (hd : d.Keeps allowed comparison arithmetic) :
    let d' := d.withOperators comparison arithmetic
    Hereditary (fun v => (v.render d).Follows allowed (v.render d'))
      (fun e => (e.render d).Follows allowed (e.render d')) where
  null := follows_write _
  bool _ := follows_fail_left _
  int _ := follows_write _
  uint _ := follows_write _
  float x := follows_self (meets_float x).contextFree
  string s := follows_self (meets_quoted d s).contextFree
  bytes bs := follows_self (meets_quoted d _).contextFree
  list vs h := by
    rw [Value.render, Value.render, Value.renderAll_eq_map, Value.renderAll_eq_map]
    exact follows_tuple (forall₂_map_of_forall h)
  expr _ h := h
  ident i h _ := by
    rw [Expr.render, Identifier.render_eq, Expr.render, Identifier.render_eq]
    apply follows_identifier
    intro l hl
    have hlit := h _ hl
    rw [← Literal.render_of_column _ hl, ← Literal.render_of_column _ hl] at hlit
    exact hlit
  literal l h := by
    obtain ⟨sql, args⟩ := l
    rw [Expr.render, Literal.render, Expr.render, Literal.render, Value.renderAll_eq_map,
      Value.renderAll_eq_map]
    exact follows_substitute _ (forall₂_map_of_forall h)
  compare op lhs rhs hl hr :=
    follows_compare hd op ((Expr.compare op lhs rhs).contextFree_render d) hl hr
  compute op lhs rhs hl hr :=
    follows_compute hd op ((Expr.compute op lhs rhs).contextFree_render d) hl hr
  range test lhs start stop hl ha hb :=
    follows_range hd test ((Expr.range test lhs start stop).contextFree_render d) hl ha hb
  ordered _ _ h := by
    rw [Expr.render, Expr.render]
    exact follows_seq (.cons h (.cons (follows_write _) .nil))
  aliased _ _ h hname := by
    rw [Expr.render, Expr.render]
    exact follows_seq (.cons h (.cons (follows_write _) (.cons hname .nil)))
  call function args h := by
    rw [Expr.render, Expr.render, Value.renderAll_eq_map, Value.renderAll_eq_map]
    exact follows_seq (.cons (follows_write function)
      (.cons (follows_tuple (forall₂_map_of_forall h)) .nil))
  junction op items h := by
    rw [Expr.render, Expr.render, Expr.renderAll_eq_map, Expr.renderAll_eq_map]
    exact follows_junction op (forall₂_map_of_forall h)
  columns cols h := by
    rw [Expr.render, Expr.render, Expr.renderAll_eq_map, Expr.renderAll_eq_map]
    exact follows_commaSeparated (forall₂_map_of_forall h)
  conditions op entries h := by
    rw [Expr.render_conditions, Expr.render_conditions]
    cases he : Expr.ofEntries op entries with
    | error e => exact follows_fail_left e
    | ok e => exact h e he

end SeriesQuery
