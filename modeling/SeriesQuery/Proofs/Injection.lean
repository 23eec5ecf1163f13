import SeriesQuery.Proofs.Contents

/-! No string can change the statement that it is written in: its skeleton is that of the
statement with all strings emptied. -/

namespace SeriesQuery

open Step

@[simp] theorem Comparison.equalityWith_blank (v : Value) :
    equalityWith v.blank = equalityWith v := by
  cases v <;> rfl

theorem Condition.blank_eq_mapValues (c : Condition) : c.blank = c.mapValues Value.blank := by
  cases c with
  | equals v => rfl
  | tests comparands => exact congrArg tests (eq_map_of_cons rfl (fun _ _ => rfl) comparands)

theorem Identifier.blank_eq_self {i : Identifier} (h : i.column.blank = i.column) :
    i.blank = i := by
  cases i
  exact congrArg (Identifier.mk _ _) h

theorem Condition.isEmpty_blank (c : Condition) : c.blank.isEmpty = c.isEmpty := by
  rw [blank_eq_mapValues, isEmpty_mapValues]

namespace Expr

@[simp] theorem isEmptyList_blank (e : Expr) : e.blank.isEmptyList = e.isEmptyList := by
  cases e with
  | junction op items => cases items <;> rfl
  | conditions op entries =>
    simp [blank, isEmptyList, Condition.blankAll_eq_map, Function.comp_def, Condition.isEmpty_blank]
  | _ => rfl

theorem blank_ofName (name : String) : (Expr.ofName name).blank = .ofName name := by
  have hcolumn : (Identifier.parse name).column.blank = (Identifier.parse name).column := by
    rcases Identifier.column_parse name with ⟨s, h⟩ | h <;> rw [h] <;> rfl
  rw [ofName, blank, Identifier.blank_eq_self hcolumn]

theorem blank_join (op : Connective) (es : List Expr) :
    (join op es).blank = join op (es.map blank) := by
  simp [join, blank, blankAll_eq_map, dropEmpty, List.filter_map, Function.comp_def]

end Expr

/-- Emptying the strings of a map does not change how it expands, as no string chooses an
operator. -/
theorem distributes_blank : Distributes Value.blank Expr.blank where
  equalityWith := Comparison.equalityWith_blank
  compare op column v := by rw [Expr.blank, Expr.blank_ofName]
  join := Expr.blank_join

theorem Expr.ofEntries_blank (op : Connective) (entries : List (String × Condition)) :
    ofEntries op (Condition.blankAll entries) = (ofEntries op entries).map blank := by
  rw [Condition.blankAll_eq_map, ← distributes_blank.ofEntries]
  simp only [Condition.blank_eq_mapValues]

/-- The character is in none of the texts. -/
def Lacks (q : Char) (texts : List String) : Prop := ∀ s ∈ texts, q ∉ s.toList

variable {q : Char} {texts texts' : List String} {s : String}

@[simp] theorem lacks_cons : Lacks q (s :: texts) ↔ q ∉ s.toList ∧ Lacks q texts :=
  List.forall_mem_cons

@[simp] theorem lacks_append : Lacks q (texts ++ texts') ↔ Lacks q texts ∧ Lacks q texts' :=
  List.forall_mem_append

@[simp] theorem lacks_flatMap {α : Type} {as : List α} {f : α → List String} :
    Lacks q (as.flatMap f) ↔ ∀ a ∈ as, Lacks q (f a) :=
  List.forall_mem_flatMap

/-- What a map expands to has no raw texts but those of the map. -/
theorem lacks_ofEntries {op : Connective} {entries : List (String × Condition)} {e : Expr}
    (h : Lacks q (Expr.conditions op entries).rawTexts) (he : Expr.ofEntries op entries = .ok e) :
    Lacks q e.rawTexts := by
  apply Condition.ofEntries_of_forall (Q := fun e => Lacks q e.rawTexts) _ _ he
  · intro entry hentry v hv o
    have hcolumn : Lacks q (Identifier.parse entry.1).rawTexts := by
      intro s hs hmem
      exact h entry.1 (Condition.mem_rawTextsAll.mpr ⟨entry, hentry, .inl rfl⟩)
        (Identifier.mem_of_mem_parse s hs q hmem)
    have hvalue : Lacks q v.rawTexts := fun s hs =>
      h s (Condition.mem_rawTextsAll.mpr
        ⟨entry, hentry, .inr (Condition.mem_rawTexts.mpr ⟨v, hv, hs⟩)⟩)
    exact lacks_append.mpr ⟨hcolumn, hvalue⟩
  · intro o es hes
    rw [Expr.join, Expr.rawTexts, Expr.rawTextsAll_eq_flatMap, lacks_flatMap]
    exact fun e he => hes e (List.mem_filter.mp he).1

variable {d : Dialect}

theorem Identifier.blank_eq (i : Identifier) : i.blank = ⟨i.schema, i.table, i.column.blank⟩ := by
  cases i
  rfl

theorem Identifier.isEmpty_blank (i : Identifier) : i.blank.isEmpty = i.isEmpty := by
  obtain ⟨schema, table, column⟩ := i
  cases column <;> rfl

/-- Emptying the strings keeps the kind, by which a column is refused. -/
theorem Expr.kindName_blank (e : Expr) : e.blank.kindName = e.kindName := by
  cases e with
  | conditions op entries => cases op <;> rfl
  | _ => rfl

/-- The names in an identifier are kept, and a literal column is emptied as a literal. -/
theorem alike_identifier (hd : d.QuoteSafe) {i : Identifier} {args args' : List Step}
    (hi : Lacks d.quote i.rawTexts)
    (h : ∀ l, i.column = .literal l →
      (substitute l.sql.toList args).Alike d.quote (substitute l.sql.toList args')) :
    (identifier d i args).Alike d.quote (identifier d i.blank args') := by
  have hempty := i.isEmpty_blank
  obtain ⟨schema, table, column⟩ := i
  obtain ⟨hschema, htable, hcolumn⟩ := (by simpa [Identifier.rawTexts] using hi :
    d.quote ∉ schema.toList ∧ d.quote ∉ table.toList ∧ Lacks d.quote column.rawTexts)
  have hperiod := alike_mark hd (c := d.period) (by simp [Dialect.punctuation])
  unfold identifier
  rw [hempty]
  refine alike_ite (alike_fail _) (alike_seq (.cons (alike_write hschema)
    (.cons (alike_ite alike_skip hperiod) (.cons (alike_write htable) (.cons ?_ .nil)))))
  cases column with
  | none => exact alike_skip
  | name s =>
    have hs : d.quote ∉ s.toList := hcolumn s (List.mem_singleton.mpr rfl)
    have hname : (write s).Alike d.quote (write s) := alike_write hs
    exact alike_ite alike_skip (alike_seq (.cons (alike_ite hperiod alike_skip) (.cons hname .nil)))
  | literal l =>
    obtain ⟨sql, lits⟩ := l
    exact alike_seq (.cons (alike_ite hperiod alike_skip) (.cons (h _ rfl) .nil))
  | other e =>
    change (fail (.unsupportedColumn e.kindName)).Alike d.quote
      (fail (.unsupportedColumn e.blank.kindName))
    rw [e.kindName_blank]
    exact alike_fail _

/-- Emptying the strings changes nothing but the contents of literals. -/
theorem hereditary_alike (hd : d.QuoteSafe) :
    Hereditary
      (fun v => Lacks d.quote v.rawTexts → (v.render d).Alike d.quote (v.blank.render d))
      (fun e => Lacks d.quote e.rawTexts → (e.render d).Alike d.quote (e.blank.render d)) where
  null _ := alike_keyword hd (by simp [Dialect.keywords])
  bool _ _ := alike_fail _
  int n _ := alike_numeric hd (isNumeric_of_mem_toString n.toInt)
  uint n _ := alike_numeric hd (isNumeric_of_mem_toString n.toNat)
  float x _ := alike_float hd x
  string s _ := alike_quoted hd s ""
  bytes bs _ := alike_quoted hd _ _
  list vs h hraw := by
    rw [Value.rawTexts, Value.rawTextsAll_eq_flatMap, lacks_flatMap] at hraw
    rw [Value.render, Value.blank, Value.render, Value.blankAll_eq_map, Value.renderAll_eq_map,
      Value.renderAll_eq_map, List.map_map]
    exact alike_tuple hd (forall₂_map_of_forall fun v hv => h v hv (hraw v hv))
  expr _ h hraw := h hraw
  ident i h _ hraw := by
    rw [Expr.render, Identifier.render_eq, Expr.blank, Expr.render, Identifier.render_eq]
    apply alike_identifier hd hraw
    intro l hl
    have hlraw : Lacks d.quote (Expr.literal l).rawTexts := fun s hs =>
      hraw s (Literal.rawTexts_subset_of_column hl hs)
    have hblank : i.blank.column = .literal l.blank := by
      rw [Identifier.blank_eq, hl]
      rfl
    have hsql : l.blank.sql = l.sql := by
      cases l
      rfl
    have halike := h _ hl hlraw
    rw [← Literal.render_of_column d hl, Expr.blank, ← Literal.render_of_column d hblank,
      hsql] at halike
    exact halike
  literal l h hraw := by
    obtain ⟨sql, args⟩ := l
    rw [Expr.rawTexts, Literal.rawTexts, Value.rawTextsAll_eq_flatMap, lacks_cons,
      lacks_flatMap] at hraw
    rw [Expr.render, Literal.render, Expr.blank, Literal.blank, Expr.render, Literal.render,
      Value.blankAll_eq_map, Value.renderAll_eq_map, Value.renderAll_eq_map, List.map_map]
    exact alike_substitute hraw.1 (forall₂_map_of_forall fun v hv => h v hv (hraw.2 v hv))
  compare op _ _ hl hr hraw := by
    obtain ⟨hlraw, hrraw⟩ := lacks_append.mp hraw
    exact alike_compare hd op (hl hlraw) (hr hrraw)
  compute op _ _ hl hr hraw := by
    obtain ⟨hlraw, hrraw⟩ := lacks_append.mp hraw
    exact alike_compute hd op (hl hlraw) (hr hrraw)
  range test _ _ _ hl ha hb hraw := by
    obtain ⟨hfirst, hbraw⟩ := lacks_append.mp hraw
    obtain ⟨hlraw, haraw⟩ := lacks_append.mp hfirst
    exact alike_range hd test (hl hlraw) (ha haraw) (hb hbraw)
  ordered e dir h hraw := by
    have hdir : d.direction dir ∈ d.keywords := by
      cases dir <;> simp [Dialect.direction, Dialect.keywords]
    rw [Expr.render, Expr.blank, Expr.render]
    exact alike_seq (.cons (h hraw) (.cons (alike_keyword hd hdir) .nil))
  aliased e name h hname hraw := by
    obtain ⟨heraw, hnraw⟩ := lacks_append.mp hraw
    have hname : (name.render d).Alike d.quote (name.blank.render d) := hname hnraw
    have haliasing := alike_keyword hd (s := d.aliasing) (by simp [Dialect.keywords])
    rw [Expr.render, Expr.blank, Expr.render]
    exact alike_seq (.cons (h heraw) (.cons haliasing (.cons hname .nil)))
  call function args h hraw := by
    rw [Expr.rawTexts, Value.rawTextsAll_eq_flatMap, lacks_cons, lacks_flatMap] at hraw
    rw [Expr.render, Expr.blank, Expr.render, Value.blankAll_eq_map, Value.renderAll_eq_map,
      Value.renderAll_eq_map, List.map_map]
    have hargs := alike_tuple hd (forall₂_map_of_forall fun v hv => h v hv (hraw.2 v hv))
    exact alike_seq (.cons (alike_write hraw.1) (.cons hargs .nil))
  junction op items h hraw := by
    rw [Expr.rawTexts, Expr.rawTextsAll_eq_flatMap, lacks_flatMap] at hraw
    rw [Expr.render, Expr.blank, Expr.render, Expr.blankAll_eq_map, Expr.renderAll_eq_map,
      Expr.renderAll_eq_map, List.map_map]
    exact alike_junction hd op (forall₂_map_of_forall fun e he => h e he (hraw e he))
  columns cols h hraw := by
    rw [Expr.rawTexts, Expr.rawTextsAll_eq_flatMap, lacks_flatMap] at hraw
    rw [Expr.render, Expr.blank, Expr.render, Expr.blankAll_eq_map, Expr.renderAll_eq_map,
      Expr.renderAll_eq_map, List.map_map]
    exact alike_commaSeparated hd (forall₂_map_of_forall fun e he => h e he (hraw e he))
  conditions op entries h hraw := by
    rw [Expr.blank, Expr.render_conditions, Expr.render_conditions, Expr.ofEntries_blank]
    cases he : Expr.ofEntries op entries with
    | error e => exact alike_fail e
    | ok e => exact h e he (lacks_ofEntries hraw he)

end SeriesQuery
