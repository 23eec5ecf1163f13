import SeriesQuery.Proofs.Comments
import SeriesQuery.Proofs.Injection
import SeriesQuery.Proofs.Result

/-! Only subtractions open comments: those of something whose text begins with a hyphen of its own.
-/

namespace SeriesQuery

/-- What is subtracted, if anything is. -/
def Arithmetic.subtrahend : Arithmetic → Value → List Value
  | sub, v => [v]
  | add, _ | mul, _ => []

mutual

/-- All that is subtracted where a value is written. -/
def Value.subtrahends : Value → List Value
  | .list vs => (Value.subtrahendsEach vs).flatten
  | .expr e => e.subtrahends
  | .null | .bool _ | .int _ | .uint _ | .float _ | .string _ | .bytes _ => []

def Value.subtrahendsEach : List Value → List (List Value)
  | [] => []
  | v :: vs => v.subtrahends :: Value.subtrahendsEach vs

/-- All that is subtracted where an expression is written. -/
def Expr.subtrahends : Expr → List Value
  | .ident i => i.subtrahends
  | .literal l => l.subtrahends
  | .compare _ lhs rhs => lhs.subtrahends ++ rhs.subtrahends
  | .compute op lhs rhs => op.subtrahend rhs ++ (lhs.subtrahends ++ rhs.subtrahends)
  | .range _ lhs start stop => lhs.subtrahends ++ start.subtrahends ++ stop.subtrahends
  | .ordered e _ => e.subtrahends
  | .aliased e name => e.subtrahends ++ name.subtrahends
  | .call _ args => (Value.subtrahendsEach args).flatten
  | .junction _ items => (Expr.subtrahendsEach items).flatten
  | .columns cols => (Expr.subtrahendsEach cols).flatten
  | .conditions _ entries => Condition.subtrahendsAll entries

def Expr.subtrahendsEach : List Expr → List (List Value)
  | [] => []
  | e :: es => e.subtrahends :: Expr.subtrahendsEach es

def Identifier.subtrahends : Identifier → List Value
  | ⟨_, _, column⟩ => column.subtrahends

def Column.subtrahends : Column → List Value
  | .none | .name _ => []
  | .literal l => l.subtrahends
  | .other e => e.subtrahends

/-- Of the arguments only those are written that take the place of a `?`. -/
def Literal.subtrahends : Literal → List Value
  | ⟨sql, args⟩ => ((Value.subtrahendsEach args).take (sql.toList.count '?')).flatten

def Condition.subtrahends : Condition → List Value
  | .equals v => v.subtrahends
  | .tests comparands => Condition.subtrahendsTests comparands

def Condition.subtrahendsTests : List (String × Value) → List Value
  | [] => []
  | (_, v) :: rest => v.subtrahends ++ Condition.subtrahendsTests rest

def Condition.subtrahendsAll : List (String × Condition) → List Value
  | [] => []
  | (_, c) :: rest => c.subtrahends ++ Condition.subtrahendsAll rest

end

theorem Value.subtrahendsEach_eq_map (vs : List Value) :
    subtrahendsEach vs = vs.map subtrahends :=
  eq_map_of_cons rfl (fun _ _ => rfl) vs

theorem Expr.subtrahendsEach_eq_map (es : List Expr) :
    subtrahendsEach es = es.map subtrahends :=
  eq_map_of_cons rfl (fun _ _ => rfl) es

theorem Identifier.subtrahends_eq (i : Identifier) : i.subtrahends = i.column.subtrahends := by
  cases i
  rfl

theorem Literal.subtrahends_eq (l : Literal) :
    l.subtrahends = (l.args.take (l.sql.toList.count '?')).flatMap Value.subtrahends := by
  cases l
  rw [subtrahends, Value.subtrahendsEach_eq_map, ← List.map_take, List.flatMap_def]

theorem Condition.subtrahendsAll_eq_flatMap (entries : List (String × Condition)) :
    subtrahendsAll entries =
      entries.flatMap fun entry => entry.2.values.flatMap Value.subtrahends := by
  have hcondition (c : Condition) : c.subtrahends = c.values.flatMap Value.subtrahends := by
    cases c with
    | equals v => simp [subtrahends, values]
    | tests comparands =>
      rw [subtrahends, values, List.flatMap_map]
      exact eq_flatMap_of_cons rfl (fun _ _ => rfl) comparands
  refine eq_flatMap_of_cons rfl (fun entry entries => ?_) entries
  rw [subtrahendsAll, hcondition]

theorem Expr.subtrahends_ofName (name : String) : (Expr.ofName name).subtrahends = [] := by
  have hcolumn : (Identifier.parse name).column.subtrahends = [] := by
    rcases Identifier.column_parse name with ⟨s, h⟩ | h <;> rw [h] <;> rfl
  rw [Expr.ofName, subtrahends, Identifier.subtrahends_eq, hcolumn]

/-- A map subtracts what its expansion does. -/
theorem Expr.subtrahends_of_ofEntries {op : Connective} {entries : List (String × Condition)}
    {e : Expr} (h : Expr.ofEntries op entries = .ok e) :
    e.subtrahends = (Expr.conditions op entries).subtrahends := by
  rw [subtrahends, Condition.subtrahendsAll_eq_flatMap]
  refine flatMap_values_of_ofEntries (fun o column v => ?_) (fun o es => ?_) h
  · rw [subtrahends, subtrahends_ofName, List.nil_append]
  · rw [subtrahends, subtrahendsEach_eq_map, List.flatMap_def]

/-- In the time series dialect the value is written with a hyphen first. -/
def Value.BeginsWithHyphen (v : Value) : Prop :=
  ∃ s, v.sql .timeSeries = .ok s ∧ s.toList.head? = some '-'

/-- There are no hyphens and no quotes in the texts, and all that is subtracted has a text. -/
structure Harmless (texts : List String) (subtrahends : List Value) : Prop where
  hyphen : Lacks '-' texts
  quote : Lacks '\'' texts
  written : ∀ v ∈ subtrahends, v.sql .timeSeries ≠ .ok ""

namespace Harmless

variable {texts texts' : List String} {us us' : List Value} {s : String}

theorem isPlain (h : Harmless texts us) (hs : s ∈ texts) : IsPlain s.toList := by
  intro c hc
  constructor
  · rintro rfl
    exact h.hyphen s hs hc
  · rintro rfl
    exact h.quote s hs hc

theorem mono (h : Harmless texts us) (ht : texts' ⊆ texts) (hu : us' ⊆ us) :
    Harmless texts' us' where
  hyphen s hs := h.hyphen s (ht hs)
  quote s hs := h.quote s (ht hs)
  written v hv := h.written v (hu hv)

theorem left (h : Harmless (texts ++ texts') (us ++ us')) : Harmless texts us :=
  h.mono (List.subset_append_left _ _) (List.subset_append_left _ _)

theorem right (h : Harmless (texts ++ texts') (us ++ us')) : Harmless texts' us' :=
  h.mono (List.subset_append_right _ _) (List.subset_append_right _ _)

theorem tail (h : Harmless (s :: texts) us) : Harmless texts us :=
  h.mono (List.subset_cons_self _ _) (List.Subset.refl _)

theorem of_flatMap {α : Type} {as bs : List α} {f : α → List String} {g : α → List Value}
    (h : Harmless (as.flatMap f) (bs.flatMap g)) {a : α} (ha : a ∈ as) (hb : a ∈ bs) :
    Harmless (f a) (g a) :=
  h.mono (fun _ hs => List.mem_flatMap.mpr ⟨a, ha, hs⟩)
    fun _ hv => List.mem_flatMap.mpr ⟨a, hb, hv⟩

/-- What a map expands to has no raw texts and no subtractions but those of the map. -/
theorem ofEntries {op : Connective} {entries : List (String × Condition)} {e : Expr}
    (h : Harmless (Expr.conditions op entries).rawTexts (Expr.conditions op entries).subtrahends)
    (he : Expr.ofEntries op entries = .ok e) : Harmless e.rawTexts e.subtrahends where
  hyphen := lacks_ofEntries h.hyphen he
  quote := lacks_ofEntries h.quote he
  written := Expr.subtrahends_of_ofEntries he ▸ h.written

end Harmless

namespace Step

/-- The step appends a text that opens a comment exactly when one of the values begins with a
hyphen, unless the step fails. -/
structure Opens (step : Step) (us : List Value) : Prop where
  contextFree : step.ContextFree
  opensIff {t : String} : step.result = .ok t →
    OpensIff (∃ u ∈ us, u.BeginsWithHyphen) t.toList

variable {step other lhs rhs start stop : Step} {steps items args : List Step}
  {us us' ul ur ua ub : List Value} {uss : List (List Value)} {s t : String} {c : Char}
  {cs : List Char}

theorem Opens.of_mem_iff (h : step.Opens us) (hus : ∀ u, u ∈ us ↔ u ∈ us') : step.Opens us' := by
  refine ⟨h.contextFree, fun ht => (h.opensIff ht).congr ?_⟩
  simp only [hus]

theorem opens_fail (e : Error) : (fail e).Opens us := ⟨contextFree_fail e, nofun⟩

theorem opens_write (h : OpensIff False s.toList) : (write s).Opens [] := by
  refine ⟨contextFree_write s, fun ht => ?_⟩
  rw [result_write] at ht
  obtain rfl := Except.ok.inj ht
  exact h.congr (by simp)

theorem opens_plain (h : IsPlain s.toList) : (write s).Opens [] := opens_write (.of_isPlain h)

theorem opens_writeChar (h : IsPlain [c]) : (writeChar c).Opens [] := by
  rw [writeChar_eq_write]
  exact opens_plain (by simpa using h)

theorem opens_skip : skip.Opens [] := write_empty ▸ opens_write .nil

theorem Opens.cons (h : step.Opens us) (hs : (seq steps).Opens us') :
    (seq (step :: steps)).Opens (us ++ us') := by
  refine ⟨fun b => ?_, fun ht => ?_⟩
  · have heq : seq (step :: steps) {} = step {} ++ seq steps {} := hs.contextFree (step {})
    rw [heq, seq_cons, hs.contextFree, h.contextFree b, Buffer.append_assoc]
  · obtain ⟨s₁, s₂, h₁, h₂, rfl⟩ := (result_seq_cons_eq_ok_iff hs.contextFree).mp ht
    rw [String.toList_append]
    refine ((h.opensIff h₁).append (hs.opensIff h₂)).congr ?_
    simp only [List.mem_append, or_and_right, exists_or]

theorem opens_seq (uss : List (List Value)) (hus : uss.flatten = us)
    (h : List.Forall₂ Opens steps uss) : (seq steps).Opens us := by
  subst hus
  induction h with
  | nil => exact opens_skip
  | cons h _ ih => exact h.cons ih

theorem opens_ite {p : Prop} [Decidable p] (h : step.Opens us) (ho : other.Opens us) :
    (if p then step else other).Opens us := by
  split <;> assumption

theorem opens_separated (hs : step.Opens []) (h : List.Forall₂ Opens items uss) :
    (separated step items).Opens uss.flatten :=
  opens_seq (uss.intersperse []) (flatten_intersperse_nil uss) (forall₂_intersperse hs h)

/-- The arguments that take the place of a `?` are the first ones. -/
theorem opens_substitute (hcs : IsPlain cs)
    (h : List.Forall₂ Opens (args.take (cs.count '?')) uss) :
    (substitute cs args).Opens uss.flatten := by
  induction cs generalizing args uss with
  | nil =>
    cases h
    simpa [substitute] using opens_skip
  | cons c cs ih =>
    obtain ⟨hc, hcs⟩ := List.forall_mem_cons.mp hcs
    have hchar : (writeChar c).Opens [] := opens_writeChar (List.forall_mem_singleton.mpr hc)
    cases args with
    | nil =>
      rw [List.take_nil] at h
      cases h
      have hrest : (substitute cs []).Opens [] := ih hcs (by rw [List.take_nil]; exact .nil)
      exact opens_seq [[], []] rfl (.cons hchar (.cons hrest .nil))
    | cons arg args =>
      rw [substitute]
      split
      · rename_i hmark
        rw [hmark, List.count_cons_self, List.take_succ_cons] at h
        cases h with
        | cons harg hargs =>
          exact opens_seq [_, _] (by simp) (.cons harg (.cons (ih hcs hargs) .nil))
      · rename_i hmark
        rw [List.count_cons_of_ne hmark] at h
        exact opens_seq [[], _] (by simp) (.cons hchar (.cons (ih hcs h) .nil))

theorem opens_quoted (s : String) : (quoted .timeSeries s).Opens [] := by
  have hdoubled := Dialect.quoteSafe_timeSeries.doubled_escaped s
  have hquote : Dialect.timeSeries.quote = '\'' := rfl
  rw [hquote] at hdoubled
  rw [quoted_eq_write, hquote]
  exact opens_write (by simpa using OpensIff.literal hdoubled)

theorem opens_float (x : Binary64) : (float x).Opens [] :=
  opens_ite (opens_write x.opensIff_decimalText) (opens_fail _)

/-- What stands between parentheses. -/
theorem opens_parenthesized (uss : List (List Value)) (hus : uss.flatten = us)
    (h : List.Forall₂ Opens steps uss) :
    (seq (writeChar Dialect.timeSeries.leftParen ::
      steps ++ [writeChar Dialect.timeSeries.rightParen])).Opens us := by
  have hleft := opens_writeChar (c := Dialect.timeSeries.leftParen) (by decide)
  have hright := opens_writeChar (c := Dialect.timeSeries.rightParen) (by decide)
  have hrest : List.Forall₂ Opens (steps ++ [writeChar Dialect.timeSeries.rightParen])
      (uss ++ [[]]) := List.rel_append h (.cons hright .nil)
  exact opens_seq ([] :: (uss ++ [[]])) (by simp [hus]) (.cons hleft hrest)

theorem opens_commaSeparated (h : List.Forall₂ Opens items uss) :
    (commaSeparated .timeSeries items).Opens uss.flatten := by
  have hcomma := opens_writeChar (c := Dialect.timeSeries.comma) (by decide)
  have hspace := opens_writeChar (c := Dialect.timeSeries.space) (by decide)
  exact opens_separated (opens_seq [[], []] rfl (.cons hcomma (.cons hspace .nil))) h

theorem opens_tuple (h : List.Forall₂ Opens items uss) :
    (tuple .timeSeries items).Opens uss.flatten :=
  opens_parenthesized [uss.flatten] (by simp) (.cons (opens_commaSeparated h) .nil)

/-- An operand, an operator between spaces, and the other operand. -/
theorem opens_operands {op : Comparison} {text : String}
    (ht : Dialect.timeSeries.comparison op = some text) (hl : lhs.Opens ul) (hr : rhs.Opens ur) :
    List.Forall₂ Opens [lhs, writeChar Dialect.timeSeries.space, write text,
      writeChar Dialect.timeSeries.space, rhs] [ul, [], [], [], ur] := by
  have hspace := opens_writeChar (c := Dialect.timeSeries.space) (by decide)
  have htext : IsPlain text.toList := by
    cases op <;> cases ht <;> decide
  exact .cons hl (.cons hspace (.cons (opens_plain htext) (.cons hspace (.cons hr .nil))))

theorem opens_compare (op : Comparison) (hl : lhs.Opens ul) (hr : rhs.Opens ur) :
    (compare .timeSeries op lhs rhs).Opens (ul ++ ur) := by
  unfold compare
  cases h : Dialect.timeSeries.comparison op with
  | none => exact opens_fail _
  | some text => exact opens_parenthesized _ (by simp) (opens_operands h hl hr)

/-- The left operand is written twice. -/
theorem opens_range (test : RangeTest) (hl : lhs.Opens ul) (ha : start.Opens ua)
    (hb : stop.Opens ub) :
    (range .timeSeries test lhs start stop).Opens (ul ++ ua ++ ub) := by
  have hand : (write Dialect.timeSeries.conjunction).Opens [] := opens_plain (by decide)
  unfold range
  cases hlower : Dialect.timeSeries.comparison test.comparisons.1 with
  | none => exact opens_fail _
  | some lower =>
    cases hupper : Dialect.timeSeries.comparison test.comparisons.2 with
    | none => exact opens_fail _
    | some upper =>
      have hfirst := opens_operands hlower hl ha
      have hsecond := opens_operands hupper hl hb
      have hboth := opens_parenthesized _ rfl (List.rel_append hfirst (.cons hand hsecond))
      exact hboth.of_mem_iff fun u => by simp; tauto

/-- Between two items there are a connective and spaces, so that no hyphens meet. -/
theorem opens_junction (op : Connective) (h : List.Forall₂ Opens items uss) :
    (junction .timeSeries op items).Opens uss.flatten := by
  have hop : (write (Dialect.timeSeries.connective op)).Opens [] :=
    opens_plain (by cases op <;> decide)
  cases h with
  | nil => exact opens_skip
  | cons hitem hitems =>
    cases hitems with
    | nil => simpa [junction] using hitem
    | cons hitem' hitems =>
      have hseparated := opens_separated hop (.cons hitem (.cons hitem' hitems))
      exact opens_parenthesized [_] (by simp) (.cons hseparated .nil)

/-- The text of what is subtracted follows on a hyphen. -/
theorem opens_subtract {v : Value} (hv : v.sql .timeSeries ≠ .ok "") (hl : lhs.Opens ul)
    (hr : (v.render .timeSeries).Opens ur) :
    (compute .timeSeries .sub lhs (v.render .timeSeries)).Opens ([v] ++ (ul ++ ur)) := by
  have hminus : (seq [write "-", v.render .timeSeries]).Opens (v :: ur) := by
    refine ⟨contextFree_seq (by simp [hr.contextFree]), fun ht => ?_⟩
    have hrest : (seq [v.render .timeSeries]).ContextFree := hr.contextFree
    obtain ⟨s₁, s₂, h₁, h₂, rfl⟩ := (result_seq_cons_eq_ok_iff hrest).mp ht
    have hs₂ : v.sql .timeSeries = .ok s₂ := h₂
    have hne : s₂.toList ≠ [] := by
      intro hempty
      have hs : s₂ = "" := String.toList_inj.mp hempty
      exact hv (hs ▸ hs₂)
    rw [result_write] at h₁
    obtain rfl := Except.ok.inj h₁
    have hbegins : v.BeginsWithHyphen ↔ s₂.toList.head? = some '-' := by
      simp [Value.BeginsWithHyphen, hs₂]
    rw [String.toList_append]
    refine (OpensIff.hyphen hne (hr.opensIff h₂)).congr ?_
    simp [hbegins]
  exact (hl.cons hminus).of_mem_iff fun u => by simp; tauto

/-- A difference opens a comment where what is subtracted begins with a hyphen. -/
theorem opens_compute (op : Arithmetic) {v : Value}
    (hv : ∀ u ∈ op.subtrahend v, u.sql .timeSeries ≠ .ok "") (hl : lhs.Opens ul)
    (hr : (v.render .timeSeries).Opens ur) :
    (compute .timeSeries op lhs (v.render .timeSeries)).Opens (op.subtrahend v ++ (ul ++ ur)) := by
  cases op with
  | sub => exact opens_subtract (hv v List.mem_cons_self) hl hr
  | add =>
    have hop : (write "+").Opens [] := opens_plain (by decide)
    exact opens_seq [ul, [], ur] (by simp [Arithmetic.subtrahend])
      (.cons hl (.cons hop (.cons hr .nil)))
  | mul =>
    have hop : (write "*").Opens [] := opens_plain (by decide)
    exact opens_seq [ul, [], ur] (by simp [Arithmetic.subtrahend])
      (.cons hl (.cons hop (.cons hr .nil)))

theorem opens_identifier {i : Identifier} (hi : Harmless i.rawTexts us)
    (h : ∀ l, i.column = .literal l →
      (substitute l.sql.toList args).Opens i.column.subtrahends) :
    (identifier .timeSeries i args).Opens i.column.subtrahends := by
  obtain ⟨schema, table, column⟩ := i
  have hperiod := opens_writeChar (c := Dialect.timeSeries.period) (by decide)
  have hschema := opens_plain (hi.isPlain (s := schema) (by simp [Identifier.rawTexts]))
  have htable := opens_plain (hi.isPlain (s := table) (by simp [Identifier.rawTexts]))
  unfold identifier
  refine opens_ite (opens_fail _) (opens_seq [[], [], [], column.subtrahends] (by simp)
    (.cons hschema (.cons (opens_ite opens_skip hperiod) (.cons htable (.cons ?_ .nil)))))
  cases column with
  | none => exact opens_skip
  | name s =>
    have hs := opens_plain (hi.isPlain (s := s) (by simp [Identifier.rawTexts, Column.rawTexts]))
    exact opens_ite opens_skip
      (opens_seq [[], []] rfl (.cons (opens_ite hperiod opens_skip) (.cons hs .nil)))
  | literal l =>
    exact opens_seq [[], _] (by simp)
      (.cons (opens_ite hperiod opens_skip) (.cons (h l rfl) .nil))
  | other e => exact opens_fail _

end Step

open Step

/-- Comments are opened by what is subtracted and by nothing else. -/
theorem hereditary_opens :
    Hereditary
      (fun v => Harmless v.rawTexts v.subtrahends → (v.render .timeSeries).Opens v.subtrahends)
      (fun e => Harmless e.rawTexts e.subtrahends → (e.render .timeSeries).Opens e.subtrahends)
    where
  null _ := opens_plain (by decide)
  bool _ _ := opens_fail _
  int n _ := opens_write (opensIff_toString n.toInt)
  uint n _ := opens_write (opensIff_toString n.toNat)
  float x _ := opens_float x
  string s _ := opens_quoted s
  bytes bs _ := opens_quoted _
  list vs h hv := by
    rw [Value.rawTexts, Value.rawTextsAll_eq_flatMap, Value.subtrahends,
      Value.subtrahendsEach_eq_map, ← List.flatMap_def] at hv
    rw [Value.render, Value.renderAll_eq_map, Value.subtrahends, Value.subtrahendsEach_eq_map]
    exact opens_tuple (forall₂_map_of_forall fun v hmem => h v hmem (hv.of_flatMap hmem hmem))
  expr _ h hv := h hv
  ident i h _ hi := by
    rw [Expr.render, Identifier.render_eq, Expr.subtrahends, Identifier.subtrahends_eq]
    refine opens_identifier hi fun l hl => ?_
    rw [Expr.rawTexts, Identifier.rawTexts_eq, Expr.subtrahends, Identifier.subtrahends_eq,
      hl] at hi
    rw [Literal.render_of_column _ hl, hl]
    exact h _ hl hi.tail.tail
  literal l h hl := by
    rw [Expr.subtrahends, Literal.subtrahends_eq] at hl ⊢
    obtain ⟨sql, args⟩ := l
    rw [Expr.rawTexts, Literal.rawTexts, Value.rawTextsAll_eq_flatMap] at hl
    rw [Expr.render, Literal.render, Value.renderAll_eq_map, List.flatMap_def]
    refine opens_substitute (hl.isPlain List.mem_cons_self) ?_
    rw [← List.map_take]
    refine forall₂_map_of_forall fun v hmem => ?_
    have hargs := List.mem_of_mem_take hmem
    exact h v hargs (hl.tail.of_flatMap hargs hmem)
  compare op _ _ hl hr he := opens_compare op (hl he.left) (hr he.right)
  compute op lhs rhs hl hr he := by
    have hparts := he.mono (List.Subset.refl _) (List.subset_append_right _ _)
    have hsubtrahend := he.mono (List.Subset.refl _) (List.subset_append_left _ _)
    exact opens_compute op hsubtrahend.written (hl hparts.left) (hr hparts.right)
  range test _ _ _ hl ha hb he :=
    opens_range test (hl he.left.left) (ha he.left.right) (hb he.right)
  ordered e dir h he := by
    have hdir : (write (Dialect.timeSeries.direction dir)).Opens [] :=
      opens_plain (by cases dir <;> decide)
    rw [Expr.render]
    exact opens_seq [_, []] (by simp [Expr.subtrahends]) (.cons (h he) (.cons hdir .nil))
  aliased e name h hname he := by
    have haliasing : (write Dialect.timeSeries.aliasing).Opens [] := opens_plain (by decide)
    rw [Expr.render]
    exact opens_seq [_, [], _] (by simp [Expr.subtrahends])
      (.cons (h he.left) (.cons haliasing (.cons (hname he.right) .nil)))
  call function args h he := by
    rw [Expr.rawTexts, Value.rawTextsAll_eq_flatMap, Expr.subtrahends,
      Value.subtrahendsEach_eq_map, ← List.flatMap_def] at he
    have hfunction := opens_plain (he.isPlain List.mem_cons_self)
    have htuple := opens_tuple
      (forall₂_map_of_forall fun v hmem => h v hmem (he.tail.of_flatMap hmem hmem))
    rw [Expr.render, Value.renderAll_eq_map, Expr.subtrahends, Value.subtrahendsEach_eq_map]
    exact opens_seq [[], _] (by simp) (.cons hfunction (.cons htuple .nil))
  junction op items h he := by
    rw [Expr.rawTexts, Expr.rawTextsAll_eq_flatMap, Expr.subtrahends,
      Expr.subtrahendsEach_eq_map, ← List.flatMap_def] at he
    rw [Expr.render, Expr.renderAll_eq_map, Expr.subtrahends, Expr.subtrahendsEach_eq_map]
    exact opens_junction op
      (forall₂_map_of_forall fun e hmem => h e hmem (he.of_flatMap hmem hmem))
  columns cols h he := by
    rw [Expr.rawTexts, Expr.rawTextsAll_eq_flatMap, Expr.subtrahends,
      Expr.subtrahendsEach_eq_map, ← List.flatMap_def] at he
    rw [Expr.render, Expr.renderAll_eq_map, Expr.subtrahends, Expr.subtrahendsEach_eq_map]
    exact opens_commaSeparated
      (forall₂_map_of_forall fun e hmem => h e hmem (he.of_flatMap hmem hmem))
  conditions op entries h he := by
    rw [Expr.render_conditions]
    cases hexpanded : Expr.ofEntries op entries with
    | error e => exact opens_fail e
    | ok e => exact Expr.subtrahends_of_ofEntries hexpanded ▸ h e hexpanded (he.ofEntries hexpanded)

namespace Expr

/-- Where all that is subtracted has a text, a comment is opened exactly when the text of something
that is subtracted begins with a hyphen. -/
theorem opensComment_sql_iff {e : Expr} {t : String} (hhyphen : Lacks '-' e.rawTexts)
    (hquote : Lacks '\'' e.rawTexts)
    (hwritten : ∀ v ∈ e.subtrahends, v.sql .timeSeries ≠ .ok "")
    (ht : e.sql .timeSeries = .ok t) :
    opensComment false t.toList ↔
      ∃ v ∈ e.subtrahends, ∃ s, v.sql .timeSeries = .ok s ∧ s.toList.head? = some '-' := by
  have hopens := hereditary_opens.all_exprs e ⟨hhyphen, hquote, hwritten⟩
  exact (hopens.opensIff ht).opensComment_iff

/-- Hyphens in a string and in front of a factor do no harm. -/
theorem opensComment_sql_iff_factor :
    let e : Expr := .call "GREATEST" [.string "--",
      .expr (.compute .sub (.compute .mul (.ofName "a") (.int (-2))) (.uint 3))]
    let t := "GREATEST('--', a*-2-3)"
    Lacks '-' e.rawTexts ∧ Lacks '\'' e.rawTexts ∧
      (∀ v ∈ e.subtrahends, v.sql .timeSeries ≠ .ok "") ∧ e.sql .timeSeries = .ok t ∧
      opensComment false t.toList = false := by
  intro e t
  have hhyphen : Lacks '-' e.rawTexts := by unfold Lacks; decide +kernel
  have hquote : Lacks '\'' e.rawTexts := by unfold Lacks; decide +kernel
  have hsubtrahends : e.subtrahends = [.uint 3] := rfl
  have htext : (Value.uint 3).sql .timeSeries = .ok "3" := by decide +kernel
  have hwritten : ∀ v ∈ e.subtrahends, v.sql .timeSeries ≠ .ok "" := by
    simp [hsubtrahends, htext]
  have ht : e.sql .timeSeries = .ok t := by decide +kernel
  refine ⟨hhyphen, hquote, hwritten, ht, ?_⟩
  rw [← Bool.not_eq_true, opensComment_sql_iff hhyphen hquote hwritten ht]
  simp [hsubtrahends, htext]

/-- A negative number that is subtracted opens a comment, and so does a subtraction of nothing in
front of another one. -/
theorem opensComment_sql_subtraction :
    let negative : Expr := .compute .sub (.ofName "a") (.int (-5))
    let nothing : Expr :=
      .compute .sub (.compute .sub (.ofName "a") (.expr (.junction .and []))) (.expr (.ofName "b"))
    (∀ e ∈ [negative, nothing], Lacks '-' e.rawTexts ∧ Lacks '\'' e.rawTexts) ∧
      negative.sql .timeSeries = .ok "a--5" ∧ opensComment false "a--5".toList = true ∧
      nothing.sql .timeSeries = .ok "a--b" ∧ opensComment false "a--b".toList = true := by
  unfold Lacks
  decide +kernel

end Expr

end SeriesQuery
