import SeriesQuery.Proofs.Contents
import SeriesQuery.Proofs.Nesting
import SeriesQuery.Render.Select

/-! Statements are well-bracketed: every literal is closed and the parentheses outside of literals
match, whatever the strings in the statement are. -/

namespace SeriesQuery

open Step

/-- In the text there are no quotes and no parentheses. -/
def BracketFree (s : String) : Prop := ∀ c ∈ s.toList, isBracket c = false

theorem bracketFree_of_all {s : String} (h : s.toList.all (!isBracket ·)) : BracketFree s := by
  simpa [BracketFree] using h

/-- The text opens no literal, and its parentheses match. -/
def SelfContained (s : String) : Prop := '\'' ∉ s.toList ∧ WellBracketed s

/-- Numbers leave a scan where it is. -/
theorem isBracket_of_isNumeric {c : Char} (h : isNumeric c) : isBracket c = false := by
  cases hc : isBracket c with
  | false => rfl
  | true =>
    simp only [isBracket, Bool.or_eq_true, beq_iff_eq] at hc
    rcases hc with (rfl | rfl) | rfl <;> cases h

/-- The time series dialect with other operators, another order of the fragments or a keyword for
the time zone. There are no quotes and no parentheses in the new texts. -/
structure Dialect.Customized (d : Dialect) : Prop where
  base : { d with
    selectOrder := timeSeries.selectOrder, comparison := timeSeries.comparison,
    arithmetic := timeSeries.arithmetic, timezone := timeSeries.timezone } = timeSeries
  comparison {op : Comparison} {text : String} : d.comparison op = some text → BracketFree text
  arithmetic {op : Arithmetic} {text : String} : d.arithmetic op = some text → BracketFree text
  timezone {text : String} : d.timezone = some text → BracketFree text

namespace Dialect.Customized

variable {d : Dialect}

theorem keyword (hd : d.Customized) {s : String} (hs : s ∈ d.keywords) : BracketFree s := by
  have hbase : ∀ s ∈ timeSeries.keywords, s.toList.all (!isBracket ·) := by decide +kernel
  have hkeywords : d.keywords = timeSeries.keywords ++ d.timezone.toList := by
    rw [← hd.base]
    simp [keywords, timeSeries]
  rw [hkeywords] at hs
  rcases List.mem_append.mp hs with hs | hs
  · exact bracketFree_of_all (hbase s hs)
  · exact hd.timezone (Option.mem_toList.mp hs)

theorem leftParen_eq (hd : d.Customized) : d.leftParen = '(' := congrArg leftParen hd.base

theorem rightParen_eq (hd : d.Customized) : d.rightParen = ')' := congrArg rightParen hd.base

/-- The marks that are written besides parentheses are none that a scan counts. -/
theorem mark (hd : d.Customized) {c : Char} (hc : c ∈ [d.star, d.period, d.space, d.comma]) :
    isBracket c = false := by
  have hmarks : [d.star, d.period, d.space, d.comma] = ['*', '.', ' ', ','] :=
    congrArg (fun d : Dialect => [d.star, d.period, d.space, d.comma]) hd.base
  have hfree : ['*', '.', ' ', ','].all (!isBracket ·) := by decide
  rw [hmarks] at hc
  simpa using List.all_eq_true.mp hfree c hc

/-- In a literal a string has no effect on the scan, since its quotes are doubled. -/
theorem after_escaped (hd : d.Customized) (s : String) (depth : Nat) :
    Nesting.after ⟨depth, true⟩ (d.escaped s).toList = some ⟨depth, true⟩ := by
  have hescape : d.escape = timeSeries.escape := by
    have h := congrArg Dialect.escape hd.base
    exact h
  rw [escaped, String.toList_join, hescape]
  induction s.toList with
  | nil => rfl
  | cons c cs ih =>
    rw [List.map_cons, List.flatMap_cons, Nesting.after_append_of_eq (m := ⟨depth, true⟩) _, ih]
    by_cases hc : c = '\''
    · subst hc
      rfl
    · simp [timeSeries, hc, Nesting.after_cons, Nesting.next]

end Dialect.Customized

namespace Step

variable {d : Dialect} {lhs rhs start stop : Step} {steps items args : List Step}

theorem balanced_keyword (hd : d.Customized) {s : String} (h : s ∈ d.keywords) :
    (write s).Balanced :=
  balanced_write_of_not_isBracket (hd.keyword h)

theorem balanced_numeric {s : String} (h : ∀ c ∈ s.toList, isNumeric c) : (write s).Balanced :=
  balanced_write_of_not_isBracket fun c hc => isBracket_of_isNumeric (h c hc)

theorem balanced_space (hd : d.Customized) : (writeChar d.space).Balanced :=
  balanced_writeChar (hd.mark (by simp))

theorem balanced_float (x : Binary64) : (float x).Balanced :=
  balanced_ite (balanced_numeric x.isNumeric_of_mem_decimalText) (balanced_fail _)

/-- Doubling leaves no quote alone, so a literal is closed where it ends, whatever is in it. -/
theorem balanced_quoted (hd : d.Customized) (s : String) : (quoted d s).Balanced := by
  have hquote : d.quote = '\'' := congrArg Dialect.quote hd.base
  rw [quoted_eq_write, hquote]
  intro depth
  apply leads_write
  rw [String.toList_append, String.toList_append, List.append_assoc, String.toList_singleton,
    List.singleton_append, Nesting.after_cons]
  exact Nesting.after_append_of_eq (hd.after_escaped s depth)

/-- What stands between parentheses. -/
theorem balanced_parenthesized (hd : d.Customized) (h : ∀ step ∈ steps, step.Balanced) :
    (seq (writeChar d.leftParen :: steps ++ [writeChar d.rightParen])).Balanced := by
  intro depth
  have hleft : (writeChar d.leftParen).Leads ⟨depth, false⟩ ⟨depth + 1, false⟩ := by
    rw [hd.leftParen_eq]
    exact leads_writeChar rfl
  have hright : (writeChar d.rightParen).Leads ⟨depth + 1, false⟩ ⟨depth, false⟩ := by
    rw [hd.rightParen_eq]
    exact leads_writeChar rfl
  exact leads_seq_append (hleft.cons (balanced_seq h _)) (hright.cons leads_nil)

theorem balanced_commaSeparated (hd : d.Customized) (h : ∀ item ∈ items, item.Balanced) :
    (commaSeparated d items).Balanced := by
  have hcomma : (writeChar d.comma).Balanced := balanced_writeChar (hd.mark (by simp))
  exact balanced_separated (balanced_seq (by simp [hcomma, balanced_space hd])) h

theorem balanced_tuple (hd : d.Customized) (h : ∀ item ∈ items, item.Balanced) :
    (tuple d items).Balanced :=
  balanced_parenthesized hd (List.forall_mem_singleton.mpr (balanced_commaSeparated hd h))

/-- An operand, an operator between spaces, and the other operand. -/
theorem balanced_operands (hd : d.Customized) {text : String} (ht : BracketFree text)
    (hl : lhs.Balanced) (hr : rhs.Balanced) :
    ∀ step ∈ [lhs, writeChar d.space, write text, writeChar d.space, rhs], step.Balanced := by
  simp [hl, hr, balanced_write_of_not_isBracket ht, balanced_space hd]

theorem balanced_compare (hd : d.Customized) (op : Comparison) (hl : lhs.Balanced)
    (hr : rhs.Balanced) : (compare d op lhs rhs).Balanced := by
  unfold compare
  cases h : d.comparison op with
  | none => exact balanced_fail _
  | some text =>
    exact balanced_parenthesized hd (balanced_operands hd (hd.comparison h) hl hr)

theorem balanced_compute (hd : d.Customized) (op : Arithmetic) (hl : lhs.Balanced)
    (hr : rhs.Balanced) : (compute d op lhs rhs).Balanced := by
  unfold compute
  cases h : d.arithmetic op with
  | none => exact balanced_fail _
  | some text =>
    have htext := balanced_write_of_not_isBracket (hd.arithmetic h)
    exact balanced_seq (by simp [hl, hr, htext])

theorem balanced_range (hd : d.Customized) (test : RangeTest) (hl : lhs.Balanced)
    (ha : start.Balanced) (hb : stop.Balanced) : (range d test lhs start stop).Balanced := by
  unfold range
  cases hlower : d.comparison test.comparisons.1 with
  | none => exact balanced_fail _
  | some lower =>
    cases hupper : d.comparison test.comparisons.2 with
    | none => exact balanced_fail _
    | some upper =>
      have hand := balanced_keyword hd (s := d.conjunction) (by simp [Dialect.keywords])
      have hfirst := balanced_operands hd (hd.comparison hlower) hl ha
      have hsecond := balanced_operands hd (hd.comparison hupper) hl hb
      exact balanced_parenthesized hd
        (List.forall_mem_append.mpr ⟨hfirst, List.forall_mem_cons.mpr ⟨hand, hsecond⟩⟩)

/-- The parentheses stand around two items or more, and each of these closes what it opens. -/
theorem balanced_junction (hd : d.Customized) (op : Connective)
    (h : ∀ item ∈ items, item.Balanced) : (junction d op items).Balanced := by
  have hop : d.connective op ∈ d.keywords := by
    cases op <;> simp [Dialect.connective, Dialect.keywords]
  have hseparated := balanced_separated (balanced_keyword hd hop) h
  rcases items with _ | ⟨item, _ | ⟨item', items⟩⟩
  · exact balanced_skip
  · exact h item (List.mem_singleton.mpr rfl)
  · exact balanced_parenthesized hd (List.forall_mem_singleton.mpr hseparated)

/-- What takes the place of a `?` closes all that it opens, so the scan goes on as if it were not
there. -/
theorem leads_substitute {n m : Nesting} {cs : List Char} (hn : n.quoted = false)
    (hcs : '\'' ∉ cs) (h : ∀ arg ∈ args, arg.Balanced) (hafter : n.after cs = some m) :
    (substitute cs args).Leads n m := by
  induction cs generalizing n args with
  | nil =>
    cases hafter
    exact leads_skip
  | cons c cs ih =>
    have hc := (List.ne_of_not_mem_cons hcs).symm
    have hrest := List.not_mem_of_not_mem_cons hcs
    obtain ⟨k, hk, hm⟩ := Option.bind_eq_some_iff.mp hafter
    have hkn := Nesting.quoted_of_next hn hc hk
    cases args with
    | nil => exact (leads_writeChar hk).cons ((ih hkn hrest h hm).cons leads_nil)
    | cons arg args =>
      obtain ⟨harg, hargs⟩ := List.forall_mem_cons.mp h
      rw [substitute]
      split
      · rename_i hmark
        subst hmark
        -- The scan of the text stands still at the mark.
        cases hk.symm.trans (Nesting.next_of_not_isBracket (n := n) rfl)
        obtain ⟨depth, quoted⟩ := n
        cases hn
        exact (harg depth).cons ((ih rfl hrest hargs hm).cons leads_nil)
      · exact (leads_writeChar hk).cons ((ih hkn hrest h hm).cons leads_nil)

end Step

/-- What stands in the place of the column, as long as it can be written. -/
def Column.text : Column → String
  | .none => ""
  | .name s => s
  | .literal l => l.sql
  | .other _ => ""

/-- The texts of an identifier, without the periods between them. -/
def Identifier.texts (i : Identifier) : String := i.schema ++ i.table ++ i.column.text

namespace Step

variable {d : Dialect} {args : List Step}

/-- One part of an identifier may close what another one opens. -/
theorem balanced_identifier (hd : d.Customized) {i : Identifier} (hi : SelfContained i.texts)
    (h : ∀ l, i.column = .literal l → ∀ n m : Nesting, n.quoted = false →
      n.after l.sql.toList = some m → (substitute l.sql.toList args).Leads n m) :
    (identifier d i args).Balanced := by
  obtain ⟨hquote, hbracketed⟩ := hi
  unfold identifier
  refine balanced_ite (balanced_fail _) fun depth => ?_
  have hafter := hbracketed.after_eq depth
  rw [Identifier.texts, String.toList_append, String.toList_append, Nesting.after_append] at hafter
  obtain ⟨n, hn, hcolumn⟩ := Option.bind_eq_some_iff.mp hafter
  rw [Nesting.after_append] at hn
  obtain ⟨k, hschema, htable⟩ := Option.bind_eq_some_iff.mp hn
  simp only [Identifier.texts, String.toList_append, List.mem_append, not_or] at hquote
  -- Each part is left outside of literals, but maybe with other parentheses open than before.
  have hkn := Nesting.quoted_of_after rfl hquote.1.1 hschema
  have hnn := Nesting.quoted_of_after hkn hquote.1.2 htable
  have hperiod (n : Nesting) : (writeChar d.period).Leads n n :=
    leads_writeChar (Nesting.next_of_not_isBracket (hd.mark (by simp)))
  have hschemaPeriod := leads_ite (p := i.schema.isEmpty || i.table.isEmpty) (n := k) leads_skip
    (hperiod k)
  have hcolumnPeriod := leads_ite (p := !(i.schema.isEmpty && i.table.isEmpty)) (hperiod n)
    leads_skip
  refine (leads_write hschema).cons (hschemaPeriod.cons ((leads_write htable).cons
    (Leads.cons ?_ leads_nil)))
  cases hc : i.column with
  | none =>
    rw [hc] at hcolumn
    cases hcolumn
    exact leads_skip
  | name s =>
    rw [hc] at hcolumn
    by_cases hs : s = ""
    · subst hs
      cases hcolumn
      exact leads_skip
    · have hname := hcolumnPeriod.cons ((leads_write (s := s) hcolumn).cons leads_nil)
      simpa [hs] using hname
  | literal l =>
    rw [hc] at hcolumn
    exact hcolumnPeriod.cons ((h l hc n _ hnn hcolumn).cons leads_nil)
  | other e => exact leads_fail _

end Step

/-- The periods between the parts of a name are nothing to the scan. -/
theorem Nesting.after_flatten_splitAt {n : Nesting} (cs : List Char) :
    n.after (Text.splitAt '.' cs).flatten = n.after cs := by
  rw [Text.flatten_splitAt]
  induction cs generalizing n with
  | nil => rfl
  | cons c cs ih =>
    rw [Nesting.after_cons]
    by_cases hc : c = '.'
    · subst hc
      rw [List.filter_cons_of_neg (by simp), Nesting.next_of_not_isBracket rfl]
      exact ih
    · rw [List.filter_cons_of_pos (by simpa using hc), Nesting.after_cons]
      cases n.next c with
      | none => rfl
      | some n' => exact ih

theorem Column.text_ofName (s : String) : (Column.ofName s).text = s := by
  unfold ofName
  split
  · rename_i hs
    rw [hs]
    rfl
  · rfl

/-- The parts of a name are the name without its periods, or the name as it is. -/
theorem Identifier.texts_parse (name : String) :
    (Identifier.parse name).texts.toList = (Text.splitAt '.' name.toList).flatten ∨
      (Identifier.parse name).texts = name := by
  have hpieces : ∀ parts, (Text.splitAt '.' name.toList).map String.ofList = parts →
      (Text.splitAt '.' name.toList).flatten = (parts.map String.toList).flatten := by
    rintro parts rfl
    simp
  unfold parse
  split
  · rename_i table column h
    simp [texts, Column.text_ofName, hpieces _ h]
  · rename_i schema table column h
    simp [texts, Column.text_ofName, hpieces _ h]
  · simp [texts, ofColumn, Column.text_ofName]

/-- The parts of a parsed name open and close what the name does. -/
theorem SelfContained.texts_parse {name : String} (h : SelfContained name) :
    SelfContained (Identifier.parse name).texts := by
  rcases Identifier.texts_parse name with htexts | htexts
  · refine ⟨fun hmem => ?_, ?_⟩
    · rw [htexts] at hmem
      obtain ⟨piece, hpiece, hmem⟩ := List.mem_flatten.mp hmem
      exact h.1 (Text.mem_of_mem_splitAt piece hpiece _ hmem).1
    · rw [WellBracketed, htexts, Nesting.after_flatten_splitAt]
      exact h.2
  · rw [htexts]
    exact h

theorem SelfContained.append {s t : String} (hs : SelfContained s) (ht : SelfContained t) :
    SelfContained (s ++ t) := by
  refine ⟨?_, ?_⟩
  · rw [String.toList_append, List.mem_append, not_or]
    exact ⟨hs.1, ht.1⟩
  · rw [WellBracketed, String.toList_append, Nesting.after_append_of_eq hs.2]
    exact ht.2

/-- Parts that close what they open do so together. -/
theorem selfContained_texts {i : Identifier} (h : ∀ s ∈ i.rawTexts, SelfContained s) :
    SelfContained i.texts := by
  obtain ⟨schema, table, column⟩ := i
  obtain ⟨hschema, htable, hcolumn⟩ :
      SelfContained schema ∧ SelfContained table ∧ ∀ s ∈ column.rawTexts, SelfContained s := by
    simpa [Identifier.rawTexts] using h
  have hempty : SelfContained "" := ⟨by decide, by decide⟩
  refine (hschema.append htable).append ?_
  cases column with
  | none => exact hempty
  | name s => exact hcolumn s (List.mem_singleton.mpr rfl)
  | literal l =>
    obtain ⟨sql, args⟩ := l
    exact hcolumn sql List.mem_cons_self
  | other e => exact hempty

theorem Step.balanced_named {d : Dialect} (hd : d.Customized) {name : String}
    (h : SelfContained name) : (named d name).Balanced := by
  refine balanced_identifier hd h.texts_parse fun l hl n m hn hafter => ?_
  refine leads_substitute hn ?_ (List.forall_mem_nil _) hafter
  intro hquote
  have hmem : '\'' ∈ (Identifier.parse name).texts.toList := by
    simp [Identifier.texts, hl, Column.text, hquote]
  exact h.texts_parse.1 hmem

/-- A statement part whose raw texts are self-contained is balanced. -/
theorem balanced_of_selfContained {d : Dialect} (hd : d.Customized) :
    Compositional
      (fun v => (∀ s ∈ v.rawTexts, SelfContained s) → (v.render d).Balanced)
      (fun e => (∀ s ∈ e.rawTexts, SelfContained s) → (e.render d).Balanced) where
  null _ := balanced_keyword hd (by simp [Dialect.keywords])
  bool _ _ := balanced_fail _
  int n _ := balanced_numeric (isNumeric_of_mem_toString n.toInt)
  uint n _ := balanced_numeric (isNumeric_of_mem_toString n.toNat)
  float x _ := balanced_float x
  string s _ := balanced_quoted hd s
  bytes bs _ := balanced_quoted hd _
  list vs h hraw := by
    rw [Value.rawTexts, Value.rawTextsAll_eq_flatMap, List.forall_mem_flatMap] at hraw
    rw [Value.render, Value.renderAll_eq_map]
    exact balanced_tuple hd (List.forall_mem_map.mpr fun v hv => h v hv (hraw v hv))
  expr _ h hraw := h hraw
  ident i h _ hraw := by
    rw [Expr.render, Identifier.render_eq]
    refine balanced_identifier hd (selfContained_texts hraw) fun l hl n m hn hafter => ?_
    have hlraw : ∀ s ∈ (Expr.literal l).rawTexts, SelfContained s := fun s hs =>
      hraw s (Literal.rawTexts_subset_of_column hl hs)
    have hsql : SelfContained l.sql := by
      cases l
      exact hlraw _ List.mem_cons_self
    obtain ⟨depth, quoted⟩ := n
    cases hn
    cases hafter.symm.trans (hsql.2.after_eq depth)
    rw [Literal.render_of_column d hl]
    exact h _ hl hlraw depth
  literal l h hraw := by
    obtain ⟨sql, args⟩ := l
    rw [Expr.rawTexts, Literal.rawTexts, Value.rawTextsAll_eq_flatMap, List.forall_mem_cons,
      List.forall_mem_flatMap] at hraw
    obtain ⟨hsql, hargs⟩ := hraw
    rw [Expr.render, Literal.render, Value.renderAll_eq_map]
    have hbalanced := List.forall_mem_map.mpr fun v hv => h v hv (hargs v hv)
    exact fun depth => leads_substitute rfl hsql.1 hbalanced (hsql.2.after_eq depth)
  compare op _ _ hl hr hraw := by
    obtain ⟨hlraw, hrraw⟩ := List.forall_mem_append.mp hraw
    exact balanced_compare hd op (hl hlraw) (hr hrraw)
  compute op _ _ hl hr hraw := by
    obtain ⟨hlraw, hrraw⟩ := List.forall_mem_append.mp hraw
    exact balanced_compute hd op (hl hlraw) (hr hrraw)
  range test _ _ _ hl ha hb hraw := by
    obtain ⟨hfirst, hbraw⟩ := List.forall_mem_append.mp hraw
    obtain ⟨hlraw, haraw⟩ := List.forall_mem_append.mp hfirst
    exact balanced_range hd test (hl hlraw) (ha haraw) (hb hbraw)
  ordered e dir h hraw := by
    have hdir : d.direction dir ∈ d.keywords := by
      cases dir <;> simp [Dialect.direction, Dialect.keywords]
    rw [Expr.render]
    exact balanced_seq (by simp [h hraw, balanced_keyword hd hdir])
  aliased e name h hname hraw := by
    obtain ⟨heraw, hnraw⟩ := List.forall_mem_append.mp hraw
    have hname : (name.render d).Balanced := hname hnraw
    have haliasing := balanced_keyword hd (s := d.aliasing) (by simp [Dialect.keywords])
    rw [Expr.render]
    exact balanced_seq (by simp [h heraw, hname, haliasing])
  call function args h hraw := by
    rw [Expr.rawTexts, Value.rawTextsAll_eq_flatMap, List.forall_mem_cons,
      List.forall_mem_flatMap] at hraw
    obtain ⟨hfunction, hargs⟩ := hraw
    rw [Expr.render, Value.renderAll_eq_map]
    have htuple := balanced_tuple hd (List.forall_mem_map.mpr fun v hv => h v hv (hargs v hv))
    exact balanced_seq (by simp [balanced_write hfunction.2, htuple])
  junction op items h hraw := by
    rw [Expr.rawTexts, Expr.rawTextsAll_eq_flatMap, List.forall_mem_flatMap] at hraw
    rw [Expr.render, Expr.renderAll_eq_map]
    exact balanced_junction hd op (List.forall_mem_map.mpr fun e he => h e he (hraw e he))
  columns cols h hraw := by
    rw [Expr.rawTexts, Expr.rawTextsAll_eq_flatMap, List.forall_mem_flatMap] at hraw
    rw [Expr.render, Expr.renderAll_eq_map]
    exact balanced_commaSeparated hd (List.forall_mem_map.mpr fun e he => h e he (hraw e he))
  conditions op entries h hraw := by
    rw [Expr.render_conditions]
    cases he : Expr.ofEntries op entries with
    | error e => exact balanced_fail e
    | ok e =>
      refine Condition.ofEntries_of_forall (Q := fun e => (e.render d).Balanced) ?_ ?_ he
      · intro entry hentry v hv o
        have hcolumn : SelfContained entry.1 :=
          hraw _ (Condition.mem_rawTextsAll.mpr ⟨entry, hentry, .inl rfl⟩)
        have hvalue : ∀ s ∈ v.rawTexts, SelfContained s := fun s hs =>
          hraw s (Condition.mem_rawTextsAll.mpr
            ⟨entry, hentry, .inr (Condition.mem_rawTexts.mpr ⟨v, hv, hs⟩)⟩)
        rw [Expr.render, Expr.render_ofName]
        exact balanced_compare hd o (balanced_named hd hcolumn) (h entry hentry v hv hvalue)
      · intro o es hes
        rw [Expr.join, Expr.render, Expr.renderAll_eq_map]
        refine balanced_junction hd o (List.forall_mem_map.mpr fun e he => ?_)
        exact hes e (List.mem_filter.mp he).1

theorem Expr.balanced_renderAll {d : Dialect} (hd : d.Customized) {es : List Expr}
    (h : ∀ s ∈ Expr.rawTextsAll es, SelfContained s) :
    ∀ step ∈ Expr.renderAll d es, step.Balanced := by
  rw [Expr.rawTextsAll_eq_flatMap, List.forall_mem_flatMap] at h
  rw [Expr.renderAll_eq_map]
  exact List.forall_mem_map.mpr fun e he => (balanced_of_selfContained hd).all_exprs e (h e he)

theorem Fill.balanced_render {d : Dialect} (hd : d.Customized) {fill : Fill}
    (h : ∀ s ∈ fill.rawTexts, SelfContained s) : (fill.render d).Balanced := by
  have hkeyword : BracketFree "VALUE, " := bracketFree_of_all (by decide)
  cases fill with
  | text s => exact balanced_write (h s (List.mem_singleton.mpr rfl)).2
  | int n =>
    refine balanced_write_of_not_isBracket fun c hc => ?_
    rw [String.toList_append] at hc
    rcases List.mem_append.mp hc with hc | hc
    · exact hkeyword c hc
    · exact isBracket_of_isNumeric (isNumeric_of_mem_toString n.toInt c hc)
  | float x =>
    exact balanced_seq (by simp [balanced_write_of_not_isBracket hkeyword, balanced_float x])
  | value v => exact (balanced_of_selfContained hd).all_values v h

namespace Clauses

variable {d : Dialect}

theorem balanced_renderColumns (hd : d.Customized) {keyword : Step} {cols : List Expr}
    (hk : keyword.Balanced) (h : ∀ s ∈ Expr.rawTextsAll cols, SelfContained s) :
    (renderColumns d keyword cols).Balanced := by
  have hcols := balanced_commaSeparated hd (Expr.balanced_renderAll hd h)
  exact balanced_ite balanced_skip (balanced_seq (by simp [hk, hcols]))

theorem balanced_renderArgument (hd : d.Customized) {keyword : String} {argument : Step}
    (hk : keyword ∈ d.keywords) (h : argument.Balanced) :
    (renderArgument d keyword argument).Balanced := by
  intro depth
  have hargument := balanced_parenthesized hd (List.forall_mem_singleton.mpr h) depth
  exact (balanced_keyword hd hk depth).cons hargument

/-- Every fragment closes what it opens, so their order does not matter. -/
theorem balanced_renderFragment (hd : d.Customized) {c : Clauses}
    (hc : ∀ s ∈ c.rawTexts, SelfContained s) (fragment : Fragment) :
    (c.renderFragment d fragment).Balanced := by
  simp only [rawTexts, List.forall_mem_append] at hc
  obtain ⟨⟨⟨⟨⟨⟨⟨hselect, hsource⟩, hconditions⟩, horder⟩, hpartition⟩, hgroup⟩, hfill⟩,
    hinterval⟩ := hc
  have hkeyword {s : String} (h : s ∈ d.keywords) := balanced_keyword hd h
  have hspace := balanced_space hd
  have hnumber (n : UInt64) : ((Value.uint n).render d).Balanced :=
    balanced_numeric (isNumeric_of_mem_toString n.toNat)
  cases fragment with
  | select =>
    have hstar : (writeChar d.star).Balanced := balanced_writeChar (hd.mark (by simp))
    have hcols := balanced_commaSeparated hd (Expr.balanced_renderAll hd hselect)
    have hselect := hkeyword (s := d.select) (by simp [Dialect.keywords])
    exact balanced_seq (by simp [hselect, hspace, balanced_ite hstar hcols])
  | source =>
    have hsourceKeyword := hkeyword (s := d.source) (by simp [Dialect.keywords])
    exact balanced_renderColumns hd (balanced_seq (by simp [hsourceKeyword, hspace])) hsource
  | filter =>
    have hitems := balanced_junction hd .and (Expr.balanced_renderAll hd hconditions)
    have hfilter := hkeyword (s := d.filter) (by simp [Dialect.keywords])
    exact balanced_ite balanced_skip (balanced_seq (by simp [hfilter, hitems]))
  | partitionBy =>
    exact balanced_renderColumns hd (hkeyword (by simp [Dialect.keywords])) hpartition
  | groupBy => exact balanced_renderColumns hd (hkeyword (by simp [Dialect.keywords])) hgroup
  | order => exact balanced_renderColumns hd (hkeyword (by simp [Dialect.keywords])) horder
  | interval =>
    have hwrite := balanced_write (hinterval c.interval (List.mem_singleton.mpr rfl)).2
    exact balanced_ite balanced_skip
      (balanced_renderArgument hd (by simp [Dialect.keywords]) hwrite)
  | fill =>
    unfold renderFragment renderFill
    cases h : c.fill with
    | none => exact balanced_skip
    | some fill =>
      have hfill : ∀ s ∈ fill.rawTexts, SelfContained s := by simpa [h] using hfill
      exact balanced_renderArgument hd (by simp [Dialect.keywords]) (fill.balanced_render hd hfill)
  | limit =>
    unfold renderFragment renderLimit
    have hlimit := hkeyword (s := d.limit) (by simp [Dialect.keywords])
    cases c.limit with
    | none => exact balanced_skip
    | some limit => exact balanced_seq (by simp [hlimit, hnumber])
  | offset =>
    have hoffset := hkeyword (s := d.offset) (by simp [Dialect.keywords])
    exact balanced_ite balanced_skip (balanced_seq (by simp [hoffset, hnumber]))
  | timezone =>
    unfold renderFragment renderTimezone
    cases h : d.timezone with
    | none => exact balanced_skip
    | some keyword =>
      have hkeyword : keyword ∈ d.keywords := by simp [Dialect.keywords, h]
      exact balanced_ite balanced_skip
        (balanced_renderArgument hd hkeyword (balanced_quoted hd c.timezone))
  | commonTable | join | having | compounds | locking => exact balanced_fail _

theorem balanced_render (hd : d.Customized) {c : Clauses}
    (hc : ∀ s ∈ c.rawTexts, SelfContained s) : (c.render d).Balanced :=
  balanced_seq (List.forall_mem_map.mpr fun fragment _ => balanced_renderFragment hd hc fragment)

/-- A statement is well-bracketed when the raw texts in it are. Its strings, its bytes and its time
zone may hold any quotes and parentheses. -/
theorem wellBracketed_sql {c : Clauses} {t : String} (hd : d.Customized)
    (hc : ∀ s ∈ c.rawTexts, SelfContained s) (h : c.sql d = .ok t) : WellBracketed t :=
  (balanced_render hd hc).wellBracketed h

/-- A name of which each part alone has a parenthesis too many, among strings that have quotes and
parentheses in them. -/
theorem wellBracketed_sql_name_in_parts :
    let d := ((Dialect.timeSeries.withTimezone " TZ").withComparison .like "LIKE").withSelectOrder
      [.filter, .select, .fill, .timezone]
    let c : Clauses :=
      { conditions :=
          [.conditions .and [("max(t.a)", .tests [("LT", .string "it's (")])],
            .compare .like (.literal ⟨"lower(?)", [.string ")'"]⟩) (.list [.bytes [0x29], .null])]
        fill := some (.value (.string "')"))
        timezone := "(" }
    let t := " WHERE ((max(t.a) < 'it''s (') AND (lower(')''') LIKE (')', NULL)))" ++
      "SELECT * FILL(''')') TZ('(')"
    d.Customized ∧ (∀ s ∈ c.rawTexts, SelfContained s) ∧ c.sql d = .ok t ∧ WellBracketed t := by
  intro d c t
  have hd : d.Customized := by
    refine ⟨rfl, ?_, ?_, ?_⟩
    · intro op text h
      apply bracketFree_of_all
      cases op <;> cases h <;> decide
    · intro op text h
      apply bracketFree_of_all
      cases op <;> cases h <;> decide
    · intro text h
      cases h
      exact bracketFree_of_all (by decide)
  have hc : ∀ s ∈ c.rawTexts, SelfContained s := by
    unfold SelfContained
    decide +kernel
  have ht : c.sql d = .ok t := by decide +kernel
  exact ⟨hd, hc, ht, wellBracketed_sql hd hc ht⟩

end Clauses

end SeriesQuery
