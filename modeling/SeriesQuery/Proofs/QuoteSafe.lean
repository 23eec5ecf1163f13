import SeriesQuery.Proofs.Skeleton

/-! Dialects in which no string can end the literal that it is written in, and the pieces of a
statement in such a dialect: their skeletons do not depend on the strings in them. -/

namespace SeriesQuery

namespace Dialect

/-- The keywords that a select statement is written with. -/
def keywords (d : Dialect) : List String :=
  [d.select, d.source, d.filter, d.partitionBy, d.groupBy, d.interval, d.fill, d.orderBy, d.limit,
    d.offset, d.aliasing, d.ascending, d.descending, d.conjunction, d.disjunction, d.null] ++
    d.timezone.toList

def punctuation (d : Dialect) : List Char :=
  [d.leftParen, d.rightParen, d.star, d.period, d.space, d.comma]

/-- The quote is doubled inside of literals, and outside of them only the texts that a query
brings along could have it. -/
structure QuoteSafe (d : Dialect) : Prop where
  not_alphanum : ¬ d.quote.isAlphanum
  not_mark : d.quote ∉ [' ', '-', '.', ',']
  escape_quote : d.escape d.quote = some (String.ofList [d.quote, d.quote])
  escape_other {c : Char} {text : String} :
    c ≠ d.quote → d.escape c = some text → d.quote ∉ text.toList
  keyword {s : String} : s ∈ d.keywords → d.quote ∉ s.toList
  punctuation : d.quote ∉ d.punctuation
  comparison {op : Comparison} {text : String} :
    d.comparison op = some text → d.quote ∉ text.toList
  arithmetic {op : Arithmetic} {text : String} :
    d.arithmetic op = some text → d.quote ∉ text.toList

namespace QuoteSafe

variable {d : Dialect}

theorem not_mem (hd : d.QuoteSafe) {cs : List Char}
    (h : cs.all fun c => c.isAlphanum || [' ', '-', '.', ','].contains c) : d.quote ∉ cs := by
  intro hmem
  have hc := List.all_eq_true.mp h _ hmem
  rcases Bool.or_eq_true_iff.mp hc with hc | hc
  · exact hd.not_alphanum hc
  · exact hd.not_mark (List.contains_iff_mem.mp hc)

theorem not_mem_of_isNumeric (hd : d.QuoteSafe) {cs : List Char}
    (h : ∀ c ∈ cs, isNumeric c) : d.quote ∉ cs := by
  refine hd.not_mem (List.all_eq_true.mpr fun c hc => ?_)
  have hnumeric := h c hc
  simp only [isNumeric, Bool.or_eq_true, beq_iff_eq] at hnumeric
  rcases hnumeric with (hdigit | rfl) | rfl
  · simp [Char.isAlphanum, hdigit]
  · rfl
  · rfl

/-- Each quote of a string is written as two, and nothing else is written with a quote in it. -/
theorem doubled_escaped (hd : d.QuoteSafe) (s : String) :
    Doubled d.quote (d.escaped s).toList := by
  rw [escaped, String.toList_join]
  induction s.toList with
  | nil => exact .nil
  | cons c cs ih =>
    rw [List.map_cons, List.flatMap_cons]
    refine Doubled.append ?_ ih
    by_cases hc : c = d.quote
    · subst hc
      rw [hd.escape_quote]
      simpa using Doubled.quote .nil
    · cases h : d.escape c with
      | none => simpa using Doubled.plain hc .nil
      | some text => exact .of_not_mem (hd.escape_other hc h)

end QuoteSafe

theorem quoteSafe_timeSeries : timeSeries.QuoteSafe where
  not_alphanum := by decide
  not_mark := by decide
  escape_quote := rfl
  escape_other := by
    intro c text hc h
    have hc : c ≠ '\'' := hc
    simp [timeSeries, hc] at h
  keyword := by
    intro s hs
    revert s
    decide +kernel
  punctuation := by decide
  comparison := by
    intro op text h
    cases op <;> cases h <;> decide
  arithmetic := by
    intro op text h
    cases op <;> cases h <;> decide

end Dialect

namespace Step

variable {d : Dialect} {step step' other other' lhs lhs' rhs rhs' start start' stop stop' : Step}
  {items items' args args' : List Step}

theorem alike_keyword (hd : d.QuoteSafe) {s : String} (h : s ∈ d.keywords) :
    (write s).Alike d.quote (write s) :=
  alike_write (hd.keyword h)

theorem alike_mark (hd : d.QuoteSafe) {c : Char} (h : c ∈ d.punctuation) :
    (writeChar c).Alike d.quote (writeChar c) :=
  alike_writeChar fun hc => hd.punctuation (hc ▸ h)

theorem alike_numeric (hd : d.QuoteSafe) {s : String} (h : ∀ c ∈ s.toList, isNumeric c) :
    (write s).Alike d.quote (write s) :=
  alike_write (hd.not_mem_of_isNumeric h)

/-- Whatever the two strings are, they are read as one literal each. -/
theorem alike_quoted (hd : d.QuoteSafe) (s t : String) :
    (quoted d s).Alike d.quote (quoted d t) := by
  rw [quoted_eq_write, quoted_eq_write]
  apply alike_write_of_similar
  simpa using Similar.literal (hd.doubled_escaped s) (hd.doubled_escaped t) .nil

theorem alike_float (hd : d.QuoteSafe) (x : Binary64) : (float x).Alike d.quote (float x) :=
  alike_ite (alike_numeric hd x.isNumeric_of_mem_decimalText) (alike_fail _)

theorem alike_substitute {q : Char} {cs : List Char} (hcs : q ∉ cs)
    (h : List.Forall₂ (Alike q) args args') :
    (substitute cs args).Alike q (substitute cs args') := by
  induction cs generalizing args args' with
  | nil => simp [substitute]
  | cons c cs ih =>
    have hc := alike_writeChar (List.ne_of_not_mem_cons hcs).symm
    have hrest := List.not_mem_of_not_mem_cons hcs
    cases h with
    | nil => exact alike_seq (.cons hc (.cons (ih hrest .nil) .nil))
    | cons harg hargs =>
      exact alike_ite (alike_seq (.cons harg (.cons (ih hrest hargs) .nil)))
        (alike_seq (.cons hc (.cons (ih hrest (.cons harg hargs)) .nil)))

theorem alike_separated {q : Char} (hs : step.Alike q step')
    (h : List.Forall₂ (Alike q) items items') :
    (separated step items).Alike q (separated step' items') :=
  alike_seq (forall₂_intersperse hs h)

theorem alike_commaSeparated (hd : d.QuoteSafe)
    (h : List.Forall₂ (Alike d.quote) items items') :
    (commaSeparated d items).Alike d.quote (commaSeparated d items') := by
  have hcomma := alike_mark hd (c := d.comma) (by simp [Dialect.punctuation])
  have hspace := alike_mark hd (c := d.space) (by simp [Dialect.punctuation])
  exact alike_separated (alike_seq (.cons hcomma (.cons hspace .nil))) h

/-- What stands between parentheses. -/
theorem alike_parenthesized (hd : d.QuoteSafe) {steps steps' : List Step}
    (h : List.Forall₂ (Alike d.quote) steps steps') :
    (seq (writeChar d.leftParen :: steps ++ [writeChar d.rightParen])).Alike d.quote
      (seq (writeChar d.leftParen :: steps' ++ [writeChar d.rightParen])) := by
  have hleft := alike_mark hd (c := d.leftParen) (by simp [Dialect.punctuation])
  have hright := alike_mark hd (c := d.rightParen) (by simp [Dialect.punctuation])
  exact alike_seq (List.rel_append (.cons hleft h) (.cons hright .nil))

theorem alike_tuple (hd : d.QuoteSafe) (h : List.Forall₂ (Alike d.quote) items items') :
    (tuple d items).Alike d.quote (tuple d items') :=
  alike_parenthesized hd (.cons (alike_commaSeparated hd h) .nil)

/-- An operand, an operator between spaces, and the other operand. -/
theorem alike_operands (hd : d.QuoteSafe) {text : String} (ht : d.quote ∉ text.toList)
    (hl : lhs.Alike d.quote lhs') (hr : rhs.Alike d.quote rhs') :
    List.Forall₂ (Alike d.quote)
      [lhs, writeChar d.space, write text, writeChar d.space, rhs]
      [lhs', writeChar d.space, write text, writeChar d.space, rhs'] := by
  have hspace := alike_mark hd (c := d.space) (by simp [Dialect.punctuation])
  exact .cons hl (.cons hspace (.cons (alike_write ht) (.cons hspace (.cons hr .nil))))

theorem alike_compare (hd : d.QuoteSafe) (op : Comparison) (hl : lhs.Alike d.quote lhs')
    (hr : rhs.Alike d.quote rhs') :
    (compare d op lhs rhs).Alike d.quote (compare d op lhs' rhs') := by
  unfold compare
  cases h : d.comparison op with
  | none => exact alike_fail _
  | some text => exact alike_parenthesized hd (alike_operands hd (hd.comparison h) hl hr)

theorem alike_compute (hd : d.QuoteSafe) (op : Arithmetic) (hl : lhs.Alike d.quote lhs')
    (hr : rhs.Alike d.quote rhs') :
    (compute d op lhs rhs).Alike d.quote (compute d op lhs' rhs') := by
  unfold compute
  cases h : d.arithmetic op with
  | none => exact alike_fail _
  | some text => exact alike_seq (.cons hl (.cons (alike_write (hd.arithmetic h)) (.cons hr .nil)))

theorem alike_range (hd : d.QuoteSafe) (test : RangeTest) (hl : lhs.Alike d.quote lhs')
    (ha : start.Alike d.quote start') (hb : stop.Alike d.quote stop') :
    (range d test lhs start stop).Alike d.quote (range d test lhs' start' stop') := by
  unfold range
  cases hlower : d.comparison test.comparisons.1 with
  | none => exact alike_fail _
  | some lower =>
    cases hupper : d.comparison test.comparisons.2 with
    | none => exact alike_fail _
    | some upper =>
      have hand := alike_keyword hd (s := d.conjunction) (by simp [Dialect.keywords])
      have hfirst := alike_operands hd (hd.comparison hlower) hl ha
      have hsecond := alike_operands hd (hd.comparison hupper) hl hb
      exact alike_parenthesized hd (List.rel_append hfirst (.cons hand hsecond))

theorem alike_junction (hd : d.QuoteSafe) (op : Connective)
    (h : List.Forall₂ (Alike d.quote) items items') :
    (junction d op items).Alike d.quote (junction d op items') := by
  cases h with
  | nil => exact alike_skip
  | cons hitem hitems =>
    cases hitems with
    | nil => exact hitem
    | cons hitem' hitems =>
      have hop : d.connective op ∈ d.keywords := by
        cases op <;> simp [Dialect.connective, Dialect.keywords]
      have hseparated := alike_separated (alike_keyword hd hop)
        (.cons hitem (.cons hitem' hitems))
      exact alike_parenthesized hd (.cons hseparated .nil)

end Step

end SeriesQuery
