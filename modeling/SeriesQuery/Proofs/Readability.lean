import SeriesQuery.Proofs.ConditionTokens

/-! The text of a condition can be read in one way only: it determines the normal form. -/

namespace SeriesQuery

variable {ts : List Token}

/-- Tokens that can come after a bare word. -/
def Marked (ts : List Token) : Prop := Lexical ts ∧ ∃ c us, ts = .mark c :: us

theorem Lexical.marked {c : Char} (hc : isMark c) (h : Lexical ts) : Marked (.mark c :: ts) :=
  ⟨.mark hc h, c, ts, rfl⟩

theorem Marked.bare {w : String} (hw : IsBareWord w) (h : Marked ts) :
    Lexical (.bare w :: ts) := by
  obtain ⟨hts, c, us, rfl⟩ := h
  exact .bare hw hts

theorem Marked.quoted {s : String} (h : Marked ts) : Lexical (.quoted s :: ts) := by
  obtain ⟨hts, c, us, rfl⟩ := h
  exact .quoted hts

theorem IsWord.isBareWord {w : String} (h : IsWord w) : IsBareWord w :=
  ⟨h.1, fun c hc => isBare_of_isWordChar (h.2 c hc)⟩

theorem isBareWord_toString (n : Int) : IsBareWord (toString n) :=
  ⟨toString_int_ne_empty n, fun c hc => isBare_of_isNumeric (isNumeric_of_mem_toString n c hc)⟩

/-- The operators of the time series dialect are written with bare words, no two with the same. -/
theorem Comparison.isBareWord_text {op : Comparison}
    (h : (Dialect.timeSeries.comparison op).isSome) : IsBareWord op.text := by
  have hall : ∀ op ∈ all, (Dialect.timeSeries.comparison op).isSome →
      op.text ≠ "" ∧ op.text.toList.all isBare := by decide +kernel
  obtain ⟨hne, hbare⟩ := hall op op.mem_all h
  exact ⟨hne, List.all_eq_true.mp hbare⟩

/-- No two operators of the dialect have the same text. -/
theorem Comparison.text_inj {op op' : Comparison} (h : (Dialect.timeSeries.comparison op).isSome)
    (h' : (Dialect.timeSeries.comparison op').isSome) (heq : op.text = op'.text) : op = op' := by
  have hall : ∀ op ∈ all, ∀ op' ∈ all, (Dialect.timeSeries.comparison op).isSome →
      (Dialect.timeSeries.comparison op').isSome → op.text = op'.text → op = op' := by
    decide +kernel
  exact hall op op.mem_all op' op'.mem_all h h' heq

theorem Connective.isBareWord_text (op : Connective) : IsBareWord op.text := by
  have hbare : op.text ≠ "" ∧ op.text.toList.all isBare := by cases op <;> decide
  exact ⟨hbare.1, List.all_eq_true.mp hbare.2⟩

/-- What comes after the first of several members is marked when what follows them is. -/
theorem Marked.flatMap {α : Type} {f : α → List Token} {as : List α} (hts : Marked ts)
    (h : ∀ a ∈ as, ∀ us, Marked us → Marked (f a ++ us)) : Marked (as.flatMap f ++ ts) := by
  induction as with
  | nil => exact hts
  | cons a as ih =>
    obtain ⟨ha, has⟩ := List.forall_mem_cons.mp h
    rw [List.flatMap_cons, List.append_assoc]
    exact ha _ (ih has)

theorem Value.lexical_tokens {v : Value} (h : v.IsOperand) (hts : Marked ts) :
    Lexical (v.tokens ++ ts) := by
  induction h generalizing ts with
  | null => exact hts.bare (w := "NULL") ⟨by decide, List.all_eq_true.mp (by decide)⟩
  | @negative n _ => exact hts.bare (isBareWord_toString n.toInt)
  | natural n => exact hts.bare (isBareWord_toString n.toNat)
  | string s => exact hts.quoted
  | @list vs hvs ih =>
    have hclose : Marked (.mark ')' :: ts) := hts.1.marked rfl
    cases vs with
    | nil => exact .mark rfl hclose.1
    | cons v vs =>
      have hafter : Marked (tokensAfter vs ++ .mark ')' :: ts) := by
        rw [tokensAfter_eq_flatMap]
        refine hclose.flatMap fun v hv us hus => ?_
        exact (Lexical.mark rfl (ih v (List.mem_cons_of_mem _ hv) hus)).marked rfl
      have hmembers := ih v List.mem_cons_self hafter
      simpa [tokens] using Lexical.mark (c := '(') rfl hmembers

theorem Marked.comparing {column : String} {op : Comparison} {v : Value} (hts : Marked ts)
    (hc : IsWord column) (ho : (Dialect.timeSeries.comparison op).isSome) (hv : v.IsOperand) :
    Lexical (comparing column op v ++ ts) := by
  have hop := ((v.lexical_tokens hv hts).marked (c := ' ') rfl).bare (Comparison.isBareWord_text ho)
  exact (hop.marked rfl).bare hc.isBareWord

theorem Marked.connective (op : Connective) (hts : Lexical ts) : Marked (op.tokens ++ ts) :=
  ((hts.marked (c := ' ') rfl).bare op.isBareWord_text).marked rfl

theorem Expr.lexical_tokens {e : Expr} (h : e.IsNormal .timeSeries) (hts : Lexical ts) :
    Lexical (e.tokens ++ ts) := by
  have hclose {ts : List Token} (hts : Lexical ts) : Marked (.mark ')' :: ts) := hts.marked rfl
  induction h generalizing ts with
  | compare hc ho hv =>
    have hinner := (hclose hts).comparing hc ho hv
    simpa [tokens, columnName_ofName hc] using Lexical.mark (c := '(') rfl hinner
  | range hc hlower hupper ha hb =>
    have hsecond := (hclose hts).comparing hc hupper hb
    have hfirst := (Marked.connective .and hsecond).comparing hc hlower ha
    simpa [tokens, columnName_ofName hc] using Lexical.mark (c := '(') rfl hfirst
  | @junction op e e' es h ih =>
    have hafter : Marked (tokensAfter op (e' :: es) ++ .mark ')' :: ts) := by
      rw [tokensAfter_eq_flatMap]
      refine (hclose hts).flatMap fun x hx us hus => ?_
      rw [List.append_assoc]
      exact Marked.connective op (ih x (List.mem_cons_of_mem _ hx) hus.1)
    have hmembers := ih e List.mem_cons_self hafter.1
    simpa [tokens] using Lexical.mark (c := '(') rfl hmembers

/-- What has the property is read off the front of a list of tokens in one way only. -/
def UniquelyRead {α : Type} (f : α → List Token) (P : α → Prop) (a : α) : Prop :=
  ∀ a', P a' → ∀ r s, f a ++ r = f a' ++ s → a = a' ∧ r = s

/-- Members with a separator before each are read one by one, up to the parenthesis. -/
theorem separated_append_inj {α : Type} {f : α → List Token} {P : α → Prop} {c : Char}
    {separator r s : List Token} {as as' : List α} (hc : c ≠ ')')
    (h : ∀ a ∈ as, UniquelyRead f P a) (h' : ∀ a ∈ as', P a)
    (heq : as.flatMap (fun a => .mark c :: separator ++ f a) ++ .mark ')' :: r =
      as'.flatMap (fun a => .mark c :: separator ++ f a) ++ .mark ')' :: s) :
    as = as' ∧ r = s := by
  induction as generalizing as' with
  | nil =>
    cases as' with
    | nil => exact ⟨rfl, (List.cons.inj heq).2⟩
    | cons a' as' => simp [Ne.symm hc] at heq
  | cons a as ih =>
    cases as' with
    | nil => simp [hc] at heq
    | cons a' as' =>
      obtain ⟨ha, has⟩ := List.forall_mem_cons.mp h
      obtain ⟨ha', has'⟩ := List.forall_mem_cons.mp h'
      simp only [List.flatMap_cons, List.append_assoc, List.cons_append, List.cons.injEq, true_and,
        List.append_cancel_left_eq] at heq
      obtain ⟨rfl, htail⟩ := ha a' ha' _ _ heq
      obtain ⟨rfl, hrest⟩ := ih has has' htail
      exact ⟨rfl, hrest⟩

theorem Value.tokens_ne_close {v : Value} (h : v.IsOperand) (r s : List Token) :
    v.tokens ++ r ≠ .mark ')' :: s := by
  cases h with
  | @list vs => cases vs <;> simp [tokens]
  | _ => simp [tokens]

theorem bare_cons_inj {w w' : String} {r s : List Token} (h : Token.bare w :: r = .bare w' :: s) :
    w = w' ∧ r = s := by
  obtain ⟨hw, hr⟩ := List.cons.inj h
  exact ⟨Token.bare.inj hw, hr⟩

theorem toString_ne_null (n : Int) : toString n ≠ "NULL" := by
  intro heq
  have hmem := isNumeric_of_mem_toString n 'N' (by rw [heq]; decide)
  cases hmem

/-- Numbers are told from null by their digits, and from each other as there is one form for each
of them. -/
theorem Value.uniquelyRead {v : Value} (h : v.IsOperand) : UniquelyRead tokens IsOperand v := by
  induction h with
  | null =>
    intro v' h' r s heq
    cases h' with
    | null => exact ⟨rfl, (List.cons.inj heq).2⟩
    | @negative n => exact absurd (bare_cons_inj heq).1.symm (toString_ne_null n.toInt)
    | natural n => exact absurd (bare_cons_inj heq).1.symm (toString_ne_null n.toNat)
    | string s => simp [tokens] at heq
    | @list vs => cases vs <;> simp [tokens] at heq
  | @negative n hn =>
    intro v' h' r s heq
    cases h' with
    | null => exact absurd (bare_cons_inj heq).1 (toString_ne_null n.toInt)
    | @negative n' =>
      obtain ⟨htext, hrest⟩ := bare_cons_inj heq
      rw [Int64.toInt_inj.mp (toString_int_inj htext)]
      exact ⟨rfl, hrest⟩
    | natural n' =>
      have hvalue : n.toInt = n'.toNat := toString_int_inj (bare_cons_inj heq).1
      omega
    | string s => simp [tokens] at heq
    | @list vs => cases vs <;> simp [tokens] at heq
  | natural n =>
    intro v' h' r s heq
    cases h' with
    | null => exact absurd (bare_cons_inj heq).1 (toString_ne_null n.toNat)
    | @negative n' hn' =>
      have hvalue : (n.toNat : Int) = n'.toInt := toString_int_inj (bare_cons_inj heq).1
      omega
    | natural n' =>
      obtain ⟨htext, hrest⟩ := bare_cons_inj heq
      have hvalue : (n.toNat : Int) = n'.toNat := toString_int_inj htext
      rw [UInt64.toNat_inj.mp (Int.ofNat.inj hvalue)]
      exact ⟨rfl, hrest⟩
    | string s => simp [tokens] at heq
    | @list vs => cases vs <;> simp [tokens] at heq
  | string s =>
    intro v' h' r r' heq
    cases h' with
    | string s' =>
      obtain ⟨hs, hrest⟩ := List.cons.inj heq
      rw [Token.quoted.inj hs]
      exact ⟨rfl, hrest⟩
    | @list vs => cases vs <;> simp [tokens] at heq
    | _ => simp [tokens] at heq
  | @list vs hvs ih =>
    intro v' h' r s heq
    cases h' with
    | @list vs' hvs' =>
      cases vs with
      | nil =>
        cases vs' with
        | nil => exact ⟨rfl, by simpa [tokens] using heq⟩
        | cons v' vs' =>
          have heq : .mark ')' :: r = v'.tokens ++ (tokensAfter vs' ++ .mark ')' :: s) := by
            simpa [tokens] using heq
          exact absurd heq.symm (tokens_ne_close (hvs' v' List.mem_cons_self) _ _)
      | cons v vs =>
        obtain ⟨hv, ihs⟩ := List.forall_mem_cons.mp ih
        cases vs' with
        | nil =>
          have heq : v.tokens ++ (tokensAfter vs ++ .mark ')' :: r) = .mark ')' :: s := by
            simpa [tokens] using heq
          exact absurd heq (tokens_ne_close (hvs v List.mem_cons_self) _ _)
        | cons v' vs' =>
          obtain ⟨hv', hmembers⟩ := List.forall_mem_cons.mp hvs'
          have heq : v.tokens ++ (tokensAfter vs ++ .mark ')' :: r) =
              v'.tokens ++ (tokensAfter vs' ++ .mark ')' :: s) := by
            simpa [tokens] using heq
          obtain ⟨rfl, hafter⟩ := hv v' hv' _ _ heq
          rw [tokensAfter_eq_flatMap, tokensAfter_eq_flatMap] at hafter
          obtain ⟨rfl, hrest⟩ := separated_append_inj (c := ',') (by decide) ihs hmembers hafter
          exact ⟨rfl, hrest⟩
    | _ => cases vs <;> simp [tokens] at heq

/-- A comparison is read back, whatever follows it. -/
theorem comparing_append_inj {column column' : String} {op op' : Comparison} {v v' : Value}
    {r s : List Token} (ho : (Dialect.timeSeries.comparison op).isSome)
    (ho' : (Dialect.timeSeries.comparison op').isSome) (hv : v.IsOperand) (hv' : v'.IsOperand)
    (heq : comparing column op v ++ r = comparing column' op' v' ++ s) :
    column = column' ∧ op = op' ∧ v = v' ∧ r = s := by
  obtain ⟨hcolumn, hop, hvalue⟩ : column = column' ∧ op.text = op'.text ∧
      v.tokens ++ r = v'.tokens ++ s := by
    simpa [comparing] using heq
  obtain ⟨rfl, hrest⟩ := v.uniquelyRead hv v' hv' r s hvalue
  exact ⟨hcolumn, Comparison.text_inj ho ho' hop, rfl, hrest⟩

/-- Which connective stands between two conditions can be read, and where it ends. -/
theorem Connective.tokens_append_inj {op op' : Connective} {r s : List Token}
    (h : op.tokens ++ r = op'.tokens ++ s) : op = op' ∧ r = s := by
  cases op <;> cases op' <;> simp_all [tokens, text]

theorem RangeTest.eq_of_comparisons {test test' : RangeTest}
    (h : test.comparisons.1 = test'.comparisons.1) : test = test' := by
  cases test <;> cases test' <;> first | rfl | cases h

namespace Expr

variable {e e' : Expr} {es : List Expr} {column : String} {op : Comparison} {v : Value}
  {r s : List Token}

theorem exists_tokens_eq (h : e.IsNormal .timeSeries) : ∃ ts, e.tokens = .mark '(' :: ts := by
  cases h <;> exact ⟨_, rfl⟩

theorem tokens_compare (hc : IsWord column) :
    (Expr.compare op (.ofName column) v).tokens ++ r =
      .mark '(' :: (comparing column op v ++ .mark ')' :: r) := by
  simp [tokens, columnName_ofName hc]

theorem tokens_range {test : RangeTest} {start stop : Value} (hc : IsWord column) :
    (Expr.range test (.ofName column) start stop).tokens ++ r =
      .mark '(' :: (comparing column test.comparisons.1 start ++ (Connective.and.tokens ++
        (comparing column test.comparisons.2 stop ++ .mark ')' :: r))) := by
  simp [tokens, columnName_ofName hc]

theorem tokens_junction {o : Connective} :
    (Expr.junction o (e :: e' :: es)).tokens ++ r =
      .mark '(' :: (e.tokens ++ (o.tokens ++
        (e'.tokens ++ (tokensAfter o es ++ .mark ')' :: r)))) := by
  simp [tokens, tokensAfter]

/-- A comparison and a range test begin with a name, and a list with a condition of its own. -/
theorem comparing_ne_tokens (he : e.IsNormal .timeSeries) :
    comparing column op v ++ r ≠ e.tokens ++ s := by
  obtain ⟨ts, hts⟩ := exists_tokens_eq he
  simp [comparing, hts]

/-- After its first operand a comparison ends, while a range test goes on. -/
theorem close_ne_connective (o : Connective) : .mark ')' :: r ≠ o.tokens ++ s := by
  simp [Connective.tokens]

theorem uniquelyRead (h : e.IsNormal .timeSeries) :
    UniquelyRead tokens (IsNormal .timeSeries) e := by
  induction h with
  | @compare op column v hc ho hv =>
    intro e' h' r s heq
    rw [tokens_compare hc] at heq
    cases h' with
    | compare hc' ho' hv' =>
      rw [tokens_compare hc'] at heq
      obtain ⟨rfl, rfl, rfl, hrest⟩ := comparing_append_inj ho ho' hv hv' (List.cons.inj heq).2
      exact ⟨rfl, (List.cons.inj hrest).2⟩
    | range hc' hlower hupper ha hb =>
      rw [tokens_range hc'] at heq
      obtain ⟨-, -, -, hrest⟩ := comparing_append_inj ho hlower hv ha (List.cons.inj heq).2
      exact absurd hrest (close_ne_connective .and)
    | junction hes =>
      rw [tokens_junction] at heq
      exact absurd (List.cons.inj heq).2 (comparing_ne_tokens (hes _ List.mem_cons_self))
  | @range test column start stop hc hlower hupper ha hb =>
    intro e' h' r s heq
    rw [tokens_range hc] at heq
    cases h' with
    | compare hc' ho' hv' =>
      rw [tokens_compare hc'] at heq
      obtain ⟨-, -, -, hrest⟩ := comparing_append_inj hlower ho' ha hv' (List.cons.inj heq).2
      exact absurd hrest.symm (close_ne_connective .and)
    | range hc' hlower' hupper' ha' hb' =>
      rw [tokens_range hc'] at heq
      obtain ⟨rfl, htest, rfl, hrest⟩ :=
        comparing_append_inj hlower hlower' ha ha' (List.cons.inj heq).2
      obtain ⟨-, hsecond⟩ := Connective.tokens_append_inj hrest
      obtain ⟨-, -, rfl, hclose⟩ := comparing_append_inj hupper hupper' hb hb' hsecond
      rw [RangeTest.eq_of_comparisons htest]
      exact ⟨rfl, (List.cons.inj hclose).2⟩
    | junction hes =>
      rw [tokens_junction] at heq
      exact absurd (List.cons.inj heq).2 (comparing_ne_tokens (hes _ List.mem_cons_self))
  | @junction o e e' es hes ih =>
    intro e₂ h₂ r s heq
    rw [tokens_junction] at heq
    cases h₂ with
    | compare hc' ho' hv' =>
      rw [tokens_compare hc'] at heq
      exact absurd (List.cons.inj heq).2.symm (comparing_ne_tokens (hes _ List.mem_cons_self))
    | range hc' hlower' hupper' ha' hb' =>
      rw [tokens_range hc'] at heq
      exact absurd (List.cons.inj heq).2.symm (comparing_ne_tokens (hes _ List.mem_cons_self))
    | @junction o' x x' xs hxs =>
      rw [tokens_junction] at heq
      obtain ⟨ihe, ihrest⟩ := List.forall_mem_cons.mp ih
      obtain ⟨ihe', ihes⟩ := List.forall_mem_cons.mp ihrest
      obtain ⟨hx, hrest⟩ := List.forall_mem_cons.mp hxs
      obtain ⟨hx', hmembers⟩ := List.forall_mem_cons.mp hrest
      obtain ⟨rfl, hsecond⟩ := ihe x hx _ _ (List.cons.inj heq).2
      obtain ⟨rfl, hsecond⟩ := Connective.tokens_append_inj hsecond
      obtain ⟨rfl, hafter⟩ := ihe' x' hx' _ _ hsecond
      rw [tokensAfter_eq_flatMap, tokensAfter_eq_flatMap] at hafter
      obtain ⟨rfl, hend⟩ := separated_append_inj (c := ' ') (by decide) ihes hmembers hafter
      exact ⟨rfl, hend⟩

theorem sql_of_writes {ts : List Token} (h : (e.render .timeSeries).Writes ts) :
    e.sql .timeSeries = .ok (tokenText ts) :=
  h.result_eq

/-- Conditions with the same text have the same normal form, but for lists in which there is
nothing: those are written as nothing, whatever their connectives are. -/
theorem normal_eq_of_sql_eq {e₁ e₂ : Expr} {t : String} (h₁ : e₁.IsCondition)
    (h₂ : e₂.IsCondition) (ht₁ : e₁.sql .timeSeries = .ok t) (ht₂ : e₂.sql .timeSeries = .ok t) :
    e₁.normal = e₂.normal ∨
      ∃ op₁ op₂, e₁.normal = .junction op₁ [] ∧ e₂.normal = .junction op₂ [] := by
  have htext {e : Expr} (he : e.sql .timeSeries = .ok t) (hnormal : e.normal.IsNormal .timeSeries)
      (hrender : e.normal.render .timeSeries = e.render .timeSeries) :
      tokenText e.normal.tokens = t := by
    have hsql := sql_of_writes (Step.writes_condition hnormal)
    rw [sql, hrender] at hsql
    exact Except.ok.inj (hsql.symm.trans he)
  have hempty {e : Expr} {op : Connective} (he : e.sql .timeSeries = .ok t)
      (hnormal : e.normal = .junction op [])
      (hrender : e.normal.render .timeSeries = e.render .timeSeries) : t = "" := by
    rw [sql, ← hrender, hnormal] at he
    exact (Except.ok.inj he).symm
  have hfilled {e : Expr} (hnormal : e.IsNormal .timeSeries) : tokenText e.tokens ≠ "" := by
    obtain ⟨ts, hts⟩ := exists_tokens_eq hnormal
    simp [tokenText, hts, Token.chars]
  obtain ⟨hrender₁, ⟨op₁, hnil₁⟩ | hnormal₁⟩ := h₁.normal_of_sql ht₁ <;>
    obtain ⟨hrender₂, ⟨op₂, hnil₂⟩ | hnormal₂⟩ := h₂.normal_of_sql ht₂
  · exact .inr ⟨op₁, op₂, hnil₁, hnil₂⟩
  · have ht := htext ht₂ hnormal₂ hrender₂
    exact absurd (ht.trans (hempty ht₁ hnil₁ hrender₁)) (hfilled hnormal₂)
  · have ht := htext ht₁ hnormal₁ hrender₁
    exact absurd (ht.trans (hempty ht₂ hnil₂ hrender₂)) (hfilled hnormal₁)
  · have heq : tokenText e₁.normal.tokens = tokenText e₂.normal.tokens :=
      (htext ht₁ hnormal₁ hrender₁).trans (htext ht₂ hnormal₂ hrender₂).symm
    have hchars := String.ofList_injective heq
    have hlexical {e : Expr} (h : e.IsNormal .timeSeries) : Lexical e.tokens := by
      simpa using lexical_tokens h .nil
    have htokens := lexical_unique (hlexical hnormal₁) (hlexical hnormal₂) hchars
    exact .inl (uniquelyRead hnormal₁ _ hnormal₂ [] [] (by rw [htokens])).1

/-- A map and the lists that it stands for, with a string that has parentheses in it. -/
theorem normal_eq_of_sql_eq_map :
    let e₁ : Expr := .conditions .and
      [("a", .equals (.int 5)), ("b", .tests [("gt", .string "') AND ("), ("lt", .null)])]
    let e₂ : Expr := .join .or [.join .and [.compare .eq (.ofName "a") (.uint 5), .join .or [],
      .join .or [.compare .gt (.ofName "b") (.string "') AND ("),
        .compare .lt (.ofName "b") .null]]]
    let t := "((a = 5) AND ((b > ''') AND (') OR (b < NULL)))"
    e₁.IsCondition ∧ e₂.IsCondition ∧ e₁.sql .timeSeries = .ok t ∧ e₂.sql .timeSeries = .ok t ∧
      (e₁.normal = e₂.normal ∨
        ∃ op₁ op₂, e₁.normal = .junction op₁ [] ∧ e₂.normal = .junction op₂ []) := by
  intro e₁ e₂ t
  have ha : IsWord "a" := ⟨by decide, List.all_eq_true.mp (by decide)⟩
  have hb : IsWord "b" := ⟨by decide, List.all_eq_true.mp (by decide)⟩
  have h₁ : e₁.IsCondition := by
    refine .conditions ?_
    simp [Condition.values, ha, hb, Value.IsPlain.int, Value.IsPlain.string, Value.IsPlain.null]
  have h₂ : e₂.IsCondition := by
    refine .join (List.forall_mem_singleton.mpr (.join ?_))
    simp only [List.forall_mem_cons]
    refine ⟨.compare ha (.uint 5), .join (List.forall_mem_nil _), .join ?_, List.forall_mem_nil _⟩
    simp only [List.forall_mem_cons]
    exact ⟨.compare hb (.string _), .compare hb .null, List.forall_mem_nil _⟩
  have ht₁ : e₁.sql .timeSeries = .ok t := by decide +kernel
  have ht₂ : e₂.sql .timeSeries = .ok t := by decide +kernel
  exact ⟨h₁, h₂, ht₁, ht₂, normal_eq_of_sql_eq h₁ h₂ ht₁ ht₂⟩

/-- The empty conjunction and the empty disjunction are both written as nothing. -/
theorem empty_lists_same_sql :
    let e₁ : Expr := .join .and []
    let e₂ : Expr := .join .or []
    e₁.IsCondition ∧ e₂.IsCondition ∧ e₁.sql .timeSeries = .ok "" ∧ e₂.sql .timeSeries = .ok "" ∧
      e₁.normal ≠ e₂.normal := by
  refine ⟨.join (List.forall_mem_nil _), .join (List.forall_mem_nil _), rfl, rfl, ?_⟩
  intro h
  cases h

end Expr

end SeriesQuery
