import SeriesQuery.Proofs.Readability

/-! The texts of conditions as they are usually read, and what the texts of range tests say. The
text of a range test that is negated is never true where there is something between its bounds. -/

namespace SeriesQuery

/-- The relation of numbers that a sign stands for. -/
def relation? : String → Option (Int → Int → Bool)
  | "<" => some (· < ·)
  | "<=" => some (· ≤ ·)
  | ">" => some (· > ·)
  | ">=" => some (· ≥ ·)
  | _ => none

/-- A part of a condition, by what holds it together. -/
inductive ConditionPart
  | single | conjunction | disjunction

variable {σ : String → Int} {ts : List Token} {part : ConditionPart} {a b : Bool} {t w : String}

/-- A condition compares a column with a number, or it is another one in parentheses, or there are
several joined by `AND`, or several of those by `OR`. The assignment gives the numbers that are in
the columns. -/
inductive Says (σ : String → Int) : ConditionPart → List Token → Bool → Prop
  | comparison {w sign : String} {r : Int → Int → Bool} {n : Int} (h : relation? sign = some r) :
    Says σ .single [.bare w, .mark ' ', .bare sign, .mark ' ', .bare (toString n)] (r (σ w) n)
  | parenthesized {ts : List Token} {a : Bool} (h : Says σ .disjunction ts a) :
    Says σ .single (.mark '(' :: ts ++ [.mark ')']) a
  | single {ts : List Token} {a : Bool} (h : Says σ .single ts a) : Says σ .conjunction ts a
  | and {ts us : List Token} {a b : Bool} (h : Says σ .conjunction ts a)
    (h' : Says σ .single us b) :
    Says σ .conjunction (ts ++ [.mark ' ', .bare "AND", .mark ' '] ++ us) (a && b)
  | conjunction {ts : List Token} {a : Bool} (h : Says σ .conjunction ts a) :
    Says σ .disjunction ts a
  | or {ts us : List Token} {a b : Bool} (h : Says σ .disjunction ts a)
    (h' : Says σ .conjunction us b) :
    Says σ .disjunction (ts ++ [.mark ' ', .bare "OR", .mark ' '] ++ us) (a || b)

/-! Scanned from left to right, the tokens say one thing only. -/

/-- The number that a numeral stands for. -/
def numeralValue : List Char → Int
  | '-' :: cs => -(Nat.ofDigitChars 10 cs 0)
  | cs => Nat.ofDigitChars 10 cs 0

theorem numeralValue_toString (n : Int) : numeralValue (toString n).toList = n := by
  cases n with
  | ofNat m =>
    rw [toList_toString_ofNat, numeralValue, Nat.ofDigitChars_ten_toDigits]
    · rfl
    · rintro cs hcs
      have hdigit := Nat.isDigit_of_mem_toDigits (by decide) (by decide)
        (hcs ▸ List.mem_cons_self : '-' ∈ Nat.toDigits 10 m)
      cases hdigit
  | negSucc m =>
    rw [toList_toString_negSucc, numeralValue, Nat.ofDigitChars_ten_toDigits]
    rfl

/-- What has been scanned of a condition: the conjunctions that are complete, and the one that is
not. -/
structure PartialCondition where
  disjunction : Bool := false
  conjunction : Bool := true

namespace PartialCondition

def total (s : PartialCondition) : Bool := s.disjunction || s.conjunction

/-- Another part of the conjunction. -/
def conjoin (s : PartialCondition) (a : Bool) : PartialCondition :=
  ⟨s.disjunction, s.conjunction && a⟩

theorem total_conjoin {s : PartialCondition} (h : s.conjunction = true) :
    (s.conjoin a).total = (s.disjunction || a) := by
  simp [total, conjoin, h]

/-- Scans tokens. Around the condition under way stand those that wait for it to be closed. -/
def scan (σ : String → Int) : List Token → PartialCondition → List PartialCondition → Bool
  | .bare w :: _ :: .bare sign :: _ :: .bare n :: ts, s, outer =>
    match relation? sign with
    | some r => scan σ ts (s.conjoin (r (σ w) (numeralValue n.toList))) outer
    | none => s.total
  | .mark '(' :: ts, s, outer => scan σ ts {} (s :: outer)
  | .mark ')' :: ts, s, s' :: outer => scan σ ts (s'.conjoin s.total) outer
  | .mark ' ' :: .bare "AND" :: .mark ' ' :: ts, s, outer => scan σ ts s outer
  | .mark ' ' :: .bare "OR" :: .mark ' ' :: ts, s, outer => scan σ ts ⟨s.total, true⟩ outer
  | _, s, _ => s.total

/-- What a part that says `a` makes of what has been scanned. A disjunction does not begin in the
middle of a conjunction. -/
def After (a : Bool) (s s' : PartialCondition) : ConditionPart → Prop
  | .single | .conjunction => s' = s.conjoin a
  | .disjunction => s.conjunction = true → s'.total = (s.disjunction || a)

end PartialCondition

open PartialCondition

namespace Says

theorem exists_scan (h : Says σ part ts a) (rest : List Token) (s : PartialCondition)
    (outer : List PartialCondition) :
    ∃ s', scan σ (ts ++ rest) s outer = scan σ rest s' outer ∧ After a s s' part := by
  induction h generalizing rest s outer with
  | @comparison w sign r n h =>
    refine ⟨_, ?_, rfl⟩
    have hn := numeralValue_toString n
    simp only [List.cons_append, List.nil_append, scan, h, hn]
  | @parenthesized ts a _ ih =>
    obtain ⟨s', hscan, htotal⟩ := ih (.mark ')' :: rest) {} (s :: outer)
    have hopen : scan σ (.mark '(' :: ts ++ [.mark ')'] ++ rest) s outer =
        scan σ (ts ++ .mark ')' :: rest) {} (s :: outer) := by
      simp [scan]
    refine ⟨s.conjoin s'.total, hopen.trans hscan, ?_⟩
    rw [htotal rfl]
    rfl
  | single _ ih => exact ih rest s outer
  | @and ts us a b _ _ ih ih' =>
    obtain ⟨s₁, hscan₁, rfl⟩ := ih (.mark ' ' :: .bare "AND" :: .mark ' ' :: (us ++ rest)) s outer
    obtain ⟨s₂, hscan₂, rfl⟩ := ih' rest (s.conjoin a) outer
    refine ⟨(s.conjoin a).conjoin b, ?_, ?_⟩
    · calc scan σ (ts ++ [.mark ' ', .bare "AND", .mark ' '] ++ us ++ rest) s outer
        _ = scan σ (ts ++ .mark ' ' :: .bare "AND" :: .mark ' ' :: (us ++ rest)) s outer := by simp
        _ = scan σ (us ++ rest) (s.conjoin a) outer := by rw [hscan₁, scan]
        _ = scan σ rest ((s.conjoin a).conjoin b) outer := hscan₂
    · simp [After, conjoin, Bool.and_assoc]
  | @conjunction ts a _ ih =>
    obtain ⟨s', hscan, rfl⟩ := ih rest s outer
    exact ⟨_, hscan, total_conjoin⟩
  | @or ts us a b _ _ ih ih' =>
    obtain ⟨s₁, hscan₁, htotal⟩ :=
      ih (.mark ' ' :: .bare "OR" :: .mark ' ' :: (us ++ rest)) s outer
    obtain ⟨s₂, hscan₂, rfl⟩ := ih' rest ⟨s₁.total, true⟩ outer
    refine ⟨conjoin ⟨s₁.total, true⟩ b, ?_, fun hs => ?_⟩
    · calc scan σ (ts ++ [.mark ' ', .bare "OR", .mark ' '] ++ us ++ rest) s outer
        _ = scan σ (ts ++ .mark ' ' :: .bare "OR" :: .mark ' ' :: (us ++ rest)) s outer := by simp
        _ = scan σ (us ++ rest) ⟨s₁.total, true⟩ outer := by rw [hscan₁, scan]
        _ = scan σ rest (conjoin ⟨s₁.total, true⟩ b) outer := hscan₂
    · rw [total_conjoin rfl, htotal hs, Bool.or_assoc]

/-- The scan finds the truth value that the grammar gives to the text. -/
theorem scan_eq (h : Says σ .disjunction ts a) : scan σ ts {} [] = a := by
  obtain ⟨s, hscan, htotal⟩ := h.exists_scan [] {} []
  have htotal : s.total = a := by simpa using htotal rfl
  rw [List.append_nil] at hscan
  rw [hscan, ← htotal]
  rfl

theorem unique (ha : Says σ .disjunction ts a) (hb : Says σ .disjunction ts b) : a = b :=
  ha.scan_eq.symm.trans hb.scan_eq

end Says

/-- The text is that of tokens which say so. The tokens can be told apart in front of a space. -/
def TextSays (σ : String → Int) (t : String) (a : Bool) : Prop :=
  ∃ ts, Lexical (ts ++ [.mark ' ']) ∧ tokenText ts = t ∧ Says σ .disjunction ts a

/-- No text says two things. -/
theorem TextSays.unique (ha : TextSays σ t a) (hb : TextSays σ t b) : a = b := by
  obtain ⟨ts, hts, htext, ha⟩ := ha
  obtain ⟨us, hus, htext', hb⟩ := hb
  have hchars : tokenChars ts = tokenChars us := String.ofList_injective (htext.trans htext'.symm)
  have htokens := lexical_unique hts hus (by rw [tokenChars_append, tokenChars_append, hchars])
  obtain rfl := List.append_cancel_right htokens
  exact ha.unique hb

/-- Whole numbers, signed or unsigned. -/
inductive Value.IsInteger : Value → Int → Prop
  | int (n : Int64) : IsInteger (.int n) n.toInt
  | uint (n : UInt64) : IsInteger (.uint n) n.toNat

namespace Value.IsInteger

variable {v : Value} {n : Int}

theorem isPlain (h : v.IsInteger n) : v.IsPlain := by
  cases h with
  | int n => exact .int n
  | uint n => exact .uint n

theorem tokens_unsigned (h : v.IsInteger n) : v.unsigned.tokens = [.bare (toString n)] := by
  cases h with
  | int n =>
    rw [unsigned]
    split
    · rfl
    · rename_i hn
      rw [tokens, toString_unsigned hn]
  | uint n => rfl

end Value.IsInteger

namespace RangeTest

/-- The relations of the column with the lower and with the upper bound. -/
def relations : RangeTest → (Int → Int → Bool) × (Int → Int → Bool)
  | between => ((· ≥ ·), (· ≤ ·))
  | notBetween => ((· < ·), (· > ·))

theorem relation?_comparisons (test : RangeTest) :
    relation? test.comparisons.1.text = some test.relations.1 ∧
      relation? test.comparisons.2.text = some test.relations.2 := by
  cases test <;> exact ⟨rfl, rfl⟩

end RangeTest

namespace Expr

variable {start stop : Value} {m n : Int}

/-- A range test is written as a text that says one thing. -/
theorem exists_sql_range (test : RangeTest) (hw : IsWord w) (hstart : start.IsInteger m)
    (hstop : stop.IsInteger n) :
    ∃ t, (range test (.ofName w) start stop).sql .timeSeries = .ok t ∧ ∀ σ a,
      TextSays σ t a ↔ a = (test.relations.1 (σ w) m && test.relations.2 (σ w) n) := by
  have hrender : (range test (.ofName w) start.unsigned stop.unsigned).render .timeSeries =
      (range test (.ofName w) start stop).render .timeSeries := by
    rw [render, render, hstart.isPlain.render_unsigned, hstop.isPlain.render_unsigned]
  have hnormal : (range test (.ofName w) start.unsigned stop.unsigned).IsNormal .timeSeries := by
    have hsome : (Dialect.timeSeries.comparison test.comparisons.1).isSome ∧
        (Dialect.timeSeries.comparison test.comparisons.2).isSome := by
      cases test <;> exact ⟨rfl, rfl⟩
    exact .range hw hsome.1 hsome.2 hstart.isPlain.isOperand_unsigned
      hstop.isPlain.isOperand_unsigned
  have hsql := sql_of_writes (Step.writes_condition hnormal)
  rw [sql, hrender] at hsql
  refine ⟨_, hsql, fun σ a => ?_⟩
  have hsays : TextSays σ (tokenText (range test (.ofName w) start.unsigned stop.unsigned).tokens)
      (test.relations.1 (σ w) m && test.relations.2 (σ w) n) := by
    obtain ⟨hlower, hupper⟩ := test.relation?_comparisons
    have hcondition := Says.parenthesized
      (.conjunction (.and (.single (.comparison (σ := σ) (w := w) (n := m) hlower))
        (.comparison (σ := σ) (w := w) (n := n) hupper)))
    refine ⟨_, lexical_tokens hnormal (.mark rfl .nil), rfl, ?_⟩
    rw [tokens, columnName_ofName hw, comparing, comparing, hstart.tokens_unsigned,
      hstop.tokens_unsigned]
    exact .conjunction (.single hcondition)
  exact ⟨fun h => h.unique hsays, fun h => h ▸ hsays⟩

/-- The text of a range test says that the column lies between the bounds. That of a negated one
says that it lies below the lower bound and above the upper one. So the second text is true where
the first one is false only if that is nowhere, which is inside the range. -/
theorem text_notBetween_iff (hw : IsWord w) (hstart : start.IsInteger m)
    (hstop : stop.IsInteger n) :
    ∃ within without, (range .between (.ofName w) start stop).sql .timeSeries = .ok within ∧
      (range .notBetween (.ofName w) start stop).sql .timeSeries = .ok without ∧
      ∀ σ, (∀ a, TextSays σ within a ↔ a = decide (m ≤ σ w ∧ σ w ≤ n)) ∧
        (∀ a, TextSays σ without a ↔ a = decide (σ w < m ∧ n < σ w)) ∧
        (m ≤ n → ((TextSays σ without true ↔ TextSays σ within false) ↔ m ≤ σ w ∧ σ w ≤ n)) := by
  obtain ⟨within, hwithin, hin⟩ := exists_sql_range .between hw hstart hstop
  obtain ⟨without, hwithout, hout⟩ := exists_sql_range .notBetween hw hstart hstop
  refine ⟨within, without, hwithin, hwithout, fun σ => ?_⟩
  have hin (a : Bool) : TextSays σ within a ↔ a = decide (m ≤ σ w ∧ σ w ≤ n) := by
    rw [hin, Bool.decide_and]
    rfl
  have hout (a : Bool) : TextSays σ without a ↔ a = decide (σ w < m ∧ n < σ w) := by
    rw [hout, Bool.decide_and]
    rfl
  refine ⟨hin, hout, fun hmn => ?_⟩
  have hnever : ¬ (σ w < m ∧ n < σ w) := by omega
  rw [hin, hout]
  simp [hnever]

/-- One bound is negative and the other unsigned, and both belong to the range. -/
theorem text_notBetween_iff_mixed_bounds :
    let within := "(v >= -1 AND v <= 10)"
    let without := "(v < -1 AND v > 10)"
    (range .between (.ofName "v") (.int (-1)) (.uint 10)).sql .timeSeries = .ok within ∧
      (range .notBetween (.ofName "v") (.int (-1)) (.uint 10)).sql .timeSeries = .ok without ∧
      ∀ σ, (∀ a, TextSays σ within a ↔ a = decide (-1 ≤ σ "v" ∧ σ "v" ≤ 10)) ∧
        (∀ a, TextSays σ without a ↔ a = decide (σ "v" < -1 ∧ 10 < σ "v")) ∧
        ((TextSays σ without true ↔ TextSays σ within false) ↔ -1 ≤ σ "v" ∧ σ "v" ≤ 10) := by
  intro within without
  have hv : IsWord "v" := ⟨by decide, List.all_eq_true.mp (by decide)⟩
  have hwithin : (range .between (.ofName "v") (.int (-1)) (.uint 10)).sql .timeSeries =
      .ok within := by decide +kernel
  have hwithout : (range .notBetween (.ofName "v") (.int (-1)) (.uint 10)).sql .timeSeries =
      .ok without := by decide +kernel
  obtain ⟨t, t', ht, ht', hsays⟩ := text_notBetween_iff hv (.int (-1)) (.uint 10)
  obtain rfl : within = t := Except.ok.inj (hwithin.symm.trans ht)
  obtain rfl : without = t' := Except.ok.inj (hwithout.symm.trans ht')
  refine ⟨hwithin, hwithout, fun σ => ?_⟩
  obtain ⟨hin, hout, hiff⟩ := hsays σ
  exact ⟨hin, hout, hiff (by decide)⟩

/-- No number is outside of a range as the text of the negated test has it. -/
theorem notBetween_misses_outside :
    let within := "(v >= 1 AND v <= 10)"
    let without := "(v < 1 AND v > 10)"
    let σ : String → Int := fun _ => 0
    (range .between (.ofName "v") (.int 1) (.int 10)).sql .timeSeries = .ok within ∧
      (range .notBetween (.ofName "v") (.int 1) (.int 10)).sql .timeSeries = .ok without ∧
      TextSays σ within false ∧ ¬ TextSays σ without true := by
  intro within without σ
  have hv : IsWord "v" := ⟨by decide, List.all_eq_true.mp (by decide)⟩
  have hwithin : (range .between (.ofName "v") (.int 1) (.int 10)).sql .timeSeries =
      .ok within := by decide +kernel
  have hwithout : (range .notBetween (.ofName "v") (.int 1) (.int 10)).sql .timeSeries =
      .ok without := by decide +kernel
  obtain ⟨t, ht, hin⟩ := exists_sql_range .between hv (.int 1) (.int 10)
  obtain ⟨t', ht', hout⟩ := exists_sql_range .notBetween hv (.int 1) (.int 10)
  obtain rfl : within = t := Except.ok.inj (hwithin.symm.trans ht)
  obtain rfl : without = t' := Except.ok.inj (hwithout.symm.trans ht')
  refine ⟨hwithin, hwithout, ?_, ?_⟩
  · rw [hin]
    decide
  · rw [hout]
    decide

end Expr

end SeriesQuery
