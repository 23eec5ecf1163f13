import SeriesQuery.Proofs.DecimalText
import SeriesQuery.Proofs.Result
import SeriesQuery.Render.Select

/-! Float literals. The text of a finite number is read back as that number and no other, and there
is no shorter one. -/

namespace SeriesQuery

namespace Binary64

variable {x y : Binary64}

/-- The decimal that is written. -/
def decimal (x : Binary64) : Decimal := if x.isZero then ⟨0, 0⟩ else x.shortest

theorem isZero_iff (x : Binary64) : x.isZero ↔ x.pattern = 0 := by
  rw [isZero, Bool.and_eq_true, beq_iff_eq, beq_iff_eq, exponentField_eq, fraction_eq]
  simp only [fieldWeight]
  omega

theorem toList_decimalText (x : Binary64) :
    x.decimalText.toList = (if x.isNegative then ['-'] else []) ++ x.decimal.positional := by
  rw [decimalText, decimal, String.toList_append]
  congr 1
  · split <;> rfl
  · split
    · decide
    · exact String.toList_ofList

/-- The decimal of a number is the shortest of those that are read as the number. -/
theorem decimal_spec (hx : x.isFinite) : x.decimal.IsShort ∧ Within x.pattern x.decimal.value ∧
    ∀ e : Decimal, Within x.pattern e.value → x.decimal.significant ≤ e.significant := by
  rw [decimal]
  split
  · rename_i hzero
    refine ⟨.inr rfl, ?_, fun e _ => Nat.zero_le _⟩
    have hwithin := within_amount 0
    rw [amount_zero, ← x.isZero_iff.mp hzero] at hwithin
    simpa [Decimal.value] using hwithin
  · rename_i hzero
    have hne : x.pattern ≠ 0 := fun h => hzero (x.isZero_iff.mpr h)
    exact ⟨.inl (shortest_digits_mod_ten hx hne), (shortest_spec hx hne).1,
      fun e he => shortest_significant hx hne he⟩

end Binary64

namespace Numeral

open Binary64

/-- Read as an exact number and rounded, a numeral gives the number's bits and no other, and no
decimal with fewer digits does. -/
structure Denotes (n : Numeral) (x : Binary64) : Prop where
  isPlain : n.IsPlain
  rounds : Rounds n.negative n.decimal.value x
  unique : ∀ y, Rounds n.negative n.decimal.value y → y = x
  shortest : ∀ (negative : Bool) (d : Decimal), Rounds negative d.value x →
    n.decimal.significant ≤ d.significant

/-- The text of a finite number is read as the number, with its sign even for zero. -/
theorem denotes_decimalText {x : Binary64} (hx : x.isFinite) :
    (ofChars x.decimalText.toList).Denotes x := by
  obtain ⟨hshort, hwithin, hfewest⟩ := decimal_spec hx
  obtain ⟨hsign, hplain, hvalue, hsignificant⟩ :=
    Decimal.reads_positional x.isNegative hshort (congrArg ofChars x.toList_decimalText)
  have hrounds : Rounds x.isNegative x.decimal.value x := hwithin.rounds hx
  refine ⟨hplain, ?_, ?_, ?_⟩
  · rwa [hsign, hvalue]
  · intro y hy
    rw [hsign, hvalue] at hy
    exact hy.unique x.decimal.value_nonneg hrounds
  · intro negative e he
    rw [hsignificant]
    exact hfewest e (he.within e.value_nonneg)

end Numeral

theorem Binary64.decimalText_inj {x y : Binary64} (hx : x.isFinite) (hy : y.isFinite)
    (h : x.decimalText = y.decimalText) : x = y :=
  (Numeral.denotes_decimalText hy).unique x (h ▸ (Numeral.denotes_decimalText hx).rounds)

/-- A number is written without an exponent, or refused if it is not finite. -/
theorem Value.sql_float (d : Dialect) (x : Binary64) : Value.sql d (.float x) =
    if x.isFinite then .ok x.decimalText else .error (.unwritable x.nonFiniteName) := by
  rw [Value.sql, Value.render, Step.float]
  split <;> simp

/-- A fill writes a number as any value would, behind its keyword. -/
theorem Fill.result_render_float (d : Dialect) (x : Binary64) :
    Step.result (Fill.render d (.float x)) = (Value.sql d (.float x)).map ("VALUE, " ++ ·) := by
  have hfloat : (Step.float x).ContextFree :=
    Step.contextFree_ite (Step.contextFree_write _) (Step.contextFree_fail _)
  rw [Fill.render, Step.result_seq_cons _ (by simpa using hfloat), Step.result_write,
    Step.result_seq_singleton]
  rfl

/-- Every finite number is written as a numeral that denotes it and is as short as any, alike as a
value and as what gaps are filled with, and no two have one text. The others cannot be written in
either place. -/
theorem Value.sql_float_by_numeral (d : Dialect) (x : Binary64) :
    if x.isFinite then
      ∃ text, Value.sql d (.float x) = .ok text ∧
        Step.result (Fill.render d (.float x)) = .ok ("VALUE, " ++ text) ∧
        (Numeral.ofChars text.toList).Denotes x ∧
        ∀ y : Binary64, y ≠ x → Value.sql d (.float y) ≠ .ok text ∧
          Step.result (Fill.render d (.float y)) ≠ .ok ("VALUE, " ++ text)
    else
      Value.sql d (.float x) = .error (.unwritable x.nonFiniteName) ∧
        Step.result (Fill.render d (.float x)) = .error (.unwritable x.nonFiniteName) := by
  simp only [Fill.result_render_float]
  split
  · rename_i hx
    have hdistinct : ∀ y : Binary64, y ≠ x → Value.sql d (.float y) ≠ .ok x.decimalText := by
      intro y hne h
      rw [Value.sql_float] at h
      split at h
      · rename_i hy
        exact hne (Binary64.decimalText_inj hy hx (Except.ok.inj h))
      · cases h
    have hsql : Value.sql d (.float x) = .ok x.decimalText := by
      rw [Value.sql_float, if_pos hx]
    refine ⟨x.decimalText, hsql, by rw [hsql]; rfl, Numeral.denotes_decimalText hx, ?_⟩
    intro y hne
    refine ⟨hdistinct y hne, fun h => hdistinct y hne ?_⟩
    cases hy : Value.sql d (.float y) with
    | error e => simp [hy, Except.map] at h
    | ok text => simpa [hy, Except.map] using h
  · rename_i hx
    have hsql : Value.sql d (.float x) = .error (.unwritable x.nonFiniteName) := by
      rw [Value.sql_float, if_neg hx]
    exact ⟨hsql, by rw [hsql]; rfl⟩

end SeriesQuery
