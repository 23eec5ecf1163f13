import SeriesQuery.Proofs.ShortestDecimal
import SeriesQuery.Proofs.Splitting
import SeriesQuery.Proofs.Written

/-! Reading a number in plain notation. The digits around the point are those of the decimal that
was written, with zeros only where a place before or right after the point would be missing. -/

namespace SeriesQuery

/-- A text cut at its sign and its point. -/
structure Numeral where
  negative : Bool
  whole : List Char
  fraction : Option (List Char)

namespace Numeral

def ofChars : List Char → Numeral
  | '-' :: cs => ⟨true, (Text.cutAt '.' cs).1, (Text.cutAt '.' cs).2⟩
  | cs => ⟨false, (Text.cutAt '.' cs).1, (Text.cutAt '.' cs).2⟩

/-- The digits on both sides of the point. -/
def digits (n : Numeral) : List Char := n.whole ++ n.fraction.getD []

/-- The number that is read, without its sign. -/
def decimal (n : Numeral) : Decimal :=
  ⟨Nat.ofDigitChars 10 n.digits 0, -(n.fraction.getD []).length⟩

/-- Digits, of which the first is zero only before the point, and after a point one at least, the
last not zero. -/
structure IsPlain (n : Numeral) : Prop where
  isDigit : ∀ c ∈ n.digits, c.isDigit
  whole_ne_nil : n.whole ≠ []
  head_whole : n.whole.head? = some '0' → n.whole = ['0']
  fraction_ne_nil : n.fraction ≠ some []
  last_fraction : ∀ cs, n.fraction = some cs → cs.getLast? ≠ some '0'

/-- A hyphen in front is the sign, as there is no other in the text. -/
theorem ofChars_append {cs : List Char} (negative : Bool) (h : '-' ∉ cs) :
    ofChars ((if negative then ['-'] else []) ++ cs) =
      ⟨negative, (Text.cutAt '.' cs).1, (Text.cutAt '.' cs).2⟩ := by
  cases negative with
  | true => rfl
  | false =>
    rw [if_neg Bool.false_ne_true, List.nil_append, ofChars]
    rintro rest rfl
    exact h List.mem_cons_self

end Numeral

theorem digitChar_ne_zero {n : ℕ} (hn : n ≠ 0) (hlt : n < 10) : Nat.digitChar n ≠ '0' := by
  intro heq
  have hvalue := Nat.toNat_digitChar_sub_48_of_lt_ten hlt
  rw [heq] at hvalue
  exact hn hvalue.symm

/-- A numeral has no zero in front unless it is zero. -/
theorem head?_toDigits {n : ℕ} (hn : n ≠ 0) : (Nat.toDigits 10 n).head? ≠ some '0' := by
  induction n using Nat.strongRecOn with
  | ind n ih =>
    rw [Nat.toDigits_eq_if (by decide)]
    split
    · simpa using digitChar_ne_zero hn ‹_›
    · rw [List.head?_append_of_ne_nil _ Nat.toDigits_ne_nil]
      exact ih (n / 10) (by omega) (by omega)

/-- A numeral ends in a zero only when ten divides the number. -/
theorem getLast?_toDigits {n : ℕ} (hn : n % 10 ≠ 0) : (Nat.toDigits 10 n).getLast? ≠ some '0' := by
  rw [Nat.toDigits_eq_if (by decide)]
  split
  · simpa using digitChar_ne_zero (by omega) ‹_›
  · simpa using digitChar_ne_zero hn (Nat.mod_lt _ (by decide))

namespace Decimal

variable {d : Decimal} (negative : Bool)

/-- The digits around the point, if there is one. -/
def padded (d : Decimal) : List Char :=
  List.replicate ((-d.exponent).toNat + 1 - (Nat.toDigits 10 d.digits).length) '0' ++
    Nat.toDigits 10 d.digits

theorem isDigit_padded (d : Decimal) : ∀ c ∈ d.padded, c.isDigit := by
  intro c hc
  rcases List.mem_append.mp hc with hc | hc
  · rw [List.eq_of_mem_replicate hc]
    rfl
  · exact Nat.isDigit_of_mem_toDigits (by decide) (by decide) hc

/-- The zeros that are put in front leave at least one digit before the point. -/
theorem places_lt_length_padded (d : Decimal) : (-d.exponent).toNat < d.padded.length := by
  rw [padded, List.length_append, List.length_replicate]
  omega

/-- Zeros in front do not change the number. -/
theorem ofDigitChars_padded (d : Decimal) : Nat.ofDigitChars 10 d.padded 0 = d.digits := by
  rw [padded, Nat.ofDigitChars_append, Nat.ofDigitChars_replicate_zero, Nat.mul_zero,
    Nat.ofDigitChars_ten_toDigits]

theorem minus_not_mem_positional (d : Decimal) : '-' ∉ d.positional := fun hmem =>
  absurd (d.isDecimal_of_mem_positional _ hmem) (by decide)

theorem isDigit_shifted (d : Decimal) :
    ∀ c ∈ Nat.toDigits 10 d.digits ++ List.replicate d.exponent.toNat '0', c.isDigit := by
  intro c hc
  rcases List.mem_append.mp hc with hc | hc
  · exact Nat.isDigit_of_mem_toDigits (by decide) (by decide) hc
  · rw [List.eq_of_mem_replicate hc]
    rfl

/-- What is read where there is no point. -/
def wholeNumeral (d : Decimal) : Numeral :=
  ⟨negative, Nat.toDigits 10 d.digits ++ List.replicate d.exponent.toNat '0', none⟩

/-- What is read where there is a point. -/
def pointNumeral (d : Decimal) : Numeral :=
  ⟨negative, d.padded.take (d.padded.length - (-d.exponent).toNat),
    some (d.padded.drop (d.padded.length - (-d.exponent).toNat))⟩

/-- There is a point in the text exactly when there are places after it. -/
theorem ofChars_positional (d : Decimal) :
    Numeral.ofChars ((if negative then ['-'] else []) ++ d.positional) =
      if 0 ≤ d.exponent then d.wholeNumeral negative else d.pointNumeral negative := by
  have hpoint : ∀ {cs : List Char}, (∀ c ∈ cs, c.isDigit) → '.' ∉ cs := fun hcs hmem =>
    absurd (hcs _ hmem) (by decide)
  rw [Numeral.ofChars_append negative d.minus_not_mem_positional]
  by_cases hexp : 0 ≤ d.exponent
  · have hplaces : (-d.exponent).toNat = 0 := by omega
    rw [if_pos hexp, positional, if_pos hplaces, Text.cutAt_of_not_mem (hpoint d.isDigit_shifted)]
    rfl
  · have hplaces : (-d.exponent).toNat ≠ 0 := by omega
    have hfront : ∀ c ∈ d.padded.take (d.padded.length - (-d.exponent).toNat), c.isDigit :=
      fun c hc => d.isDigit_padded c (List.mem_of_mem_take hc)
    rw [if_neg hexp, positional, if_neg hplaces]
    exact congrArg (fun cut => Numeral.mk negative cut.1 cut.2)
      (Text.cutAt_append_cons (hpoint hfront) _)

/-- A last digit other than zero, or zero itself. -/
def IsShort (d : Decimal) : Prop := d.digits % 10 ≠ 0 ∨ d = ⟨0, 0⟩

theorem isPlain_wholeNumeral (hd : d.IsShort) : (d.wholeNumeral negative).IsPlain where
  isDigit := by
    rw [Numeral.digits, wholeNumeral, Option.getD_none, List.append_nil]
    exact d.isDigit_shifted
  whole_ne_nil := by simp [wholeNumeral]
  head_whole h := by
    rcases hd with hd | rfl
    · rw [wholeNumeral, List.head?_append_of_ne_nil _ Nat.toDigits_ne_nil] at h
      exact absurd h (head?_toDigits (by omega))
    · rfl
  fraction_ne_nil := by simp [wholeNumeral]
  last_fraction := by simp [wholeNumeral]

/-- The last digit after the point is not zero because the decimal has no zeros to spare. -/
theorem isPlain_pointNumeral (hexp : d.exponent < 0) (hd : d.digits % 10 ≠ 0) :
    (d.pointNumeral negative).IsPlain where
  isDigit := by
    rw [Numeral.digits, pointNumeral, Option.getD_some, List.take_append_drop]
    exact d.isDigit_padded
  whole_ne_nil := by
    have hlength := d.places_lt_length_padded
    apply List.ne_nil_of_length_pos
    rw [pointNumeral, List.length_take]
    omega
  head_whole h := by
    rw [pointNumeral, List.head?_take, if_neg (by have := d.places_lt_length_padded; omega)] at h
    -- Only a zero that is filled in can be first, and then it is the only digit there.
    by_cases hfilled : (-d.exponent).toNat + 1 - (Nat.toDigits 10 d.digits).length = 0
    · rw [padded, hfilled, List.replicate_zero, List.nil_append] at h
      exact absurd h (head?_toDigits (by omega))
    · have hone : d.padded.length - (-d.exponent).toNat = 1 := by
        rw [padded, List.length_append, List.length_replicate]
        omega
      rw [pointNumeral, hone, List.take_one, h]
      rfl
  fraction_ne_nil := by
    have hlength := d.places_lt_length_padded
    rw [pointNumeral, Ne, Option.some_inj, List.drop_eq_nil_iff]
    omega
  last_fraction := by
    have hlength := d.places_lt_length_padded
    intro cs hcs
    rw [← Option.some_inj.mp hcs, List.getLast?_drop, if_neg (by omega), padded,
      List.getLast?_append_of_ne_nil _ Nat.toDigits_ne_nil]
    exact getLast?_toDigits hd

/-- The number that is read has the digits and the value of the one that was written. -/
theorem decimal_pointNumeral (hexp : d.exponent < 0) : (d.pointNumeral negative).decimal = d := by
  have hlength := d.places_lt_length_padded
  obtain ⟨digits, exponent⟩ := d
  simp only [Numeral.decimal, Numeral.digits, pointNumeral, Option.getD_some,
    List.take_append_drop, ofDigitChars_padded, List.length_drop] at *
  congr 1
  omega

theorem decimal_wholeNumeral :
    (d.wholeNumeral negative).decimal = ⟨10 ^ d.exponent.toNat * d.digits, 0⟩ := by
  simp [Numeral.decimal, Numeral.digits, wholeNumeral, Nat.ofDigitChars_append,
    Nat.ofDigitChars_replicate_zero]

theorem significant_shift (d : Decimal) (n : ℕ) (k : ℤ) :
    significant ⟨10 ^ n * d.digits, k⟩ = d.significant := by
  rcases Nat.eq_zero_or_pos d.digits with hzero | hpos
  · rw [significant, significant, hzero, Nat.mul_zero]
  · rw [significant, significant, Nat.digits_base_pow_mul (by decide) hpos,
      List.dropWhile_append_of_pos]
    intro a ha
    rw [List.eq_of_mem_replicate ha]
    rfl

/-- Zeros that are written behind the digits count for the exponent that they stand for. -/
theorem value_shift (d : Decimal) (n : ℕ) {k : ℤ} (hk : k + n = d.exponent) :
    value ⟨10 ^ n * d.digits, k⟩ = d.value := by
  rw [value, value, ← hk, zpow_add₀ (by norm_num), zpow_natCast]
  push_cast
  ring

/-- Plain notation is read as the number that was written. -/
theorem reads_positional (hd : d.IsShort) {n : Numeral}
    (hn : n = Numeral.ofChars ((if negative then ['-'] else []) ++ d.positional)) :
    n.negative = negative ∧ n.IsPlain ∧ n.decimal.value = d.value ∧
      n.decimal.significant = d.significant := by
  rw [ofChars_positional] at hn
  by_cases hexp : 0 ≤ d.exponent
  · rw [if_pos hexp] at hn
    subst hn
    rw [decimal_wholeNumeral, value_shift d _ (by omega), significant_shift]
    exact ⟨rfl, isPlain_wholeNumeral negative hd, rfl, rfl⟩
  · rw [if_neg hexp] at hn
    subst hn
    have hlast : d.digits % 10 ≠ 0 := hd.resolve_right fun hzero => hexp (by rw [hzero])
    rw [decimal_pointNumeral negative (by omega)]
    exact ⟨rfl, isPlain_pointNumeral negative (by omega) hlast, rfl, rfl⟩

end Decimal

end SeriesQuery
