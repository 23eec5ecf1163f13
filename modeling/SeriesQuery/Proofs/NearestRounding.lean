import SeriesQuery.Number.Nearest
import SeriesQuery.Proofs.ShortestDecimal

/-! Reading a decimal. The significand is rounded in units of the last place, and the carry into
the exponent is the step to the next pattern, so what is read is what the decimal rounds to. -/

namespace SeriesQuery

/-- The whole number differs by one half at most, and by less if it is odd. -/
theorem roundHalfEven_spec (num : ℕ) {den : ℕ} (hden : 0 < den) :
    2 * roundHalfEven num den * den ≤ 2 * num + den ∧
      2 * num ≤ 2 * roundHalfEven num den * den + den ∧
      (roundHalfEven num den % 2 = 1 → 2 * roundHalfEven num den * den < 2 * num + den ∧
        2 * num < 2 * roundHalfEven num den * den + den) := by
  have hsplit : num / den * den + num % den = num := Nat.div_add_mod' num den
  have hmod : num % den < den := Nat.mod_lt _ hden
  have hnext : (num / den + 1) * den = num / den * den + den := Nat.succ_mul _ _
  simp only [roundHalfEven, Nat.mul_assoc]
  split_ifs with hlow hhigh
  · omega
  · rw [hnext]
    omega
  · rcases Nat.mod_two_eq_zero_or_one (num / den) with heven | hodd
    · rw [heven, Nat.add_zero]
      omega
    · rw [hodd, hnext]
      omega

namespace Decimal

open Binary64

variable {d : Decimal} {q : ℤ}

theorem denominator_pos (d : Decimal) : 0 < d.denominator := Nat.pow_pos (by decide)

theorem numerator_pos (hd : d.digits ≠ 0) : 0 < d.numerator :=
  Nat.mul_pos (Nat.pos_of_ne_zero hd) (Nat.pow_pos (by decide))

/-- The decimal in units of `2 ^ q`, as a fraction. -/
def scaled (d : Decimal) (q : ℤ) : ℕ × ℕ :=
  (d.numerator * Nat.pow 2 (-q).toNat, d.denominator * Nat.pow 2 q.toNat)

theorem scaled_pos (d : Decimal) (q : ℤ) : 0 < (d.scaled q).2 :=
  Nat.mul_pos d.denominator_pos (Nat.pow_pos (by decide))

theorem scaled_eq (d : Decimal) (q : ℤ) :
    ((d.scaled q).1 : ℚ) * 2 ^ q = d.value * (d.scaled q).2 := by
  have hten := pow_toNat (show (10 : ℚ) ≠ 0 by norm_num) d.exponent
  have htwo := pow_toNat two_ne_zero q
  simp only [scaled, numerator, denominator, value, Nat.pow_eq]
  push_cast
  rw [hten, htwo]
  ring

theorem le_scaled_iff (d : Decimal) (q : ℤ) (a : ℚ) :
    a * (d.scaled q).2 ≤ (d.scaled q).1 ↔ a * 2 ^ q ≤ d.value := by
  have hden : (0 : ℚ) < (d.scaled q).2 := by exact_mod_cast d.scaled_pos q
  have htwo : (0 : ℚ) < 2 ^ q := by positivity
  rw [← mul_le_mul_iff_of_pos_right htwo, scaled_eq, mul_right_comm,
    mul_le_mul_iff_of_pos_right hden]

theorem scaled_le_iff (d : Decimal) (q : ℤ) (a : ℚ) :
    (d.scaled q).1 ≤ a * (d.scaled q).2 ↔ d.value ≤ a * 2 ^ q := by
  have hden : (0 : ℚ) < (d.scaled q).2 := by exact_mod_cast d.scaled_pos q
  have htwo : (0 : ℚ) < 2 ^ q := by positivity
  rw [← mul_le_mul_iff_of_pos_right htwo, scaled_eq, mul_right_comm,
    mul_le_mul_iff_of_pos_right hden]

/-! ## The exponent -/

/-- Between the powers of two of numerator and denominator. -/
theorem value_bounds (hd : d.digits ≠ 0) :
    (2 : ℚ) ^ ((d.numerator.log2 : ℤ) - d.denominator.log2 - 1) < d.value ∧
      d.value < 2 ^ ((d.numerator.log2 : ℤ) - d.denominator.log2 + 1) := by
  have hvalue : d.value * d.denominator = d.numerator := by
    simpa [scaled, Nat.pow_eq] using (d.scaled_eq 0).symm
  have hpos : (0 : ℚ) < d.denominator := by exact_mod_cast d.denominator_pos
  have hnum : (2 : ℚ) ^ d.numerator.log2 ≤ d.numerator ∧
      (d.numerator : ℚ) < 2 ^ (d.numerator.log2 + 1) :=
    ⟨by exact_mod_cast Nat.log2_self_le (numerator_pos hd).ne',
      by exact_mod_cast Nat.lt_log2_self⟩
  have hden : (2 : ℚ) ^ d.denominator.log2 ≤ d.denominator ∧
      (d.denominator : ℚ) < 2 ^ (d.denominator.log2 + 1) :=
    ⟨by exact_mod_cast Nat.log2_self_le d.denominator_pos.ne',
      by exact_mod_cast Nat.lt_log2_self⟩
  generalize d.numerator.log2 = m at *
  generalize d.denominator.log2 = n at *
  constructor
  · rw [← mul_lt_mul_iff_of_pos_right hpos, hvalue]
    calc (2 : ℚ) ^ ((m : ℤ) - n - 1) * d.denominator
        < 2 ^ ((m : ℤ) - n - 1) * 2 ^ (n + 1) := mul_lt_mul_of_pos_left hden.2 (by positivity)
      _ = 2 ^ m := by
        rw [← zpow_natCast, ← zpow_natCast, ← zpow_add₀ two_ne_zero]
        push_cast
        ring_nf
      _ ≤ d.numerator := hnum.1
  · rw [← mul_lt_mul_iff_of_pos_right hpos, hvalue]
    calc (d.numerator : ℚ) < 2 ^ (m + 1) := hnum.2
      _ = 2 ^ ((m : ℤ) - n + 1) * 2 ^ n := by
        rw [← zpow_natCast, ← zpow_natCast, ← zpow_add₀ two_ne_zero]
        push_cast
        ring_nf
      _ ≤ 2 ^ ((m : ℤ) - n + 1) * d.denominator :=
        mul_le_mul_of_nonneg_left hden.1 (by positivity)

/-- The exponent leaves a significand of full length, unless it is the least one there is. -/
theorem binaryExponent_spec (hd : d.digits ≠ 0) : -1074 ≤ d.binaryExponent ∧
    d.value < (2 * fieldWeight : ℕ) * 2 ^ d.binaryExponent ∧
    (d.binaryExponent = -1074 ∨ fieldWeight * 2 ^ d.binaryExponent ≤ d.value) := by
  obtain ⟨hlow, hhigh⟩ := value_bounds hd
  obtain ⟨q, hq⟩ : ∃ q : ℤ, q = d.numerator.log2 - d.denominator.log2 - 53 := ⟨_, rfl⟩
  have hfield : (fieldWeight : ℚ) = 2 ^ (52 : ℤ) := by norm_num [fieldWeight]
  have hfits : d.numerator * Nat.pow 2 (-q).toNat <
      2 * fieldWeight * d.denominator * Nat.pow 2 q.toNat ↔
        d.value < (2 * fieldWeight : ℕ) * 2 ^ q := by
    rw [← not_le, ← not_le, not_iff_not, ← le_scaled_iff, ← Nat.cast_mul, Nat.cast_le, scaled,
      Nat.mul_assoc _ d.denominator]
  -- The exponent before the least one is made up for.
  obtain ⟨e, he⟩ : ∃ e : ℤ, e = if d.value < (2 * fieldWeight : ℕ) * 2 ^ q then q else q + 1 :=
    ⟨_, rfl⟩
  have hexponent : d.binaryExponent = max e (-1074) := by
    rw [binaryExponent, ← hq, he]
    simp only [hfits]
  have hbounds : d.value < (2 * fieldWeight : ℕ) * 2 ^ e ∧ fieldWeight * 2 ^ e ≤ d.value := by
    have hscale (k : ℤ) : (fieldWeight : ℚ) * 2 ^ k = 2 ^ (k + 52) := by
      rw [hfield, ← zpow_add₀ two_ne_zero, add_comm]
    have hdouble (k : ℤ) : ((2 * fieldWeight : ℕ) : ℚ) * 2 ^ k = fieldWeight * 2 ^ (k + 1) := by
      rw [zpow_add_one₀ two_ne_zero]
      push_cast
      ring
    by_cases hlt : d.value < (2 * fieldWeight : ℕ) * 2 ^ q
    · rw [if_pos hlt] at he
      rw [he]
      refine ⟨hlt, ?_⟩
      rw [hscale, hq]
      exact hlow.le.trans' (zpow_le_zpow_right₀ one_le_two (by omega))
    · rw [if_neg hlt] at he
      rw [he, ← hdouble]
      refine ⟨?_, not_lt.mp hlt⟩
      rw [hdouble, hscale, hq]
      exact hhigh.trans_le (zpow_le_zpow_right₀ one_le_two (by omega))
  rw [hexponent]
  rcases le_total e (-1074) with hle | hge
  · rw [max_eq_right hle]
    refine ⟨le_rfl, hbounds.1.trans_le ?_, .inl rfl⟩
    exact mul_le_mul_of_nonneg_left (zpow_le_zpow_right₀ one_le_two hle) (by positivity)
  · rw [max_eq_left hge]
    exact ⟨hge, hbounds.1, .inr hbounds.2⟩

/-! ## The significand -/

/-- The significand after rounding. -/
def rounded (d : Decimal) : ℕ :=
  roundHalfEven (d.scaled d.binaryExponent).1 (d.scaled d.binaryExponent).2

/-- The pattern of the number that is read, if it is a finite one. -/
def roundedPattern (d : Decimal) : ℕ :=
  (d.binaryExponent + 1074).toNat * fieldWeight + d.rounded

/-- The significand is half a place away at most, and less if it is odd. -/
theorem rounded_spec (d : Decimal) :
    (d.rounded - 1 / 2) * 2 ^ d.binaryExponent ≤ d.value ∧
      d.value ≤ (d.rounded + 1 / 2) * 2 ^ d.binaryExponent ∧
      (d.rounded % 2 = 1 → (d.rounded - 1 / 2) * 2 ^ d.binaryExponent < d.value ∧
        d.value < (d.rounded + 1 / 2) * 2 ^ d.binaryExponent) := by
  have hspec := roundHalfEven_spec (d.scaled d.binaryExponent).1 (d.scaled_pos d.binaryExponent)
  rw [← rounded] at hspec
  rw [← not_le, ← not_le, ← le_scaled_iff, ← scaled_le_iff, ← scaled_le_iff, ← le_scaled_iff,
    not_le, not_le]
  generalize (d.scaled d.binaryExponent).1 = num at *
  generalize (d.scaled d.binaryExponent).2 = den at *
  generalize d.rounded = m at *
  obtain ⟨hlow, hhigh, hodd⟩ := hspec
  have hlow : (2 * m * den : ℚ) ≤ 2 * num + den := by exact_mod_cast hlow
  have hhigh : (2 * num : ℚ) ≤ 2 * m * den + den := by exact_mod_cast hhigh
  refine ⟨by linarith, by linarith, fun h => ?_⟩
  have hstrict : (2 * m * den : ℚ) < 2 * num + den ∧ (2 * num : ℚ) < 2 * m * den + den := by
    exact_mod_cast hodd h
  exact ⟨by linarith, by linarith⟩

theorem rounded_bounds (hd : d.digits ≠ 0) : d.rounded ≤ 2 * fieldWeight ∧
    (d.binaryExponent = -1074 ∨ fieldWeight ≤ d.rounded) := by
  obtain ⟨hlow, hhigh, -⟩ := d.rounded_spec
  obtain ⟨-, hfits, hnormal⟩ := binaryExponent_spec hd
  have htwo : (0 : ℚ) < 2 ^ d.binaryExponent := by positivity
  constructor
  · have hlt := lt_of_mul_lt_mul_right (hlow.trans_lt hfits) htwo.le
    have hlt : (d.rounded : ℚ) < (2 * fieldWeight : ℕ) + 1 := by linarith
    exact Nat.lt_succ_iff.mp (by exact_mod_cast hlt)
  · refine hnormal.imp_right fun hnormal => ?_
    have hle := le_of_mul_le_mul_right (hnormal.trans hhigh) htwo
    have hlt : (fieldWeight : ℚ) < d.rounded + 1 := by linarith
    exact Nat.lt_succ_iff.mp (by exact_mod_cast hlt)

/-- The binades passed before that of the significand. -/
theorem exists_binades (hd : d.digits ≠ 0) :
    ∃ k : ℕ, d.binaryExponent = k - 1074 ∧ d.roundedPattern = k * fieldWeight + d.rounded ∧
      (k = 0 ∨ fieldWeight ≤ d.rounded) := by
  obtain ⟨hleast, -, -⟩ := binaryExponent_spec hd
  obtain ⟨-, hnormal⟩ := rounded_bounds hd
  exact ⟨(d.binaryExponent + 1074).toNat, by omega, rfl, hnormal.imp_left (by omega)⟩

/-- Whether or not the significand carries into the exponent. -/
theorem amount_roundedPattern (hd : d.digits ≠ 0) :
    amount d.roundedPattern = d.rounded * 2 ^ d.binaryExponent ∧
      d.binaryExponent ≤ place d.roundedPattern := by
  obtain ⟨k, hexponent, hpattern, hk⟩ := exists_binades hd
  obtain ⟨hle, -⟩ := rounded_bounds hd
  rw [hexponent]
  rcases hle.lt_or_eq with hlt | heq
  · rw [amount_of_significand hlt hk hpattern, place_of_significand hlt hk hpattern]
    exact ⟨rfl, le_rfl⟩
  · have hcarry : d.roundedPattern = (k + 1) * fieldWeight + fieldWeight := by
      rw [hpattern, heq]
      ring
    have hone : fieldWeight < 2 * fieldWeight := by decide
    rw [amount_of_significand hone (.inr le_rfl) hcarry,
      place_of_significand hone (.inr le_rfl) hcarry, heq,
      show ((k + 1 : ℕ) : ℤ) - 1074 = k - 1074 + 1 by push_cast; ring, zpow_add_one₀ two_ne_zero]
    refine ⟨?_, by omega⟩
    push_cast
    ring

/-- Below the number that is read, the border is not passed. -/
theorem border_roundedPattern_le (hd : d.digits ≠ 0) : border d.roundedPattern ≤ d.value ∧
    (d.rounded % 2 = 1 → border d.roundedPattern < d.value) := by
  obtain ⟨k, hexponent, hpattern, hk⟩ := exists_binades hd
  obtain ⟨hle, hnormal⟩ := rounded_bounds hd
  obtain ⟨hlow, -, hodd⟩ := d.rounded_spec
  obtain ⟨hamount, -⟩ := amount_roundedPattern hd
  by_cases hpower : d.rounded = fieldWeight ∧ k ≠ 0
  · -- The places below are half as wide, but no decimal that is rounded up lies there.
    obtain ⟨hfield, hk⟩ := hpower
    have hle : fieldWeight * 2 ^ d.binaryExponent ≤ d.value :=
      (binaryExponent_spec hd).2.2.resolve_left (by omega)
    rw [← hfield, ← hamount] at hle
    exact ⟨(border_le_amount _).trans hle, fun hodd => absurd hfield (by rw [fieldWeight]; omega)⟩
  · cases hrounded : d.rounded with
    | zero =>
      have hzero : d.roundedPattern = 0 := by
        have hk : k = 0 := hk.resolve_right (by rw [hrounded]; decide)
        rw [hpattern, hrounded, hk, Nat.zero_mul]
      rw [hzero]
      exact ⟨d.value_nonneg, by simp⟩
    | succ n =>
      have hbefore : d.roundedPattern = k * fieldWeight + n + 1 := by
        rw [hpattern, hrounded, Nat.add_assoc]
      have hplace : place (k * fieldWeight + n) = d.binaryExponent := by
        rw [place_of_significand (by omega) (by omega) rfl, hexponent]
      have hborder : border d.roundedPattern = (d.rounded - 1 / 2) * 2 ^ d.binaryExponent := by
        rw [hbefore, border_eq_amount_sub, hplace, ← hbefore, hamount, zpow_sub_one₀ two_ne_zero]
        ring
      rw [hborder, ← hrounded]
      exact ⟨hlow, fun h => (hodd h).1⟩

theorem within_roundedPattern (hd : d.digits ≠ 0) : Within d.roundedPattern d.value := by
  obtain ⟨k, -, hpattern, -⟩ := exists_binades hd
  obtain ⟨-, hhigh, hodd⟩ := d.rounded_spec
  obtain ⟨hamount, hplace⟩ := amount_roundedPattern hd
  obtain ⟨hborder, hborderOdd⟩ := border_roundedPattern_le hd
  have hparity : d.roundedPattern % 2 = d.rounded % 2 := by
    rw [hpattern, fieldWeight]
    omega
  have hhalf : (d.rounded + 1 / 2) * 2 ^ d.binaryExponent ≤ border (d.roundedPattern + 1) := by
    have hpow : (2 : ℚ) ^ (d.binaryExponent - 1) ≤ 2 ^ (place d.roundedPattern - 1) :=
      zpow_le_zpow_right₀ one_le_two (by omega)
    rw [zpow_sub_one₀ two_ne_zero] at hpow
    rw [border_succ, hamount]
    linarith
  rw [Within]
  split
  · exact ⟨hborder, hhigh.trans hhalf⟩
  · have hodd := hodd (by omega)
    exact ⟨hborderOdd (by omega), hodd.2.trans_le hhalf⟩

/-! ## What is read -/

/-- Below half a place past the largest number there is a nearest one, and it is found. -/
theorem nearest_rounds (negative : Bool) (hd : d.value < 2 ^ 1024 - 2 ^ 970) :
    Rounds negative d.value (d.nearest negative) := by
  have hpack {b : ℕ} (hb : b < infinitePattern) (hwithin : Within b d.value) :
      Rounds negative d.value (pack negative 0 b) := by
    obtain ⟨hnegative, hpattern⟩ :=
      pack_zero_pattern negative (hb.trans (by decide : _ < signWeight))
    rw [rounds_iff d.value_nonneg, isFinite_iff, hpattern]
    exact ⟨hb, hnegative, hwithin⟩
  by_cases hzero : d.digits = 0
  · rw [nearest, if_pos hzero]
    refine hpack (by decide) ?_
    have hvalue : d.value = amount 0 := by
      rw [value, hzero, amount_zero, Nat.cast_zero, zero_mul]
    rw [hvalue]
    exact within_amount 0
  · have hwithin := within_roundedPattern hzero
    have hlt : d.roundedPattern < infinitePattern := by
      rw [← border_infinitePattern] at hd
      exact border_strictMono.lt_iff_lt.mp (hwithin.border_le.1.trans_lt hd)
    have hnearest : d.nearest negative = pack negative 0 d.roundedPattern := by
      rw [nearest, if_neg hzero]
      exact if_neg (not_le.mpr hlt)
    rw [hnearest]
    exact hpack hlt hwithin

/-- The nearest number is the one that the decimal rounds to. -/
theorem nearest_eq_of_rounds {negative : Bool} {x : Binary64} (h : Rounds negative d.value x) :
    d.nearest negative = x :=
  (nearest_rounds negative h.inRange).unique d.value_nonneg h

end Decimal

namespace Decimal

variable {d : Decimal}

/-- The first digit counts the power of ten that comes last below the decimal. -/
theorem value_magnitude (hd : d.digits ≠ 0) :
    10 ^ d.magnitude ≤ d.value ∧ d.value < 10 ^ (d.magnitude + 1) := by
  obtain ⟨n, hn⟩ : ∃ n, (Nat.toDigits 10 d.digits).length = n + 1 :=
    ⟨_, (Nat.sub_add_cancel Nat.length_toDigits_pos).symm⟩
  have hmagnitude : d.magnitude = n + d.exponent := by
    rw [magnitude, hn]
    omega
  have hlow : 10 ^ n ≤ d.digits := by
    cases n with
    | zero => omega
    | succ n =>
      have hlength := @Nat.length_toDigits_le_iff 10 d.digits (n + 1) (by decide) n.succ_pos
      rw [hn] at hlength
      omega
  have hhigh : d.digits < 10 ^ (n + 1) :=
    (Nat.length_toDigits_le_iff (by decide) n.succ_pos).mp hn.le
  rw [hmagnitude, value, add_right_comm, zpow_add₀ (by norm_num), zpow_add₀ (by norm_num)]
  constructor
  · exact mul_le_mul_of_nonneg_right (by exact_mod_cast hlow) (by positivity)
  · exact mul_lt_mul_of_pos_right (by exact_mod_cast hhigh) (by positivity)

end Decimal

/-- Magnitudes are bounded by those of the least and of the greatest number. -/
theorem Binary64.Within.magnitude_bounds {x : Binary64} {d : Decimal}
    (h : Within x.pattern d.value) (hx : x.isFinite) (hzero : x.pattern ≠ 0) (hd : d.digits ≠ 0) :
    -400 ≤ d.magnitude + 1 ∧ d.magnitude + 1 ≤ 400 := by
  obtain ⟨hlow, hhigh⟩ := Decimal.value_magnitude hd
  constructor
  · by_contra! hsmall
    have hleast : (2 : ℚ) ^ (-1075 : ℤ) ≤ d.value := by
      have hborder := border_strictMono.monotone (Nat.one_le_iff_ne_zero.mpr hzero)
      have hone : border 1 = 2 ^ (-1075 : ℤ) := by
        rw [border_succ, amount_zero, zero_add]
        rfl
      exact hone ▸ hborder.trans h.border_le.1
    have hten : (10 : ℚ) ^ (-400 : ℤ) < 2 ^ (-1075 : ℤ) := by
      have hpow : (2 : ℚ) ^ 1075 < 10 ^ 400 := by
        exact_mod_cast (by decide +kernel : 2 ^ 1075 < 10 ^ 400)
      rw [zpow_neg, zpow_neg, zpow_ofNat, zpow_ofNat]
      exact inv_strictAnti₀ (by positivity) hpow
    have hle : (10 : ℚ) ^ (d.magnitude + 1) ≤ 10 ^ (-400 : ℤ) :=
      zpow_le_zpow_right₀ (by norm_num) hsmall.le
    exact (hhigh.trans_le hle).not_ge (hten.le.trans hleast)
  · by_contra! hlarge
    have hle : (10 : ℚ) ^ (309 : ℤ) ≤ 10 ^ d.magnitude :=
      zpow_le_zpow_right₀ (by norm_num) (by omega)
    rw [zpow_ofNat] at hle
    exact (h.lt_ten_pow hx).not_ge (hle.trans hlow)

end SeriesQuery
