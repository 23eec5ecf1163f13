import Mathlib.Data.List.TakeWhile
import Mathlib.Data.Nat.Digits.Lemmas
import SeriesQuery.Number.Shortest
import SeriesQuery.Proofs.Rounding

/-! The shortest decimal. The search stops at the coarsest grid that meets the reals rounding to
the number, so a decimal with fewer digits, which would lie on a coarser one, rounds elsewhere. -/

namespace SeriesQuery

namespace Decimal

variable {d e : Decimal}

def value (d : Decimal) : ℚ := d.digits * 10 ^ d.exponent

theorem value_nonneg (d : Decimal) : 0 ≤ d.value := by
  rw [value]
  positivity

/-- How many digits there are up to the last that is not zero. -/
def significant (d : Decimal) : ℕ :=
  ((Nat.digits 10 d.digits).dropWhile (· == 0)).length

/-- Without its trailing zeros a decimal is a multiple of a greater power of ten. -/
theorem exists_significant (d : Decimal) : ∃ (n : ℕ) (k : ℤ), n < 10 ^ d.significant ∧
    d.exponent ≤ k ∧ d.value = n * 10 ^ k := by
  let zeros := (Nat.digits 10 d.digits).takeWhile (· == 0)
  let rest := (Nat.digits 10 d.digits).dropWhile (· == 0)
  have hzeros : zeros = List.replicate zeros.length 0 :=
    List.eq_replicate_of_mem fun a ha => by simpa using List.mem_takeWhile_imp ha
  have hdigits : d.digits = 10 ^ zeros.length * Nat.ofDigits 10 rest := by
    have happend : zeros ++ rest = Nat.digits 10 d.digits := List.takeWhile_append_dropWhile
    have hzero : Nat.ofDigits 10 zeros = 0 := by
      rw [hzeros, Nat.ofDigits_replicate_zero]
    have hsum := congrArg (Nat.ofDigits 10) happend
    rw [Nat.ofDigits_append, hzero, Nat.ofDigits_digits, zero_add] at hsum
    exact hsum.symm
  refine ⟨Nat.ofDigits 10 rest, d.exponent + zeros.length, ?_, by omega, ?_⟩
  · refine Nat.ofDigits_lt_base_pow_length (by decide) fun a ha => ?_
    exact Nat.digits_lt_base (by decide) (List.dropWhile_sublist _ |>.subset ha)
  · rw [value, hdigits, zpow_add₀ (by norm_num), zpow_natCast]
    push_cast
    ring

theorem pow_significant_le (hd : d.digits ≠ 0) : 10 ^ (d.significant - 1) ≤ d.digits := by
  have hlength : d.significant ≤ (Nat.digits 10 d.digits).length :=
    (List.dropWhile_sublist _).length_le
  have hpow := Nat.base_pow_length_digits_le 10 d.digits (by decide) hd
  have hpos : 0 < (Nat.digits 10 d.digits).length := 
    List.length_pos_of_ne_nil (Nat.digits_ne_nil_iff_ne_zero.mpr hd)
  rw [← Nat.sub_add_cancel hpos, Nat.pow_succ'] at hpow
  exact (Nat.pow_le_pow_right (by decide) (by omega)).trans
    (Nat.le_of_mul_le_mul_left hpow (by decide))

end Decimal

namespace Binary64

variable {x : Binary64} {k : ℤ} {d : ℕ}

/-! ## The ends of the interval -/

theorem pow_toNat {r : ℚ} (hr : r ≠ 0) (k : ℤ) : r ^ k.toNat = r ^ k * r ^ (-k).toNat := by
  rw [← zpow_natCast, ← zpow_natCast, ← zpow_add₀ hr]
  congr 1
  omega

/-- The unit in which `quarterPlace` counts both a quarter of the last place and the grid. -/
theorem exists_quarterPlace (x : Binary64) (k : ℤ) : ∃ t : ℚ, 0 < t ∧
    (x.quarterPlace k).1 = t * 2 ^ (x.exponent - 2) ∧ (x.quarterPlace k).2 = t * 10 ^ k := by
  refine ⟨2 ^ (2 - x.exponent).toNat * 10 ^ (-k).toNat, by positivity, ?_, ?_⟩
  · have htwo := pow_toNat two_ne_zero (x.exponent - 2)
    rw [neg_sub] at htwo
    simp only [quarterPlace, Nat.pow_eq]
    push_cast
    rw [htwo]
    ring
  · have hten := pow_toNat (show (10 : ℚ) ≠ 0 by norm_num) k
    simp only [quarterPlace, Nat.pow_eq]
    push_cast
    rw [hten]
    ring

theorem quarters_lt_iff (x : Binary64) (k : ℤ) (m n : ℕ) :
    m * (x.quarterPlace k).1 < n * (x.quarterPlace k).2 ↔
      m * (2 : ℚ) ^ (x.exponent - 2) < n * 10 ^ k := by
  obtain ⟨t, ht, hnum, hden⟩ := x.exists_quarterPlace k
  rw [← @Nat.cast_lt ℚ, Nat.cast_mul, Nat.cast_mul, hnum, hden, mul_left_comm,
    mul_left_comm (n : ℚ), mul_lt_mul_iff_of_pos_left ht]

theorem lt_quarters_iff (x : Binary64) (k : ℤ) (m n : ℕ) :
    n * (x.quarterPlace k).2 < m * (x.quarterPlace k).1 ↔
      n * (10 : ℚ) ^ k < m * 2 ^ (x.exponent - 2) := by
  obtain ⟨t, ht, hnum, hden⟩ := x.exists_quarterPlace k
  rw [← @Nat.cast_lt ℚ, Nat.cast_mul, Nat.cast_mul, hnum, hden, mul_left_comm,
    mul_left_comm (m : ℚ), mul_lt_mul_iff_of_pos_left ht]

/-- The size counted in quarters of the last place. -/
theorem size_eq_quarters (x : Binary64) :
    x.size = (4 * x.significand : ℕ) * 2 ^ (x.exponent - 2) := by
  rw [size, zpow_sub₀ two_ne_zero]
  push_cast
  ring

theorem upperEnd_eq (x : Binary64) :
    x.upperEnd * (2 : ℚ) ^ (x.exponent - 2) = border (x.pattern + 1) := by
  rw [border_succ, ← size_eq, size_eq_quarters, ← exponent_eq, upperEnd,
    show x.exponent - 1 = x.exponent - 2 + 1 by ring, zpow_add_one₀ two_ne_zero]
  push_cast
  ring

/-- The places halve below a power of two, unless the number is one of the least. -/
theorem place_before {b : ℕ} (x : Binary64) (hb : x.pattern = b + 1) :
    place b = if x.fraction = 0 ∧ 1 < x.exponentField then x.exponent - 1 else x.exponent := by
  rw [exponent_eq, fraction_eq, exponentField_eq, hb, place, place]
  by_cases hpower : (b + 1) % fieldWeight = 0 ∧ 1 < (b + 1) / fieldWeight
  · rw [if_pos hpower]
    simp only [fieldWeight] at *
    omega
  · rw [if_neg hpower]
    simp only [fieldWeight] at *
    omega

theorem lowerEnd_eq (x : Binary64) :
    x.lowerEnd * (2 : ℚ) ^ (x.exponent - 2) = border x.pattern := by
  cases hb : x.pattern with
  | zero =>
    have hsig : x.significand = 0 := by
      rw [significand, exponentField_eq, fraction_eq, hb]
      rfl
    simp [lowerEnd, hsig, border]
  | succ b =>
    have hpos : 1 ≤ x.significand := by
      rw [significand, exponentField_eq, fraction_eq, hb]
      split
      · simp only [fieldWeight] at *
        omega
      · exact Nat.le_add_right_of_le (by decide)
    rw [border_eq_amount_sub, ← hb, ← size_eq, size_eq_quarters, lowerEnd, place_before x hb]
    split
    · rw [show x.exponent - 1 - 1 = x.exponent - 2 by ring]
      push_cast [show 1 ≤ 4 * x.significand by omega]
      ring
    · rw [show x.exponent - 1 = x.exponent - 2 + 1 by ring, zpow_add_one₀ two_ne_zero]
      push_cast [show 2 ≤ 4 * x.significand by omega]
      ring

/-- Whether a decimal is read back can be decided in whole numbers. -/
theorem readsBack_iff : x.readsBack k d = true ↔ Within x.pattern (d * 10 ^ k) := by
  rw [Within, ← upperEnd_eq, ← lowerEnd_eq, ← significand_mod_two]
  simp only [readsBack]
  split
  · rw [Bool.and_eq_true, decide_eq_true_iff, decide_eq_true_iff, ← not_lt, lt_quarters_iff,
      ← not_lt, quarters_lt_iff, not_lt, not_lt]
  · rw [Bool.and_eq_true, decide_eq_true_iff, decide_eq_true_iff, lt_quarters_iff, quarters_lt_iff]

/-! ## One grid -/

/-- The greatest multiple of `10 ^ k` up to the number. -/
def gridBelow (x : Binary64) (k : ℤ) : ℕ :=
  4 * x.significand * (x.quarterPlace k).1 / (x.quarterPlace k).2

theorem gridBelow_le (x : Binary64) (k : ℤ) : x.gridBelow k * 10 ^ k ≤ x.size := by
  rw [size_eq_quarters, ← not_lt, ← quarters_lt_iff, not_lt]
  exact Nat.div_mul_le_self _ _

theorem lt_gridBelow (x : Binary64) (k : ℤ) : x.size < (x.gridBelow k + 1 : ℕ) * 10 ^ k := by
  have hden : 0 < (x.quarterPlace k).2 :=
    Nat.mul_pos (Nat.pow_pos (by decide)) (Nat.pow_pos (by decide))
  rw [size_eq_quarters, ← quarters_lt_iff]
  exact Nat.lt_mul_of_div_lt (Nat.lt_succ_self _) hden

/-- If any point of a grid reads back, so does one of the two next to the number. -/
theorem readsBack_gridBelow (h : x.readsBack k d = true) :
    x.readsBack k (x.gridBelow k) = true ∨ x.readsBack k (x.gridBelow k + 1) = true := by
  have hsize : Within x.pattern x.size := x.size_eq ▸ within_amount x.pattern
  have hgrid : ∀ {m n : ℕ}, m ≤ n → (m : ℚ) * 10 ^ k ≤ n * 10 ^ k := fun hmn =>
    mul_le_mul_of_nonneg_right (by exact_mod_cast hmn) (by positivity)
  simp only [readsBack_iff] at *
  rcases Nat.lt_or_ge (x.gridBelow k) d with hlt | hge
  · exact .inr (hsize.of_le_of_le h (x.lt_gridBelow k).le (hgrid hlt))
  · exact .inl (h.of_le_of_le hsize (hgrid hge) (x.gridBelow_le k))

theorem readsBack_of_onGrid? (h : x.onGrid? k = some d) : x.readsBack k d = true := by
  simp only [onGrid?] at h
  split at h <;> grind

/-- Where neither neighbour on the grid is read back, no other decimal on it is. -/
theorem not_readsBack_of_onGrid? (h : x.onGrid? k = none) (d : ℕ) : x.readsBack k d = false := by
  by_contra hd
  have hnear := readsBack_gridBelow (Bool.eq_true_of_not_eq_false hd)
  simp only [onGrid?] at h
  split at h <;> simp_all [gridBelow]

/-! ## The search -/

/-- A search that is certain to end finds a point of the first grid that has one. -/
theorem shortestFrom_spec (fuel : ℕ) (k : ℤ) {n : ℕ} (h : x.readsBack (k - fuel) n = true) :
    x.readsBack (x.shortestFrom fuel k).exponent (x.shortestFrom fuel k).digits = true ∧
      ∀ (j : ℤ) (m : ℕ), (x.shortestFrom fuel k).exponent < j → j ≤ k →
        x.readsBack j m = false := by
  induction fuel generalizing k with
  | zero =>
    rw [Nat.cast_zero, sub_zero] at h
    obtain ⟨d, hd⟩ : ∃ d, x.onGrid? k = some d := by
      cases hgrid : x.onGrid? k with
      | none => simp [not_readsBack_of_onGrid? hgrid n] at h
      | some d => exact ⟨d, rfl⟩
    simp only [shortestFrom, hd, Option.getD_some]
    exact ⟨readsBack_of_onGrid? hd, fun j m hj hjk => absurd hj (by omega)⟩
  | succ fuel ih =>
    cases hgrid : x.onGrid? k with
    | some d =>
      simp only [shortestFrom, hgrid]
      exact ⟨readsBack_of_onGrid? hgrid, fun j m hj hjk => absurd hj (by omega)⟩
    | none =>
      rw [show k - ((fuel + 1 : ℕ) : ℤ) = k - 1 - fuel by push_cast; ring] at h
      obtain ⟨hfound, hcoarser⟩ := ih (k - 1) h
      simp only [shortestFrom, hgrid]
      refine ⟨hfound, fun j m hj hjk => ?_⟩
      by_cases hlast : j = k
      · rw [hlast]
        exact not_readsBack_of_onGrid? hgrid m
      · exact hcoarser j m hj (by omega)

/-- Every number is a multiple of the power of ten that the search ends at. -/
theorem exists_size_eq (x : Binary64) : ∃ n : ℕ, x.size = n * 10 ^ (-1074 : ℤ) := by
  obtain ⟨n, hn⟩ : ∃ n : ℕ, x.exponent = n + -1074 := by
    have hle : 1 ≤ max x.exponentField 1 := le_max_right _ _
    refine ⟨max x.exponentField 1 - 1, ?_⟩
    rw [exponent]
    omega
  have hten : (10 : ℚ) ^ (-1074 : ℤ) = 2 ^ (-1074 : ℤ) * 5 ^ (-1074 : ℤ) := by
    rw [← mul_zpow]
    norm_num
  have hfive : (5 : ℚ) ^ 1074 * 5 ^ (-1074 : ℤ) = 1 := by
    rw [← zpow_natCast, ← zpow_add₀ (by norm_num)]
    rfl
  refine ⟨x.significand * 2 ^ n * 5 ^ 1074, ?_⟩
  calc x.size = x.significand * 2 ^ n * 2 ^ (-1074 : ℤ) * (5 ^ 1074 * 5 ^ (-1074 : ℤ)) := by
        rw [hfive, mul_one, size, hn, zpow_add₀ two_ne_zero, zpow_natCast, mul_assoc]
    _ = ((x.significand * 2 ^ n * 5 ^ 1074 : ℕ) : ℚ) * 10 ^ (-1074 : ℤ) := by
        rw [hten, Nat.cast_mul, Nat.cast_mul, Nat.cast_pow, Nat.cast_pow]
        simp only [Nat.cast_ofNat, mul_assoc, mul_left_comm]

/-- Zero rounds to no other number. -/
theorem not_within_zero {b : ℕ} (hb : b ≠ 0) : ¬ Within b 0 := fun h =>
  hb (h.unique (amount_zero ▸ within_amount 0))

/-- What rounds to a finite number is less than the first power of ten beyond them all. -/
theorem Within.lt_ten_pow {q : ℚ} (h : Within x.pattern q) (hx : x.isFinite) : q < 10 ^ 309 := by
  have hborder : border (x.pattern + 1) ≤ border infinitePattern :=
    border_strictMono.monotone (x.isFinite_iff.mp hx)
  have hten : (2 : ℚ) ^ 1024 < 10 ^ 309 := by
    exact_mod_cast (by decide +kernel : 2 ^ 1024 < 10 ^ 309)
  have htwo : (0 : ℚ) < 2 ^ 970 := by positivity
  rw [border_infinitePattern] at hborder
  have hle := h.border_le.2
  generalize (2 : ℚ) ^ 1024 = a at *
  generalize (2 : ℚ) ^ 970 = b at *
  generalize (10 : ℚ) ^ 309 = c at *
  linarith

/-- No power of ten beyond the search's first grid rounds to a finite number. -/
theorem not_readsBack_of_coarse (hx : x.isFinite) (hzero : x.pattern ≠ 0) (hk : 308 < k) :
    x.readsBack k d = false := by
  by_contra hd
  have hwithin := readsBack_iff.mp (Bool.eq_true_of_not_eq_false hd)
  have hpos : 1 ≤ d := by
    by_contra hlt
    rw [show d = 0 by omega, Nat.cast_zero, zero_mul] at hwithin
    exact not_within_zero hzero hwithin
  have hlarge : (10 : ℚ) ^ 309 ≤ d * 10 ^ k := calc
    (10 : ℚ) ^ 309 = 10 ^ (309 : ℤ) := (zpow_natCast _ _).symm
    _ ≤ 10 ^ k := zpow_le_zpow_right₀ (by norm_num) (by omega)
    _ ≤ d * 10 ^ k := le_mul_of_one_le_left (by positivity) (by exact_mod_cast hpos)
  exact (hwithin.lt_ten_pow hx).not_ge hlarge

section Shortest

variable (hx : x.isFinite) (hzero : x.pattern ≠ 0)
include hx hzero

/-- The shortest decimal rounds to the number, and no multiple of a greater power of ten does. -/
theorem shortest_spec : Within x.pattern x.shortest.value ∧
    ∀ (k : ℤ) (n : ℕ), x.shortest.exponent < k → ¬ Within x.pattern (n * 10 ^ k) := by
  obtain ⟨n, hn⟩ := x.exists_size_eq
  have hgrid : x.readsBack (308 - (1382 : ℕ)) n = true := by
    rw [readsBack_iff, show (308 : ℤ) - (1382 : ℕ) = -1074 by rfl, ← hn, size_eq]
    exact within_amount _
  obtain ⟨hfound, hcoarser⟩ := shortestFrom_spec 1382 308 hgrid
  refine ⟨readsBack_iff.mp hfound, fun k n hk hwithin => ?_⟩
  have hback := readsBack_iff.mpr hwithin
  rcases le_or_gt k 308 with hle | hgt
  · rw [hcoarser k n hk hle] at hback
    exact Bool.false_ne_true hback
  · rw [not_readsBack_of_coarse hx hzero hgt] at hback
    exact Bool.false_ne_true hback

theorem shortest_digits_mod_ten : x.shortest.digits % 10 ≠ 0 := by
  intro hten
  obtain ⟨hfound, hcoarser⟩ := shortest_spec hx hzero
  refine hcoarser _ (x.shortest.digits / 10) (lt_add_one _) ?_
  have hdigits : (x.shortest.digits : ℚ) = (x.shortest.digits / 10 : ℕ) * 10 := by
    exact_mod_cast (by omega : x.shortest.digits = x.shortest.digits / 10 * 10)
  rw [Decimal.value, hdigits] at hfound
  rwa [zpow_add_one₀ (by norm_num), mul_comm _ (10 : ℚ), ← mul_assoc]

/-- No decimal with fewer digits rounds to the number. -/
theorem shortest_significant {e : Decimal} (he : Within x.pattern e.value) :
    x.shortest.significant ≤ e.significant := by
  obtain ⟨hfound, hcoarser⟩ := shortest_spec hx hzero
  obtain ⟨n, k, hn, -, hvalue⟩ := e.exists_significant
  by_contra! hfewer
  rcases lt_or_ge x.shortest.exponent k with hcoarse | hfine
  · exact hcoarser k n hcoarse (hvalue ▸ he)
  -- A finer decimal with fewer digits is smaller, and between the two there is a power of ten.
  have hdigits : x.shortest.digits ≠ 0 := by
    have hmod := shortest_digits_mod_ten hx hzero
    omega
  have hpow : 10 ^ e.significant ≤ x.shortest.digits :=
    (Nat.pow_le_pow_right (by decide) (by omega)).trans (Decimal.pow_significant_le hdigits)
  have hbetween : Within x.pattern (10 ^ e.significant * 10 ^ x.shortest.exponent) := by
    refine he.of_le_of_le hfound ?_ ?_
    · rw [hvalue]
      exact mul_le_mul (by exact_mod_cast hn.le) (zpow_le_zpow_right₀ (by norm_num) hfine)
        (by positivity) (by positivity)
    · exact mul_le_mul_of_nonneg_right (by exact_mod_cast hpow) (by positivity)
  cases hsig : e.significant with
  | zero =>
    have hn : n = 0 := by simpa [hsig] using hn
    rw [hvalue, hn, Nat.cast_zero, zero_mul] at he
    exact not_within_zero hzero he
  | succ m =>
    refine hcoarser (x.shortest.exponent + e.significant) 1 (by omega) ?_
    rwa [Nat.cast_one, one_mul, zpow_add₀ (by norm_num), zpow_natCast, mul_comm]

end Shortest

end Binary64

end SeriesQuery
