import Mathlib.Tactic.Linarith
import Mathlib.Tactic.Positivity
import Mathlib.Tactic.Ring
import Mathlib.Algebra.Order.Field.Rat
import Mathlib.Algebra.Order.Field.Power
import Mathlib.Order.Monotone.Basic
import SeriesQuery.Number.Binary64

/-! Rounding to the nearest binary number. In the order of their bit patterns the numbers of one
sign grow, and what rounds to one of them lies between the points halfway to its neighbours. -/

namespace SeriesQuery.Binary64

variable {b c : ℕ}

/-! ## Numbers in the order of their patterns -/

/-- The bits but for the sign. -/
def pattern (x : Binary64) : ℕ := x.bits.toNat % signWeight

/-- The power of two that the last place of a pattern counts. -/
def place (b : ℕ) : ℤ := (max (b / fieldWeight) 1 : ℕ) - 1075

/-- The number with a pattern. That of infinity has the one that would come after the greatest
finite number. -/
def amount (b : ℕ) : ℚ :=
  (if b / fieldWeight = 0 then b % fieldWeight else fieldWeight + b % fieldWeight : ℕ) *
    2 ^ place b

/-- A pattern in two parts: the significand, and how many binades are passed. -/
theorem exists_significand (b : ℕ) : ∃ k m : ℕ, m < 2 * fieldWeight ∧ (k = 0 ∨ fieldWeight ≤ m) ∧
    b = k * fieldWeight + m := by
  by_cases hb : b < 2 * fieldWeight
  · exact ⟨0, b, hb, .inl rfl, by simp⟩
  · refine ⟨b / fieldWeight - 1, b % fieldWeight + fieldWeight, ?_⟩
    simp only [fieldWeight] at *
    omega

theorem place_of_significand {k m : ℕ} (hm : m < 2 * fieldWeight) (hk : k = 0 ∨ fieldWeight ≤ m)
    (hb : b = k * fieldWeight + m) : place b = k - 1074 := by
  have hfield : max (b / fieldWeight) 1 = k + 1 := by
    simp only [fieldWeight] at *
    omega
  rw [place, hfield]
  push_cast
  ring

theorem amount_of_significand {k m : ℕ} (hm : m < 2 * fieldWeight) (hk : k = 0 ∨ fieldWeight ≤ m)
    (hb : b = k * fieldWeight + m) : amount b = m * 2 ^ (k - 1074 : ℤ) := by
  rw [amount, place_of_significand hm hk hb]
  congr 2
  by_cases hzero : b / fieldWeight = 0
  · rw [if_pos hzero]
    simp only [fieldWeight] at *
    omega
  · rw [if_neg hzero]
    simp only [fieldWeight] at *
    omega

/-- From one number to the next it is one last place. -/
theorem amount_succ (b : ℕ) : amount (b + 1) = amount b + 2 ^ place b := by
  obtain ⟨k, m, hm, hk, hb⟩ := exists_significand b
  rw [amount_of_significand hm hk hb, place_of_significand hm hk hb]
  by_cases hnext : m + 1 < 2 * fieldWeight
  · rw [amount_of_significand hnext (hk.imp_right (by omega)) (by omega)]
    push_cast
    ring
  · have hcarry : b + 1 = (k + 1) * fieldWeight + fieldWeight := by
      simp only [fieldWeight] at *
      omega
    have hlast : (m : ℚ) + 1 = 2 * fieldWeight := by
      have hlast : m + 1 = 2 * fieldWeight := by omega
      exact_mod_cast hlast
    rw [amount_of_significand (by decide) (.inr le_rfl) hcarry,
      show ((k + 1 : ℕ) : ℤ) - 1074 = (k - 1074) + 1 by push_cast; ring,
      zpow_add_one₀ two_ne_zero]
    calc (fieldWeight : ℚ) * (2 ^ (k - 1074 : ℤ) * 2)
        = 2 * fieldWeight * 2 ^ (k - 1074 : ℤ) := by ring
      _ = m * 2 ^ (k - 1074 : ℤ) + 2 ^ (k - 1074 : ℤ) := by rw [← hlast]; ring

/-- Larger patterns stand for larger amounts, across all exponents. -/
theorem amount_strictMono : StrictMono amount := by
  refine strictMono_nat_of_lt_succ fun b => ?_
  rw [amount_succ]
  exact lt_add_of_pos_right _ (by positivity)

theorem amount_zero : amount 0 = 0 := by
  simp [amount]

/-- The pattern that comes after those of the finite numbers. -/
def infinitePattern : ℕ := 2047 * fieldWeight

/-- The number without its sign. -/
def size (x : Binary64) : ℚ := x.significand * 2 ^ x.exponent

variable {x y : Binary64}

theorem exponentField_eq (x : Binary64) : x.exponentField = x.pattern / fieldWeight := by
  simp only [exponentField, pattern, fieldWeight, signWeight]
  omega

theorem fraction_eq (x : Binary64) : x.fraction = x.pattern % fieldWeight := by
  simp only [fraction, pattern, fieldWeight, signWeight]
  omega

theorem exponent_eq (x : Binary64) : x.exponent = place x.pattern := by
  rw [exponent, place, exponentField_eq]

theorem size_eq (x : Binary64) : x.size = amount x.pattern := by
  rw [size, amount, exponent_eq, significand, exponentField_eq, fraction_eq]

theorem significand_mod_two (x : Binary64) : x.significand % 2 = x.pattern % 2 := by
  rw [significand, exponentField_eq, fraction_eq]
  split
  · simp only [fieldWeight]
    omega
  · simp only [fieldWeight]
    omega

theorem pattern_lt (x : Binary64) : x.pattern < signWeight := Nat.mod_lt _ (by decide)

theorem isFinite_iff (x : Binary64) : x.isFinite ↔ x.pattern < infinitePattern := by
  have hlt := x.pattern_lt
  rw [isFinite, bne_iff_ne, exponentField_eq]
  simp only [infinitePattern, fieldWeight, signWeight] at *
  omega

/-- Patterns with the same sign and the same other bits are one. -/
theorem eq_of_pattern_eq (hsign : x.isNegative = y.isNegative) (h : x.pattern = y.pattern) :
    x = y := by
  obtain ⟨x⟩ := x
  obtain ⟨y⟩ := y
  have hx := x.toNat_lt
  have hy := y.toNat_lt
  simp only [isNegative, pattern, signWeight, beq_eq_beq] at hsign h
  congr 1
  apply UInt64.toNat_inj.mp
  omega

theorem pack_zero_pattern (negative : Bool) (hb : b < signWeight) :
    (pack negative 0 b).isNegative = negative ∧ (pack negative 0 b).pattern = b := by
  have htoNat : (pack negative 0 b).bits.toNat = (if negative then signWeight else 0) + b := by
    rw [pack, UInt64.toNat_ofNat']
    cases negative <;> simp [signWeight] at * <;> omega
  constructor
  · rw [isNegative, htoNat]
    cases negative <;> simp [signWeight] at * <;> omega
  · rw [pattern, htoNat]
    cases negative <;> simp [signWeight] at * <;> omega

/-! ## Rounding -/

/-- An amount with a sign rounds to a number with that sign: there is none nearer, of two that are
equally near it is the even one, and the amount is not so great that the first power of two beyond
the finite numbers would be as near. -/
structure Rounds (negative : Bool) (q : ℚ) (x : Binary64) : Prop where
  isFinite : x.isFinite
  isNegative : x.isNegative = negative
  nearest : ∀ y : Binary64, y.isFinite → |q - x.size| ≤ |q - y.size|
  even : ∀ y : Binary64, y.isFinite → y.size ≠ x.size → |q - x.size| = |q - y.size| →
    x.significand % 2 = 0
  inRange : q < 2 ^ 1024 - 2 ^ 970

/-- The point halfway to the number before, if there is one. -/
def border : ℕ → ℚ
  | 0 => 0
  | b + 1 => (amount b + amount (b + 1)) / 2

/-- Between the points halfway to the neighbours, which only belong to an even pattern. -/
def Within (b : ℕ) (q : ℚ) : Prop :=
  if b % 2 = 0 then border b ≤ q ∧ q ≤ border (b + 1) else border b < q ∧ q < border (b + 1)

theorem border_succ (b : ℕ) : border (b + 1) = amount b + 2 ^ (place b - 1) := by
  rw [border, amount_succ, zpow_sub_one₀ two_ne_zero]
  ring

theorem border_eq_amount_sub (b : ℕ) : border (b + 1) = amount (b + 1) - 2 ^ (place b - 1) := by
  rw [border_succ, amount_succ, zpow_sub_one₀ two_ne_zero]
  ring

theorem border_le_amount (b : ℕ) : border b ≤ amount b := by
  cases b with
  | zero => exact amount_zero.ge
  | succ b =>
    have hlt := amount_strictMono b.lt_succ_self
    rw [border]
    linarith

theorem amount_lt_border (b : ℕ) : amount b < border (b + 1) := by
  rw [border_succ]
  exact lt_add_of_pos_right _ (by positivity)

theorem border_strictMono : StrictMono border :=
  strictMono_nat_of_lt_succ fun b => (border_le_amount b).trans_lt (amount_lt_border b)

theorem border_infinitePattern : border infinitePattern = 2 ^ 1024 - 2 ^ 970 := by
  have hpattern : infinitePattern = 2045 * fieldWeight + (2 * fieldWeight - 1) + 1 := by decide
  have hlast : ((2 * fieldWeight - 1 : ℕ) : ℚ) = 2 ^ 53 - 1 := by norm_num [fieldWeight]
  have hm : 2 * fieldWeight - 1 < 2 * fieldWeight := by decide
  have hk : 2045 = 0 ∨ fieldWeight ≤ 2 * fieldWeight - 1 := .inr (by decide)
  have h1024 : (2 : ℚ) ^ 1024 = 2 ^ 53 * 2 ^ 971 := (pow_add 2 53 971)
  have h971 : (2 : ℚ) ^ 971 = 2 * 2 ^ 970 := pow_succ' 2 970
  rw [hpattern, border_succ, amount_of_significand hm hk rfl, place_of_significand hm hk rfl, hlast,
    show ((2045 : ℕ) : ℤ) - 1074 = (971 : ℕ) by rfl, show ((971 : ℕ) : ℤ) - 1 = (970 : ℕ) by rfl,
    zpow_natCast, zpow_natCast, h1024]
  generalize (2 : ℚ) ^ 970 = a at *
  rw [h971]
  ring

/-- The reals that round to a pattern are an interval. -/
theorem Within.of_le_of_le {q r s : ℚ} (hq : Within b q) (hs : Within b s) (hqr : q ≤ r)
    (hrs : r ≤ s) : Within b r := by
  rw [Within] at *
  by_cases heven : b % 2 = 0
  · rw [if_pos heven] at *
    exact ⟨hq.1.trans hqr, hrs.trans hs.2⟩
  · rw [if_neg heven] at *
    exact ⟨hq.1.trans_le hqr, hrs.trans_lt hs.2⟩

theorem Within.border_le {q : ℚ} (hq : Within b q) : border b ≤ q ∧ q ≤ border (b + 1) := by
  rw [Within] at hq
  split at hq
  · exact hq
  · exact ⟨hq.1.le, hq.2.le⟩

/-- No amount lies between the borders of two patterns, as the ties belong to the even one. -/
theorem Within.unique {q : ℚ} (hb : Within b q) (hc : Within c q) : b = c := by
  have hfar : ∀ {b c : ℕ}, Within b q → Within c q → ¬ b < c := by
    intro b c hb hc hlt
    -- The interval of `b` ends where that of `c` begins at the latest, so they meet in one point,
    -- which belongs to the even one of two neighbours.
    have hmono := border_strictMono.monotone (Nat.succ_le_of_lt hlt)
    have hmeet : q = border (b + 1) := le_antisymm hb.border_le.2 (hmono.trans hc.border_le.1)
    have hnext : c = b + 1 :=
      border_strictMono.injective (le_antisymm (hc.border_le.1.trans hmeet.le) hmono)
    subst hnext
    rw [Within, ← hmeet] at hb
    rw [Within, ← hmeet] at hc
    split at hb
    · rw [if_neg (by omega)] at hc
      exact lt_irrefl _ hc.1
    · exact lt_irrefl _ hb.2
  exact le_antisymm (not_lt.mp (hfar hc hb)) (not_lt.mp (hfar hb hc))

theorem within_amount (b : ℕ) : Within b (amount b) := by
  rw [Within]
  split
  · exact ⟨border_le_amount b, (amount_lt_border b).le⟩
  · rename_i hodd
    obtain ⟨c, rfl⟩ : ∃ c, b = c + 1 := ⟨b - 1, by omega⟩
    have hlt := amount_strictMono c.lt_succ_self
    refine ⟨?_, amount_lt_border _⟩
    rw [border]
    linarith

section Nearness

variable {q r s : ℚ}

theorem abs_sub_le_abs_sub_iff (h : r < s) : |q - r| ≤ |q - s| ↔ q ≤ (r + s) / 2 := by
  rcases abs_cases (q - r) with ⟨hr, _⟩ | ⟨hr, _⟩ <;>
    rcases abs_cases (q - s) with ⟨hs, _⟩ | ⟨hs, _⟩ <;>
    rw [hr, hs] <;> constructor <;> intro _ <;> linarith

theorem abs_sub_ge_abs_sub_iff (h : r < s) : |q - s| ≤ |q - r| ↔ (r + s) / 2 ≤ q := by
  rcases abs_cases (q - r) with ⟨hr, _⟩ | ⟨hr, _⟩ <;>
    rcases abs_cases (q - s) with ⟨hs, _⟩ | ⟨hs, _⟩ <;>
    rw [hr, hs] <;> constructor <;> intro _ <;> linarith

/-- What lies above the border below a number is nearer to it than to any number before. -/
theorem nearer_than_before (hcb : c < b) (h : border b ≤ q) :
    |q - amount b| ≤ |q - amount c| ∧ (border b < q → |q - amount b| < |q - amount c|) := by
  obtain ⟨a, rfl⟩ : ∃ a, b = a + 1 := ⟨b - 1, by omega⟩
  have hmono := amount_strictMono.monotone (Nat.le_of_lt_succ hcb)
  have hlt := amount_strictMono hcb
  rw [border] at *
  rw [abs_sub_ge_abs_sub_iff hlt, ← not_le, ← not_le, abs_sub_le_abs_sub_iff hlt, not_le, not_le]
  exact ⟨by linarith, fun _ => by linarith⟩

theorem nearer_than_after (hbc : b < c) (h : q ≤ border (b + 1)) :
    |q - amount b| ≤ |q - amount c| ∧ (q < border (b + 1) → |q - amount b| < |q - amount c|) := by
  have hmono := amount_strictMono.monotone (Nat.succ_le_of_lt hbc)
  have hlt := amount_strictMono hbc
  rw [border] at *
  rw [abs_sub_le_abs_sub_iff hlt, ← not_le, ← not_le, abs_sub_ge_abs_sub_iff hlt, not_le, not_le]
  exact ⟨by linarith, fun _ => by linarith⟩

/-- No other pattern stands for a nearer amount, and none for one as near if the pattern is odd. -/
theorem Within.nearer (h : Within b q) (hne : c ≠ b) :
    |q - amount b| ≤ |q - amount c| ∧ (b % 2 = 1 → |q - amount b| < |q - amount c|) := by
  obtain ⟨hlow, hhigh⟩ := h.border_le
  have hodd : b % 2 = 1 → border b < q ∧ q < border (b + 1) := by
    intro hodd
    rwa [Within, if_neg (by omega)] at h
  rcases lt_or_gt_of_ne hne with hcb | hbc
  · exact (nearer_than_before hcb hlow).imp_right fun hlt h => hlt (hodd h).1
  · exact (nearer_than_after hbc hhigh).imp_right fun hlt h => hlt (hodd h).2

end Nearness

section Rounds

variable {q : ℚ} {negative : Bool}

/-- A number to which an amount rounds is as near as each other one, and nearer if it is odd. -/
theorem Rounds.nearer (h : Rounds negative q x) (hc : c < infinitePattern)
    (hne : c ≠ x.pattern) : |q - amount x.pattern| ≤ |q - amount c| ∧
      (x.pattern % 2 = 1 → |q - amount x.pattern| < |q - amount c|) := by
  obtain ⟨y, rfl⟩ : ∃ y : Binary64, y.pattern = c :=
    ⟨_, (pack_zero_pattern false (hc.trans (by decide : _ < signWeight))).2⟩
  have hy : y.isFinite := y.isFinite_iff.mpr hc
  rw [← size_eq, ← size_eq]
  refine ⟨h.nearest y hy, fun hodd => (h.nearest y hy).lt_of_ne fun heq => ?_⟩
  have hsize : y.size ≠ x.size := by
    rw [size_eq, size_eq]
    exact fun heq => hne (amount_strictMono.injective heq)
  have heven := h.even y hy hsize heq
  rw [significand_mod_two] at heven
  omega

theorem Rounds.within (hq : 0 ≤ q) (h : Rounds negative q x) : Within x.pattern q := by
  have hx := x.isFinite_iff.mp h.isFinite
  have hlow : border x.pattern ≤ q ∧ (x.pattern % 2 = 1 → border x.pattern < q) := by
    cases hb : x.pattern with
    | zero => exact ⟨hq, by simp⟩
    | succ c =>
      have hnear := h.nearer (c := c) (by omega) (by omega)
      have hlt := amount_strictMono c.lt_succ_self
      rw [hb, abs_sub_ge_abs_sub_iff hlt, ← not_le, abs_sub_le_abs_sub_iff hlt, not_le] at hnear
      exact hnear
  have hhigh : q ≤ border (x.pattern + 1) ∧
      (x.pattern % 2 = 1 → q < border (x.pattern + 1)) := by
    by_cases hlast : x.pattern + 1 < infinitePattern
    · have hnear := h.nearer hlast (by omega)
      have hlt := amount_strictMono x.pattern.lt_succ_self
      rw [abs_sub_le_abs_sub_iff hlt, ← not_le, abs_sub_ge_abs_sub_iff hlt, not_le] at hnear
      exact hnear
    · have hborder := h.inRange
      rw [← border_infinitePattern, show infinitePattern = x.pattern + 1 by omega] at hborder
      exact ⟨hborder.le, fun _ => hborder⟩
  rw [Within]
  split
  · exact ⟨hlow.1, hhigh.1⟩
  · exact ⟨hlow.2 (by omega), hhigh.2 (by omega)⟩

theorem Within.rounds (hx : x.isFinite) (h : Within x.pattern q) :
    Rounds x.isNegative q x where
  isFinite := hx
  isNegative := rfl
  nearest y _ := by
    rw [size_eq, size_eq]
    by_cases hpattern : y.pattern = x.pattern
    · rw [hpattern]
    · exact (h.nearer hpattern).1
  even y _ hsize heq := by
    rw [size_eq, size_eq] at *
    have hpattern : y.pattern ≠ x.pattern := fun hp => hsize (by rw [hp])
    have hodd := (h.nearer hpattern).2
    rw [significand_mod_two]
    by_contra hne
    exact (hodd (by omega)).ne heq
  inRange := by
    have hx := x.isFinite_iff.mp hx
    rw [← border_infinitePattern]
    rcases Nat.lt_or_ge (x.pattern + 1) infinitePattern with hlt | hge
    · exact h.border_le.2.trans_lt (border_strictMono hlt)
    · -- The greatest finite number is odd.
      have hlast : infinitePattern = x.pattern + 1 := by omega
      have hodd : x.pattern % 2 = 1 := by
        simp only [infinitePattern, fieldWeight] at hlast
        omega
      rw [Within, if_neg (by omega)] at h
      rw [hlast]
      exact h.2

/-- To round to a number is to lie between the borders of its pattern. -/
theorem rounds_iff (hq : 0 ≤ q) :
    Rounds negative q x ↔ x.isFinite ∧ x.isNegative = negative ∧ Within x.pattern q := by
  constructor
  · intro h
    exact ⟨h.isFinite, h.isNegative, h.within hq⟩
  · rintro ⟨hx, rfl, h⟩
    exact h.rounds hx

/-- An amount rounds to one number only. -/
theorem Rounds.unique (hq : 0 ≤ q) (hx : Rounds negative q x) (hy : Rounds negative q y) :
    x = y :=
  eq_of_pattern_eq (hx.isNegative.trans hy.isNegative.symm)
    ((hx.within hq).unique (hy.within hq))

end Rounds

end SeriesQuery.Binary64
