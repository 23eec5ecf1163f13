import SeriesQuery.Json.Reader
import SeriesQuery.Proofs.FloatLiterals
import SeriesQuery.Proofs.NearestRounding

/-! Reading numbers in JSON text. -/

namespace SeriesQuery.Json

variable {cs ds rest : List Char}

/-- Digits that come before the text end there. -/
def EndsDigits (rest : List Char) : Prop := ∀ c ∈ rest.head?, c.isDigit = false

theorem endsDigits_cons {c : Char} (h : c.isDigit = false) : EndsDigits (c :: rest) := by
  intro d hd
  rwa [← Option.mem_some.mp hd]

theorem takeDigits_append (hds : ∀ c ∈ ds, c.isDigit) (hrest : EndsDigits rest) :
    takeDigits (ds ++ rest) = (ds, rest) := by
  rw [takeDigits, List.takeWhile_append_of_pos hds, List.dropWhile_append_of_pos hds]
  cases rest with
  | nil => simp
  | cons c rest =>
    have hc := hrest c rfl
    simp [hc]

/-- Whether a number could go on with the character. -/
def continuesNumber (c : Char) : Bool := c.isDigit || c == '.' || c == 'e' || c == 'E'

/-- A number that comes before the text ends there. -/
def EndsNumber (rest : List Char) : Prop := ∀ c ∈ rest.head?, continuesNumber c = false

theorem endsNumber_cons {c : Char} (h : continuesNumber c = false) : EndsNumber (c :: rest) := by
  intro d hd
  rwa [← Option.mem_some.mp hd]

theorem EndsNumber.endsDigits (h : EndsNumber rest) : EndsDigits rest := by
  intro c hc
  have hnot := h c hc
  simp only [continuesNumber, Bool.or_eq_false_iff] at hnot
  exact hnot.1.1.1

/-! ## The parts of a number -/

theorem readWhole_append (hne : ds ≠ []) (hds : ∀ c ∈ ds, c.isDigit)
    (hzero : ds.head? = some '0' → ds = ['0']) (hrest : EndsDigits rest) :
    readWhole (ds ++ rest) = some (ds, rest) := by
  rw [readWhole, takeDigits_append hds hrest]
  split
  · simp_all
  · simp_all
  · simp_all

theorem readFraction_of_not_point (h : ∀ c ∈ rest.head?, c ≠ '.') :
    readFraction rest = some (none, rest) := by
  rw [readFraction]
  rintro rest rfl
  exact h '.' rfl rfl

theorem readFraction_append (hne : ds ≠ []) (hds : ∀ c ∈ ds, c.isDigit) (hrest : EndsDigits rest) :
    readFraction ('.' :: (ds ++ rest)) = some (some ds, rest) := by
  rw [readFraction, takeDigits_append hds hrest]
  split
  · simp_all
  · simp_all

theorem readExponent_of_not_exponent (h : ∀ c ∈ rest.head?, c ≠ 'e' ∧ c ≠ 'E') :
    readExponent rest = some (none, rest) := by
  cases rest with
  | nil => rfl
  | cons c rest =>
    obtain ⟨he, hE⟩ := h c rfl
    rw [readExponent, if_neg (by simp [he, hE])]

theorem readSign_append (negative : Bool) (cs : List Char) :
    readSign ((if negative then '-' else '+') :: cs) = (negative, cs) := by
  cases negative <;> rfl

theorem readExponent_append (n : ℤ) (hrest : EndsDigits rest) :
    readExponent ('e' :: (if n < 0 then '-' else '+') :: (Nat.toDigits 10 n.natAbs ++ rest)) =
      some (some n, rest) := by
  have hsign := readSign_append (n < 0) (Nat.toDigits 10 n.natAbs ++ rest)
  have hdigits : takeDigits (Nat.toDigits 10 n.natAbs ++ rest) = (Nat.toDigits 10 n.natAbs, rest) :=
    takeDigits_append (fun c hc => Nat.isDigit_of_mem_toDigits (by decide) (by decide) hc) hrest
  simp only [decide_eq_true_eq] at hsign
  simp only [readExponent, true_or, if_true, hsign, hdigits]
  split
  · simp_all
  · rename_i heq
    obtain ⟨rfl, rfl⟩ := Prod.mk.inj heq
    rw [Nat.ofDigitChars_ten_toDigits]
    congr 3
    simp only [decide_eq_true_eq]
    split_ifs <;> omega

/-- A number is read part by part. -/
theorem readNumber_parts (negative : Bool) {body afterWhole afterFraction whole : List Char}
    {fraction : Option (List Char)} {exponent : Option Int}
    (hwhole : readWhole body = some (whole, afterWhole))
    (hfraction : readFraction afterWhole = some (fraction, afterFraction))
    (hexponent : readExponent afterFraction = some (exponent, rest)) :
    readNumber ((if negative then ['-'] else []) ++ body) =
      (numberOf negative whole (fraction.getD []) (exponent.getD 0)
        (fraction.isNone && exponent.isNone)).map (·, rest) := by
  have hbody : ∀ cs, body ≠ '-' :: cs := by
    rintro cs rfl
    cases hwhole
  have hread : readNumber ((if negative then ['-'] else []) ++ body) = do
      let j ← numberOf negative whole (fraction.getD []) (exponent.getD 0)
        (fraction.isNone && exponent.isNone)
      return (j, rest) := by
    cases negative with
    | true =>
      rw [if_pos rfl, List.singleton_append, readNumber]
      simp only [hwhole, hfraction, hexponent, Option.bind_eq_bind, Option.bind_some]
    | false =>
      rw [if_neg Bool.false_ne_true, List.nil_append, readNumber]
      · simp only [hwhole, hfraction, hexponent, Option.bind_eq_bind, Option.bind_some]
      · exact hbody
  rw [hread]
  cases numberOf negative whole (fraction.getD []) (exponent.getD 0)
      (fraction.isNone && exponent.isNone) <;> rfl

/-- The whole numbers that fit in 64 bits, with a sign or without one. -/
def FitsWord (n : Int) : Prop := -(UInt64.size / 2 : ℕ) ≤ n ∧ n < UInt64.size

theorem readWhole_toDigits (n : ℕ) (hrest : EndsNumber rest) :
    readWhole (Nat.toDigits 10 n ++ rest) = some (Nat.toDigits 10 n, rest) := by
  refine readWhole_append Nat.toDigits_ne_nil
    (fun c hc => Nat.isDigit_of_mem_toDigits (by decide) (by decide) hc) (fun hhead => ?_)
    hrest.endsDigits
  by_cases hn : n = 0
  · rw [hn]
    rfl
  · exact absurd hhead (head?_toDigits hn)

theorem EndsNumber.readFraction (h : EndsNumber rest) : readFraction rest = some (none, rest) := by
  refine readFraction_of_not_point fun c hc hpoint => ?_
  have hnot := h c hc
  rw [hpoint] at hnot
  cases hnot

theorem EndsNumber.readExponent (h : EndsNumber rest) : readExponent rest = some (none, rest) := by
  refine readExponent_of_not_exponent fun c hc => ?_
  have hnot := h c hc
  constructor <;> rintro rfl <;> cases hnot

/-- A whole number is read as one, since no point follows it. -/
theorem readNumber_int {n : Int} (hn : FitsWord n) (hrest : EndsNumber rest) :
    readNumber ((toString n).toList ++ rest) = some (int n, rest) := by
  obtain ⟨hlow, hhigh⟩ := hn
  have hread (negative : Bool) (m : ℕ) := readNumber_parts negative (readWhole_toDigits m hrest)
    hrest.readFraction hrest.readExponent
  cases n with
  | ofNat m =>
    have hm : m < UInt64.size := Int.ofNat_lt.mp hhigh
    rw [toList_toString_ofNat]
    refine (hread false m).trans ?_
    simp [numberOf, hm]
  | negSucc m =>
    have hm : 2 * (m + 1) ≤ UInt64.size := by
      simp only [UInt64.size] at *
      omega
    rw [toList_toString_negSucc]
    refine (hread true (m + 1)).trans ?_
    simp [numberOf, hm, Int.negSucc_eq]

/-! ## Numbers with a fraction or an exponent -/

open Binary64

variable {x : Binary64} {d : Decimal} {negative : Bool}

theorem finiteNearest?_of_rounds (h : Rounds negative d.value x) {places : ℕ}
    (hlow : -400 ≤ d.exponent + places) (hhigh : d.exponent + places ≤ 400) :
    finiteNearest? d places negative = some x := by
  have hnearest := Decimal.nearest_eq_of_rounds h
  by_cases hzero : d.digits = 0
  · rw [Decimal.nearest, if_pos hzero] at hnearest
    rw [finiteNearest?, if_pos (.inl hzero), hnearest]
  · rw [finiteNearest?, if_neg (by omega), if_neg (by omega), hnearest]
    exact if_pos h.isFinite

theorem numberOf_of_rounds {whole fraction : List Char} {exponent : Int}
    (h : Rounds negative (Decimal.value ⟨Nat.ofDigitChars 10 (whole ++ fraction) 0,
      exponent - fraction.length⟩) x)
    (hlow : -400 ≤ exponent + whole.length) (hhigh : exponent + whole.length ≤ 400) :
    numberOf negative whole fraction exponent false = some (float x) := by
  have hread : finiteNearest? _ (whole ++ fraction).length negative = some x :=
    finiteNearest?_of_rounds h (by rw [List.length_append]; push_cast; omega)
      (by rw [List.length_append]; push_cast; omega)
  rw [numberOf, if_neg (by simp), hread]
  rfl

/-- Digits with a point among them. -/
theorem readNumber_point {whole fraction : List Char} (hne : whole ≠ []) (hne' : fraction ≠ [])
    (hdigits : ∀ c ∈ whole ++ fraction, c.isDigit)
    (hzero : whole.head? = some '0' → whole = ['0']) (hlength : whole.length ≤ 400)
    (h : Rounds negative
      (Decimal.value ⟨Nat.ofDigitChars 10 (whole ++ fraction) 0, -fraction.length⟩) x)
    (hrest : EndsNumber rest) :
    readNumber ((if negative then ['-'] else []) ++ (whole ++ '.' :: (fraction ++ rest))) =
      some (float x, rest) := by
  have hpoint : EndsDigits ('.' :: (fraction ++ rest)) := endsDigits_cons rfl
  have hwhole := readWhole_append hne (fun c hc => hdigits c (List.mem_append_left _ hc)) hzero
    hpoint
  have hfraction := readFraction_append hne' (fun c hc => hdigits c (List.mem_append_right _ hc))
    hrest.endsDigits
  rw [readNumber_parts negative hwhole hfraction hrest.readExponent]
  simp only [Option.getD_some, Option.getD_none, Option.isNone_some, Bool.false_and]
  rw [numberOf_of_rounds (by rwa [zero_sub]) (by omega) (by omega)]
  rfl

/-- Plain notation has the point where the decimal needs one. -/
theorem point_mem_positional (d : Decimal) : d.positional.contains '.' ↔ d.exponent < 0 := by
  rw [List.contains_iff_mem, Decimal.positional]
  by_cases hexp : d.exponent < 0
  · rw [if_neg (by omega)]
    exact iff_of_true (by simp) hexp
  · rw [if_pos (by omega)]
    refine iff_of_false (fun hmem => ?_) hexp
    exact absurd (d.isDigit_shifted _ hmem) (by decide)

theorem readNumber_positional (hd : d.digits % 10 ≠ 0) (hexp : d.exponent < 0)
    (hmagnitude : d.magnitude ≤ 15) (h : Rounds negative d.value x) (hrest : EndsNumber rest) :
    readNumber ((if negative then ['-'] else []) ++ (d.positional ++ rest)) =
      some (float x, rest) := by
  have hplain := d.isPlain_pointNumeral negative hexp hd
  have hrounds : Rounds negative (d.pointNumeral negative).decimal.value x := by
    rwa [d.decimal_pointNumeral negative hexp]
  have hpositional : d.positional = (d.pointNumeral negative).whole ++
      '.' :: d.padded.drop (d.padded.length - (-d.exponent).toNat) := by
    rw [Decimal.positional, if_neg (by omega)]
    rfl
  have hlength : (d.pointNumeral negative).whole.length ≤ 400 := by
    simp only [Decimal.magnitude] at hmagnitude
    simp only [Decimal.pointNumeral, Decimal.padded, List.length_take, List.length_append,
      List.length_replicate]
    omega
  have hfraction : d.padded.drop (d.padded.length - (-d.exponent).toNat) ≠ [] := fun hnil =>
    hplain.fraction_ne_nil (congrArg some hnil)
  rw [hpositional, List.append_assoc, List.cons_append]
  exact readNumber_point hplain.whole_ne_nil hfraction hplain.isDigit hplain.head_whole hlength
    hrounds hrest

/-- A float that is whole is kept apart from a whole number by the zero behind its point. -/
theorem readNumber_positional_zero (hd : d.digits ≠ 0) (hexp : 0 ≤ d.exponent)
    (hmagnitude : d.magnitude ≤ 15) (h : Rounds negative d.value x) (hrest : EndsNumber rest) :
    readNumber ((if negative then ['-'] else []) ++ (d.positional ++ ['.', '0'] ++ rest)) =
      some (float x, rest) := by
  have hpositional : d.positional =
      Nat.toDigits 10 d.digits ++ List.replicate d.exponent.toNat '0' := by
    rw [Decimal.positional, if_pos (by omega)]
  have hrounds : Rounds negative (Decimal.value
      ⟨Nat.ofDigitChars 10 (d.positional ++ ['0']) 0, -(['0'].length : ℤ)⟩) x := by
    have hzeros : List.replicate d.exponent.toNat '0' ++ ['0'] =
        List.replicate (d.exponent.toNat + 1) '0' := List.replicate_succ'.symm
    rw [hpositional, List.append_assoc, hzeros, Nat.ofDigitChars_append,
      Nat.ofDigitChars_ten_toDigits, Nat.ofDigitChars_replicate_zero,
      d.value_shift _ (by simp; omega)]
    exact h
  have hlength : d.positional.length ≤ 400 := by
    simp only [Decimal.magnitude] at hmagnitude
    rw [hpositional, List.length_append, List.length_replicate]
    omega
  have hdigits : ∀ c ∈ d.positional ++ ['0'], c.isDigit := by
    intro c hc
    rcases List.mem_append.mp hc with hc | hc
    · exact d.isDigit_shifted c (hpositional ▸ hc)
    · rw [List.mem_singleton.mp hc]
      rfl
  have hhead : d.positional.head? = some '0' → d.positional = ['0'] := by
    rw [hpositional, List.head?_append_of_ne_nil _ Nat.toDigits_ne_nil]
    exact fun hhead => absurd hhead (head?_toDigits hd)
  rw [List.append_assoc]
  exact readNumber_point d.positional_ne_nil (List.cons_ne_nil _ _) hdigits hhead hlength hrounds
    hrest

theorem scientific_digits {first : Char} {others : List Char}
    (h : Nat.toDigits 10 d.digits = first :: others) :
    (⟨Nat.ofDigitChars 10 ([first] ++ others) 0, d.magnitude - others.length⟩ : Decimal) = d := by
  have hdigits := @Nat.ofDigitChars_ten_toDigits d.digits
  have hmagnitude : d.magnitude = d.exponent + others.length := by
    rw [Decimal.magnitude, h, List.length_cons]
    omega
  rw [h] at hdigits
  rw [List.singleton_append, hdigits, hmagnitude, add_sub_cancel_right]

/-- The first digit, the others after a point, and the power of ten that the first one counts. -/
theorem readNumber_scientific (hlow : -400 ≤ d.magnitude + 1) (hhigh : d.magnitude + 1 ≤ 400)
    (h : Rounds negative d.value x) (hrest : EndsNumber rest) :
    readNumber ((if negative then ['-'] else []) ++ (d.scientific ++ rest)) =
      some (float x, rest) := by
  obtain ⟨first, others, hwritten⟩ := List.exists_cons_of_ne_nil (@Nat.toDigits_ne_nil d.digits 10)
  have hdigit : ∀ c ∈ first :: others, c.isDigit := fun c hc =>
    Nat.isDigit_of_mem_toDigits (by decide) (by decide) (hwritten ▸ hc)
  obtain ⟨hfirst, hothers⟩ := List.forall_mem_cons.mp hdigit
  have hwhole {after : List Char} (hafter : EndsDigits after) :
      readWhole ([first] ++ after) = some ([first], after) :=
    readWhole_append (List.cons_ne_nil _ _) (by simpa using hfirst) (by rintro ⟨⟩; rfl) hafter
  have hnumber : numberOf negative [first] others d.magnitude false = some (float x) :=
    numberOf_of_rounds (by rwa [scientific_digits hwritten]) (by simp; omega) (by simp; omega)
  have hexponent := readExponent_append d.magnitude hrest.endsDigits
  rw [Decimal.scientific, hwritten]
  generalize hafter : 'e' :: (if d.magnitude < 0 then '-' else '+') ::
    (Nat.toDigits 10 d.magnitude.natAbs ++ rest) = after at hexponent
  have hend : EndsDigits after := hafter ▸ endsDigits_cons rfl
  cases others with
  | nil =>
    have hnone : readFraction after = some (none, after) := by
      rw [← hafter]
      rfl
    have hread := readNumber_parts negative (hwhole hend) hnone hexponent
    rw [Option.getD_none, Option.getD_some, Option.isNone_some, Bool.and_false, hnumber] at hread
    simpa [← hafter] using hread
  | cons second others =>
    have hpoint : EndsDigits ('.' :: (second :: others ++ after)) := endsDigits_cons rfl
    have hread := readNumber_parts negative (hwhole hpoint)
      (readFraction_append (List.cons_ne_nil _ _) hothers hend) hexponent
    rw [Option.getD_some, Option.getD_some, Option.isNone_some, Bool.false_and, hnumber] at hread
    simpa [← hafter] using hread

/-- Compact notation, whichever it is. -/
theorem readNumber_compact (hd : d.digits % 10 ≠ 0) (hlow : -400 ≤ d.magnitude + 1)
    (hhigh : d.magnitude + 1 ≤ 400) (h : Rounds negative d.value x) (hrest : EndsNumber rest) :
    readNumber ((if negative then ['-'] else []) ++ (d.compact ++ rest)) =
      some (float x, rest) := by
  have hne : d.digits ≠ 0 := by omega
  by_cases hscientific : d.magnitude < -5 ∨ 15 < d.magnitude
  · rw [Decimal.compact, if_pos hscientific]
    exact readNumber_scientific hlow hhigh h hrest
  · rw [Decimal.compact, if_neg hscientific]
    by_cases hpoint : d.positional.contains '.'
    · rw [if_pos hpoint]
      exact readNumber_positional hd ((point_mem_positional d).mp hpoint) (by omega) h hrest
    · rw [if_neg hpoint]
      have hexp := mt (point_mem_positional d).mpr hpoint
      exact readNumber_positional_zero hne (by omega) (by omega) h hrest

theorem readNumber_zero (hzero : x.isZero) (hrest : EndsNumber rest) :
    readNumber ((if x.isNegative then ['-'] else []) ++ (['0', '.', '0'] ++ rest)) =
      some (float x, rest) := by
  have hrounds : Rounds x.isNegative (Decimal.value ⟨0, -1⟩) x := by
    have hpattern := x.isZero_iff.mp hzero
    have hwithin := within_amount x.pattern
    refine Within.rounds (x.isFinite_iff.mpr (by rw [hpattern]; decide)) ?_
    rw [hpattern, amount_zero] at hwithin
    simpa [hpattern, Decimal.value] using hwithin
  have hdigits : ∀ c ∈ ['0'] ++ ['0'], c.isDigit := by simp
  exact readNumber_point (List.cons_ne_nil _ _) (List.cons_ne_nil _ _) hdigits (fun _ => rfl)
    (by decide) hrounds hrest

theorem toList_compactText (x : Binary64) :
    x.compactText.toList = (if x.isNegative then ['-'] else []) ++
      if x.isZero then ['0', '.', '0'] else x.shortest.compact := by
  rw [compactText, String.toList_append]
  congr 1
  · split <;> rfl
  · split
    · decide
    · exact String.toList_ofList

/-- A finite number is read back from its compact text. -/
theorem readNumber_float (hx : x.isFinite) (hrest : EndsNumber rest) :
    readNumber (x.compactText.toList ++ rest) = some (float x, rest) := by
  rw [toList_compactText, List.append_assoc]
  by_cases hzero : x.isZero
  · rw [if_pos hzero]
    exact readNumber_zero hzero hrest
  · rw [if_neg hzero]
    have hne : x.pattern ≠ 0 := mt x.isZero_iff.mpr hzero
    have hdigits := shortest_digits_mod_ten hx hne
    obtain ⟨hwithin, -⟩ := shortest_spec hx hne
    obtain ⟨hlow, hhigh⟩ := hwithin.magnitude_bounds hx hne (by omega)
    exact readNumber_compact hdigits hlow hhigh (hwithin.rounds hx) hrest

end SeriesQuery.Json
