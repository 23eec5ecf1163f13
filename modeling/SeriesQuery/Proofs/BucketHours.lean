import SeriesQuery.Proofs.Alignment

/-! The hours between the midnight of a time zone and the server's. They are whole, so in seconds
they are off by less than an hour, for zones east and west of Greenwich in opposite directions. -/

namespace SeriesQuery.Interval

variable {zones : ZoneDatabase} {instant : Int} {interval timezone : String} {offset : Int32}

/-- An integer of 32 bits. -/
def IsWord (n : Int) : Prop := -0x80000000 ≤ n ∧ n < 0x80000000

/-- Whole hours for the seconds between the midnight of a zone and the server's. It is the offset
that is rounded, towards zero, so the two sides of Greenwich err on different sides. -/
structure IsRounded (offset hours : Int) : Prop where
  near : (3600 * hours - (28800 - offset)).natAbs < 3600
  not_below : 0 ≤ offset → 28800 - offset ≤ 3600 * hours
  not_above : offset ≤ 0 → 3600 * hours ≤ 28800 - offset
  eq_iff : 3600 * hours = 28800 - offset ↔ 3600 ∣ offset

/-- What an offset has beyond its whole hours is less than one, and has the sign of the offset. -/
theorem tmod_hour (a : Int) : -3600 < a.tmod 3600 ∧ a.tmod 3600 < 3600 ∧
    (0 ≤ a → 0 ≤ a.tmod 3600) ∧ (a ≤ 0 → a.tmod 3600 ≤ 0) := by
  refine ⟨Int.lt_tmod_of_pos a (by decide), Int.tmod_lt_of_pos a (by decide),
    Int.tmod_nonneg 3600, fun h => ?_⟩
  have hneg := Int.tmod_nonneg 3600 (Int.neg_nonneg_of_nonpos h)
  rw [Int.neg_tmod] at hneg
  exact Int.nonpos_of_neg_nonneg hneg

/-- The hours are off by what the offset has beyond its whole hours. -/
theorem seconds_bucketHours (offset : Int32) :
    3600 * (bucketHours offset).toInt = 28800 - offset.toInt + offset.toInt.tmod 3600 := by
  have hparts := Int.mul_tdiv_add_tmod offset.toInt 3600
  rw [toInt_bucketHours]
  omega

/-- To round the offset towards zero moves the midnight by less than an hour. -/
theorem isRounded_bucketHours (offset : Int32) :
    IsRounded offset.toInt (bucketHours offset).toInt := by
  have hseconds := seconds_bucketHours offset
  obtain ⟨hlower, hupper, heast, hwest⟩ := tmod_hour offset.toInt
  refine ⟨by omega, by omega, by omega, ?_⟩
  rw [Int.dvd_iff_tmod_eq_zero]
  omega

/-- Neither step of the calculation leaves the words. -/
theorem isWord_bucketHours (offset : Int32) :
    IsWord (offset.toInt.tdiv 3600) ∧ IsWord (8 - offset.toInt.tdiv 3600) := by
  have hparts := Int.mul_tdiv_add_tmod offset.toInt 3600
  obtain ⟨hlower, hupper, -, -⟩ := tmod_hour offset.toInt
  have hfrom := offset.le_toInt
  have hto := offset.toInt_lt
  unfold IsWord
  omega

/-- The server's own offset is a whole number of hours, so rounding moves no other one past it. -/
theorem zero_lt_bucketHours_iff_lt : 0 < bucketHours offset ↔ offset < 28800 := by
  have hborder : (28800 : Int32).toInt = 28800 := rfl
  have hseconds := seconds_bucketHours offset
  obtain ⟨hlower, hupper, heast, hwest⟩ := tmod_hour offset.toInt
  rw [zero_lt_bucketHours_iff, ← toInt_bucketHours, Int32.lt_iff_toInt_lt, hborder]
  omega

/-- Further east the shift is no larger. -/
theorem bucketHours_le {offset' : Int32} (h : offset ≤ offset') :
    bucketHours offset' ≤ bucketHours offset := by
  have hle := Int.tdiv_le_tdiv (c := 3600) (by decide) (Int32.le_iff_toInt_le.mp h)
  rw [Int32.le_iff_toInt_le, toInt_bucketHours, toInt_bucketHours]
  omega

/-- A calendar interval in a known zone is shifted by these hours as long as there are any. -/
theorem adjusted?_align_of_offset (ht : timezone ≠ "") (hi : isCalendar interval)
    (hz : zones timezone instant = some offset) :
    adjusted? interval (align zones instant interval timezone) =
      if offset < 28800 then some (withShift interval (bucketHours offset).toInt) else none := by
  rw [align_of_isCalendar ht hi, hz]
  by_cases h : 0 < bucketHours offset
  · simp only [h, zero_lt_bucketHours_iff_lt.mp h, if_true]
    rfl
  · have hborder : ¬ offset < 28800 := fun hlt => h (zero_lt_bucketHours_iff_lt.mpr hlt)
    simp only [h, hborder, if_false]
    split <;> rfl

/-- The hours of an offset are computed within 32 bits. They are those between the midnights but
for less than one, no more for a greater offset, and positive, so that intervals are shifted,
exactly west of the server's own offset. -/
theorem bucketHours_by_rounding (offset : Int32) :
    IsWord (offset.toInt.tdiv 3600) ∧ IsWord (8 - offset.toInt.tdiv 3600) ∧
    (bucketHours offset).toInt = 8 - offset.toInt.tdiv 3600 ∧
    IsRounded offset.toInt (bucketHours offset).toInt ∧
    (0 < bucketHours offset ↔ offset < 28800) ∧
    (∀ offset', offset ≤ offset' → bucketHours offset' ≤ bucketHours offset) ∧
    ∀ zones instant interval timezone, timezone ≠ "" → isCalendar interval →
      zones timezone instant = some offset →
        adjusted? interval (align zones instant interval timezone) =
          if offset < 28800 then some (withShift interval (bucketHours offset).toInt)
          else none := by
  obtain ⟨hquotient, hdifference⟩ := isWord_bucketHours offset
  refine ⟨hquotient, hdifference, toInt_bucketHours offset, isRounded_bucketHours offset,
    zero_lt_bucketHours_iff_lt, fun _ => bucketHours_le, ?_⟩
  intro zones instant interval timezone ht hi hz
  exact adjusted?_align_of_offset ht hi hz

/-- A zone with half hours on either side of Greenwich, the zone just short of the server's and the
least offset there is. -/
theorem bucketHours_by_rounding_half_hours :
    let zones := Zone.year2024
    (bucketHours 19800).toInt = 3 ∧ IsRounded 19800 3 ∧
    (bucketHours (-12600)).toInt = 11 ∧ IsRounded (-12600) 11 ∧
    bucketHours 28799 ≤ bucketHours 19800 ∧ 0 < bucketHours 28799 ∧
    ¬ 0 < bucketHours 28800 ∧
    (bucketHours (-2147483648)).toInt = 596531 ∧
    adjusted? "1n" (align zones 1705320000 "1n" "America/St_Johns") = some "1n,11h" ∧
    adjusted? "1d" (align zones 1705320000 "1d" "Australia/Eucla") = none := by
  intro zones
  obtain ⟨-, -, hkolkata, hround, -, hmono, -⟩ := bucketHours_by_rounding 19800
  obtain ⟨-, -, hjohns, hround', -, -, hshift⟩ := bucketHours_by_rounding (-12600)
  obtain ⟨-, -, -, -, -, -, heucla⟩ := bucketHours_by_rounding 31500
  have hkolkata : (bucketHours 19800).toInt = 3 := hkolkata
  have hjohns : (bucketHours (-12600)).toInt = 11 := hjohns
  rw [hkolkata] at hround
  rw [hjohns] at hround'
  refine ⟨hkolkata, hround, hjohns, hround', hmono 28799 (by decide), ?_, ?_, ?_, ?_, ?_⟩
  · exact (bucketHours_by_rounding 28799).2.2.2.2.1.mpr (by decide)
  · exact fun h => absurd ((bucketHours_by_rounding 28800).2.2.2.2.1.mp h) (by decide)
  · exact (bucketHours_by_rounding (-2147483648)).2.2.1
  · rw [hshift zones _ "1n" _ (by decide) (by decide +kernel) (by decide +kernel)]
    decide +kernel
  · rw [heucla zones _ "1d" _ (by decide) (by decide +kernel) (by decide +kernel)]
    decide +kernel

end SeriesQuery.Interval
