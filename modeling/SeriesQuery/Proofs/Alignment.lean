import SeriesQuery.Builder
import SeriesQuery.Proofs.Lists
import SeriesQuery.Proofs.Written
import SeriesQuery.Zone.Year2024

/-! The interval that a statement is compiled with: where the days of its time zone ask for it, it
is shifted by whole hours, once and for all. -/

namespace SeriesQuery

namespace Interval

variable {zones : ZoneDatabase} {instant : Int} {interval timezone s : String} {hours : Int}

/-- An interval of days, months or years in a known zone is shifted by eight hours less the whole
hours of the offset of the zone, taken towards zero, where that is positive. -/
structure IsShifted (zones : ZoneDatabase) (instant : Int) (interval timezone : String)
    (hours : Int) : Prop where
  timezone_ne : timezone ≠ ""
  calendar : ∃ count, ∃ unit ∈ ['d', 'n', 'y'], interval.toList = count ++ [unit]
  offset : ∃ offset, zones timezone instant = some offset ∧ hours = 8 - offset.toInt.tdiv 3600
  pos : 0 < hours

/-- The interval with its shift behind a comma. -/
def withShift (interval : String) (hours : Int) : String :=
  interval ++ "," ++ toString hours ++ "h"

/-- Only the last character tells the unit, whatever the count in front of it is. -/
theorem isCalendar_iff :
    isCalendar interval ↔ ∃ count, ∃ unit ∈ ['d', 'n', 'y'], interval.toList = count ++ [unit] := by
  have hlast : isCalendar interval ↔
      ∃ unit ∈ ['d', 'n', 'y'], interval.toList.getLast? = some unit := by
    unfold isCalendar
    split <;> simp_all
  rw [hlast]
  simp only [List.getLast?_eq_some_iff]
  constructor
  · rintro ⟨unit, hunit, count, hcount⟩
    exact ⟨count, unit, hunit, hcount⟩
  · rintro ⟨count, unit, hunit, hcount⟩
    exact ⟨unit, hunit, count, hcount⟩

/-- The difference of the hours is small enough for 32 bits. -/
theorem toInt_bucketHours (offset : Int32) :
    (bucketHours offset).toInt = 8 - offset.toInt.tdiv 3600 := by
  have hlower := offset.le_toInt
  have hupper := offset.toInt_lt
  have hdiv : (offset / 3600).toInt = offset.toInt.tdiv 3600 :=
    Int32.toInt_div_of_ne_right offset 3600 (by decide)
  have hbound : -(2 ^ 30) ≤ offset.toInt.tdiv 3600 ∧ offset.toInt.tdiv 3600 ≤ 2 ^ 30 := by
    rcases Int.le_total 0 offset.toInt with hoffset | hoffset
    · rw [Int.tdiv_eq_ediv_of_nonneg hoffset]
      omega
    · have hneg : offset.toInt.tdiv 3600 = -((-offset.toInt) / 3600) := by
        rw [← Int.tdiv_eq_ediv_of_nonneg (Int.neg_nonneg_of_nonpos hoffset), Int.neg_tdiv,
          Int.neg_neg]
      omega
  have hsub : (bucketHours offset).toInt = (8 - offset.toInt.tdiv 3600).bmod (2 ^ 32) := by
    rw [bucketHours, Int32.toInt_sub, hdiv]
    rfl
  rw [hsub]
  exact Int.bmod_eq_of_le (by omega) (by omega)

theorem zero_lt_bucketHours_iff {offset : Int32} :
    0 < bucketHours offset ↔ 0 < 8 - offset.toInt.tdiv 3600 := by
  rw [Int32.lt_iff_toInt_lt, toInt_bucketHours]
  rfl

theorem bucketHours_lt_zero_iff {offset : Int32} :
    bucketHours offset < 0 ↔ 8 - offset.toInt.tdiv 3600 < 0 := by
  rw [Int32.lt_iff_toInt_lt, toInt_bucketHours]
  rfl

/-- No interval ends in a calendar unit without having a text. -/
theorem ne_empty_of_isCalendar (h : isCalendar interval) : interval ≠ "" := by
  rintro rfl
  cases h

/-- The guards of the alignment are passed exactly by a calendar interval with a time zone. -/
theorem align_eq_unchanged (h : timezone = "" ∨ isCalendar interval = false) :
    align zones instant interval timezone = .unchanged := by
  have hguard : timezone.isEmpty || interval.isEmpty || !isCalendar interval := by
    rcases h with rfl | h
    · rfl
    · simp [h]
  rw [align, if_pos hguard]

/-- Past the guards the zone alone decides, with a shift that is negative reported but not made. -/
theorem align_of_isCalendar (ht : timezone ≠ "") (h : isCalendar interval) :
    align zones instant interval timezone =
      match zones timezone instant with
      | none => .unknownZone
      | some offset =>
        if 0 < bucketHours offset then .shift (bucketHours offset)
        else if bucketHours offset < 0 then .negativeShift (bucketHours offset)
        else .unchanged := by
  have hi := ne_empty_of_isCalendar h
  have hguard : ¬ (timezone.isEmpty || interval.isEmpty || !isCalendar interval) := by
    simp [ht, hi, h]
  exact if_neg hguard

/-- An interval is replaced exactly when it is to be shifted. -/
theorem adjusted?_align_eq_some_iff :
    adjusted? interval (align zones instant interval timezone) = some s ↔
      ∃ hours, IsShifted zones instant interval timezone hours ∧ s = withShift interval hours := by
  by_cases hguard : timezone = "" ∨ isCalendar interval = false
  · have hnot (hours : Int) : ¬ IsShifted zones instant interval timezone hours := by
      intro h
      rcases hguard with htimezone | hcalendar
      · exact h.timezone_ne htimezone
      · have := isCalendar_iff.mpr h.calendar
        simp [hcalendar] at this
    rw [align_eq_unchanged hguard]
    simp [adjusted?, hnot]
  · obtain ⟨htimezone, hcalendar⟩ := not_or.mp hguard
    have hcalendar : isCalendar interval := by simpa using hcalendar
    rw [align_of_isCalendar htimezone hcalendar]
    cases hzone : zones timezone instant with
    | none =>
      have hnot (hours : Int) : ¬ IsShifted zones instant interval timezone hours := by
        intro h
        obtain ⟨offset, hoffset, -⟩ := h.offset
        cases hzone.symm.trans hoffset
      simp [adjusted?, hnot]
    | some offset =>
      have hhours := toInt_bucketHours offset
      by_cases hlt : 0 < bucketHours offset
      · have hshifted : IsShifted zones instant interval timezone (8 - offset.toInt.tdiv 3600) :=
          ⟨htimezone, isCalendar_iff.mp hcalendar, ⟨offset, hzone, rfl⟩,
            zero_lt_bucketHours_iff.mp hlt⟩
        simp only [hlt, if_true, adjusted?, hhours]
        constructor
        · intro h
          exact ⟨_, hshifted, (Option.some.inj h).symm⟩
        · rintro ⟨hours, h, rfl⟩
          obtain ⟨offset', hoffset, rfl⟩ := h.offset
          cases hzone.symm.trans hoffset
          rfl
      · have hnot (hours : Int) : ¬ IsShifted zones instant interval timezone hours := by
          intro h
          obtain ⟨offset', hoffset, rfl⟩ := h.offset
          cases hzone.symm.trans hoffset
          exact hlt (zero_lt_bucketHours_iff.mpr h.pos)
        simp only [hlt, if_false]
        split <;> simp [adjusted?, hnot]

/-- A shift ends in the unit of hours, which no calendar interval does. -/
theorem isCalendar_withShift (interval : String) (hours : Int) :
    isCalendar (withShift interval hours) = false := by
  have hlast : (withShift interval hours).toList.getLast? = some 'h' := by
    rw [withShift, String.toList_append]
    exact List.getLast?_concat
  rw [isCalendar, hlast]
  rfl

/-- The digits of a shift cannot be taken for the comma in front of it. -/
theorem comma_not_mem_toString (n : Int) : ',' ∉ (toString n).toList := by
  intro hmem
  have hnumeric := isNumeric_of_mem_toString n ',' hmem
  cases hnumeric

/-- The interval and the hours can be told from the interval with its shift: what stands behind
the last comma is the shift. -/
theorem withShift_inj {interval' : String} {hours' : Int}
    (h : withShift interval hours = withShift interval' hours') :
    interval = interval' ∧ hours = hours' := by
  have hchars (interval : String) (hours : Int) : (withShift interval hours).toList =
      interval.toList ++ ',' :: ((toString hours).toList ++ ['h']) := by
    simp [withShift, String.toList_append]
  have hbehind (hours : Int) : ∀ c ∈ (toString hours).toList ++ ['h'], ¬ ',' = c := by
    intro c hc
    rcases List.mem_append.mp hc with hc | hc
    · rintro rfl
      exact comma_not_mem_toString hours hc
    · rw [List.mem_singleton.mp hc]
      decide
  have hlist := congrArg String.toList h
  rw [hchars, hchars] at hlist
  obtain ⟨hinterval, -, hshift⟩ :=
    append_cons_inj_of_last rfl rfl (hbehind hours) (hbehind hours') hlist
  have hhours := toString_int_inj (String.toList_inj.mp (List.append_cancel_right hshift))
  exact ⟨String.toList_inj.mp hinterval, hhours⟩

end Interval

namespace Builder

open SeriesQuery.Interval

theorem aligned_of_isShifted {zones : ZoneDatabase} {instant : Int} {b : Builder} {hours : Int}
    (h : IsShifted zones instant b.clauses.interval b.clauses.timezone hours) :
    b.aligned zones instant =
      { b.clauses with interval := withShift b.clauses.interval hours } := by
  have hadjusted := adjusted?_align_eq_some_iff.mpr ⟨hours, h, rfl⟩
  rw [aligned, alignment, hadjusted]
  rfl

/-- Where no shift applies, the clauses are compiled as they were given. -/
theorem aligned_of_not_isShifted {zones : ZoneDatabase} {instant : Int} {b : Builder}
    (h : ∀ hours, ¬ IsShifted zones instant b.clauses.interval b.clauses.timezone hours) :
    b.aligned zones instant = b.clauses := by
  have hnone : adjusted? b.clauses.interval (b.alignment zones instant) = none := by
    refine Option.eq_none_iff_forall_ne_some.mpr fun s hs => ?_
    obtain ⟨hours, hshifted, -⟩ := adjusted?_align_eq_some_iff.mp hs
    exact h hours hshifted
  rw [aligned, hnone]

/-- The time zone goes along whatever the zone database knows of it. -/
theorem result_compile (zones : ZoneDatabase) (instant : Int) (b : Builder) :
    (b.compile zones instant).result = ((b.aligned zones instant).sql b.dialect).map fun sql =>
      ⟨sql, if b.clauses.timezone = "" then none else some b.clauses.timezone⟩ := by
  have htimezone : b.timezone? =
      if b.clauses.timezone = "" then none else some b.clauses.timezone := by
    simp [timezone?]
  rw [compile, htimezone]

/-- A builder compiles to the statement of its clauses, in which the interval is shifted if its
time zone asks for that, with the time zone beside it. An interval that has been shifted is never
shifted again, and no other interval or shift gives the same one. -/
theorem result_compile_by_alignment (zones zones' : ZoneDatabase) (instant instant' : Int) :
    (∀ b : Builder,
      (∀ hours, IsShifted zones instant b.clauses.interval b.clauses.timezone hours →
        (b.compile zones instant).result =
          (({ b.clauses with interval := withShift b.clauses.interval hours } : Clauses).sql
            b.dialect).map fun sql =>
              ⟨sql, if b.clauses.timezone = "" then none else some b.clauses.timezone⟩) ∧
      ((∀ hours, ¬ IsShifted zones instant b.clauses.interval b.clauses.timezone hours) →
        (b.compile zones instant).result = (b.clauses.sql b.dialect).map fun sql =>
          ⟨sql, if b.clauses.timezone = "" then none else some b.clauses.timezone⟩)) ∧
    (∀ interval timezone s, adjusted? interval (align zones instant interval timezone) = some s →
      ∀ timezone', adjusted? s (align zones' instant' s timezone') = none) ∧
    (∀ interval timezone hours interval' timezone' hours',
      IsShifted zones instant interval timezone hours →
        IsShifted zones' instant' interval' timezone' hours' →
          (interval, hours) ≠ (interval', hours') →
            adjusted? interval (align zones instant interval timezone) ≠
              adjusted? interval' (align zones' instant' interval' timezone')) := by
  refine ⟨fun b => ⟨fun hours h => ?_, fun h => ?_⟩, ?_, ?_⟩
  · rw [result_compile, aligned_of_isShifted h]
  · rw [result_compile, aligned_of_not_isShifted h]
  · intro interval timezone s h timezone'
    obtain ⟨hours, -, rfl⟩ := adjusted?_align_eq_some_iff.mp h
    rw [align_eq_unchanged (.inr (isCalendar_withShift interval hours))]
    rfl
  · intro interval timezone hours interval' timezone' hours' h h' hne heq
    have hsome := adjusted?_align_eq_some_iff.mpr ⟨hours, h, rfl⟩
    have hsome' := adjusted?_align_eq_some_iff.mpr ⟨hours', h', rfl⟩
    obtain ⟨rfl, rfl⟩ := withShift_inj (Option.some.inj (hsome.symm.trans (heq.trans hsome')))
    exact hne rfl

/-- Two zones with half hours, one of them west and with two seasons, and a zone that is not
known. -/
theorem result_compile_by_alignment_half_hours :
    let zones := Zone.year2024
    let query (timezone : String) : Builder :=
      { clauses := { source := [.ofName "cpu"], interval := "1n", timezone } }
    IsShifted zones 1705320000 "1n" "Asia/Kolkata" 3 ∧
    IsShifted zones 1705320000 "1n" "America/St_Johns" 11 ∧
    IsShifted zones 1721044800 "1n" "America/St_Johns" 10 ∧
    (∀ hours, ¬ IsShifted zones 1705320000 "1n" "Mars/Olympus" hours) ∧
    ((query "Asia/Kolkata").compile zones 1705320000).result =
      .ok ⟨"SELECT * FROM cpu INTERVAL(1n,3h)", some "Asia/Kolkata"⟩ ∧
    ((query "America/St_Johns").compile zones 1705320000).result =
      .ok ⟨"SELECT * FROM cpu INTERVAL(1n,11h)", some "America/St_Johns"⟩ ∧
    ((query "Mars/Olympus").compile zones 1705320000).result =
      .ok ⟨"SELECT * FROM cpu INTERVAL(1n)", some "Mars/Olympus"⟩ ∧
    adjusted? "1n,3h" (align zones 1721044800 "1n,3h" "UTC") = none ∧
    adjusted? "1n" (align zones 1705320000 "1n" "America/St_Johns") ≠
      adjusted? "1n" (align zones 1721044800 "1n" "America/St_Johns") := by
  intro zones query
  have hshifted (instant : Int) (timezone : String) (offset : Int32) (hours : Int)
      (ht : timezone ≠ "") (hz : zones timezone instant = some offset)
      (hh : hours = 8 - offset.toInt.tdiv 3600) (hp : 0 < hours) :
      IsShifted zones instant "1n" timezone hours :=
    ⟨ht, ⟨['1'], 'n', by decide, by decide⟩, ⟨offset, hz, hh⟩, hp⟩
  have hkolkata := hshifted 1705320000 "Asia/Kolkata" 19800 3 (by decide) (by decide +kernel)
    (by decide) (by decide)
  have hjohns := hshifted 1705320000 "America/St_Johns" (-12600) 11 (by decide)
    (by decide +kernel) (by decide) (by decide)
  have hsummer := hshifted 1721044800 "America/St_Johns" (-9000) 10 (by decide)
    (by decide +kernel) (by decide) (by decide)
  have hunknown (hours : Int) : ¬ IsShifted zones 1705320000 "1n" "Mars/Olympus" hours := by
    intro h
    obtain ⟨offset, hoffset, -⟩ := h.offset
    have hnone : zones "Mars/Olympus" 1705320000 = none := by decide +kernel
    cases hnone.symm.trans hoffset
  obtain ⟨hcompile, hagain, happart⟩ :=
    result_compile_by_alignment zones zones 1705320000 1721044800
  have hsome : adjusted? "1n" (align zones 1705320000 "1n" "Asia/Kolkata") = some "1n,3h" := by
    decide +kernel
  refine ⟨hkolkata, hjohns, hsummer, hunknown, ?_, ?_, ?_, hagain _ _ _ hsome "UTC",
    happart _ _ _ _ _ _ hjohns hsummer (by decide)⟩
  · rw [(hcompile (query "Asia/Kolkata")).1 3 hkolkata]
    decide +kernel
  · rw [(hcompile (query "America/St_Johns")).1 11 hjohns]
    decide +kernel
  · rw [(hcompile (query "Mars/Olympus")).2 hunknown]
    decide +kernel

end Builder

end SeriesQuery
