import SeriesQuery.Proofs.Truncation
import SeriesQuery.Proofs.UnionMembers

/-! The log of a compilation: a notice of the time zone, where there is one to give, and then the
outcome. -/

namespace SeriesQuery

/-- An event as it stands in the log. -/
structure LogRecord where
  level : String
  message : String
  fields : List (String × String)
  deriving DecidableEq

namespace LogRecord

def unknownZone (timezone interval : String) : LogRecord :=
  ⟨"warn", "unknown timezone, interval left unadjusted",
    [("timezone", timezone), ("interval", interval)]⟩

def negativeShift (timezone interval : String) (hours : Int) : LogRecord :=
  ⟨"debug", "negative bucket offset, interval left unadjusted",
    [("timezone", timezone), ("interval", interval), ("offset_hours", toString hours)]⟩

def compiled (sql : String) (timezone : Option String) : LogRecord :=
  ⟨"debug", "compiled select", [("sql", sql), ("timezone", timezone.getD "-")]⟩

def failed (e : Error) : LogRecord :=
  ⟨"debug", "select compilation failed", [("error", e.message)]⟩

variable {timezone interval : String} {hours hours' : Int}

/-- The two notices differ in their level already. -/
theorem unknownZone_ne_negativeShift :
    unknownZone timezone interval ≠ negativeShift timezone interval hours := by
  simp [unknownZone, negativeShift]

/-- The notice tells the number of hours. -/
theorem negativeShift_inj :
    negativeShift timezone interval hours = negativeShift timezone interval hours' ↔
      hours = hours' := by
  refine ⟨fun h => toString_int_inj ?_, fun h => h ▸ rfl⟩
  simpa [negativeShift] using h

end LogRecord

namespace Event

def record (e : Event) : LogRecord := ⟨e.level, e.message, e.details⟩

/-- What is shown of a statement: all of it, or as many characters as fit and a mark of what is
left out. -/
structure IsShown (limit : Nat) (sql shown : String) : Prop where
  of_fits : sql.utf8ByteSize ≤ limit → shown = sql
  of_exceeds : limit < sql.utf8ByteSize →
    ∃ cut, Text.IsLongestFitting limit sql cut ∧ shown = cut ++ "..."

theorem isShown_shorten (limit : Nat) (sql : String) : IsShown limit sql (shorten limit sql) := by
  refine ⟨fun h => if_neg (Nat.not_lt.mpr h), fun h => ?_⟩
  exact ⟨_, Text.isLongestFitting_truncate limit sql, if_pos h⟩

end Event

namespace Interval

variable {zones : ZoneDatabase} {instant : Int} {interval timezone : String}

/-- An interval of days, months or years with a time zone. -/
def NeedsZone (interval timezone : String) : Prop :=
  timezone ≠ "" ∧ ∃ count, ∃ unit ∈ ['d', 'n', 'y'], interval.toList = count ++ [unit]

/-- What is to be said of the time zone. -/
inductive Notices (zones : ZoneDatabase) (instant : Int) (interval timezone : String) :
    List LogRecord → Prop
  | unneeded (h : ¬ NeedsZone interval timezone) : Notices zones instant interval timezone []
  | unknown (h : NeedsZone interval timezone) (hz : zones timezone instant = none) :
    Notices zones instant interval timezone [.unknownZone timezone interval]
  | heeded {offset : Int32} (h : NeedsZone interval timezone)
    (hz : zones timezone instant = some offset) (hhours : 0 ≤ 8 - offset.toInt.tdiv 3600) :
    Notices zones instant interval timezone []
  | negative {offset : Int32} (h : NeedsZone interval timezone)
    (hz : zones timezone instant = some offset) (hhours : 8 - offset.toInt.tdiv 3600 < 0) :
    Notices zones instant interval timezone
      [.negativeShift timezone interval (8 - offset.toInt.tdiv 3600)]

/-- The alignment gives the notice that the zone calls for. -/
theorem notices_align (zones : ZoneDatabase) (instant : Int) (interval timezone : String) :
    Notices zones instant interval timezone
      ((Event.ofAlignment interval timezone (align zones instant interval timezone)).map
        Event.record) := by
  by_cases hneeds : NeedsZone interval timezone
  · have hcalendar := isCalendar_iff.mpr hneeds.2
    rw [align_of_isCalendar hneeds.1 hcalendar]
    cases hzone : zones timezone instant with
    | none => exact .unknown hneeds hzone
    | some offset =>
      by_cases hneg : bucketHours offset < 0
      · have hpos : ¬ 0 < bucketHours offset := Int32.lt_asymm hneg
        have hevent : (Event.negativeShift timezone interval (bucketHours offset)).record =
            .negativeShift timezone interval (8 - offset.toInt.tdiv 3600) := by
          rw [← toInt_bucketHours]
          rfl
        simp only [hpos, hneg, if_true, if_false, Event.ofAlignment, List.map_cons, List.map_nil,
          hevent]
        exact .negative hneeds hzone (bucketHours_lt_zero_iff.mp hneg)
      · have hhours : 0 ≤ 8 - offset.toInt.tdiv 3600 :=
          Int.not_lt.mp fun h => hneg (bucketHours_lt_zero_iff.mpr h)
        simp only [hneg, if_false]
        split <;> exact .heeded hneeds hzone hhours
  · have hguard : timezone = "" ∨ isCalendar interval = false := by
      by_contra hnot
      obtain ⟨htimezone, hcalendar⟩ := not_or.mp hnot
      exact hneeds ⟨htimezone, isCalendar_iff.mp (by simpa using hcalendar)⟩
    rw [align_eq_unchanged hguard]
    exact .unneeded hneeds

namespace Notices

variable {notices : List LogRecord}

theorem length_le (h : Notices zones instant interval timezone notices) : notices.length ≤ 1 := by
  cases h <;> simp

theorem eq_or_eq (h : Notices zones instant interval timezone notices) :
    ∀ r ∈ notices, r = .unknownZone timezone interval ∨
      ∃ hours, r = .negativeShift timezone interval hours := by
  cases h with
  | unneeded => exact List.forall_mem_nil _
  | unknown => exact List.forall_mem_singleton.mpr (.inl rfl)
  | heeded => exact List.forall_mem_nil _
  | negative => exact List.forall_mem_singleton.mpr (.inr ⟨_, rfl⟩)

/-- A zone is looked for only where the interval needs it. -/
theorem unknownZone_mem_iff (h : Notices zones instant interval timezone notices) :
    .unknownZone timezone interval ∈ notices ↔
      NeedsZone interval timezone ∧ zones timezone instant = none := by
  cases h with
  | unneeded h => simp [h]
  | unknown h hz => simp [h, hz]
  | heeded h hz => simp [hz]
  | negative h hz => simp [hz, LogRecord.unknownZone_ne_negativeShift]

/-- A shift is reported as negative exactly when it is, with its hours as they are. -/
theorem negativeShift_mem_iff (h : Notices zones instant interval timezone notices) (hours : Int) :
    .negativeShift timezone interval hours ∈ notices ↔
      NeedsZone interval timezone ∧ hours < 0 ∧
        ∃ offset, zones timezone instant = some offset ∧ hours = 8 - offset.toInt.tdiv 3600 := by
  cases h with
  | unneeded h => simp [h]
  | unknown h hz => simp [hz, LogRecord.unknownZone_ne_negativeShift.symm]
  | heeded _ hz hhours =>
    refine ⟨fun hmem => absurd hmem List.not_mem_nil, ?_⟩
    rintro ⟨-, hneg, offset, hz', rfl⟩
    cases hz.symm.trans hz'
    omega
  | @negative offset h hz hhours =>
    rw [List.mem_singleton, LogRecord.negativeShift_inj]
    constructor
    · rintro rfl
      exact ⟨h, hhours, offset, hz, rfl⟩
    · rintro ⟨-, -, offset', hz', rfl⟩
      cases hz.symm.trans hz'
      rfl

/-- A zone that is heeded is not worth a notice. -/
theorem eq_nil_of_nonneg (h : Notices zones instant interval timezone notices) {offset : Int32}
    (hz : zones timezone instant = some offset) (hhours : 0 ≤ 8 - offset.toInt.tdiv 3600) :
    notices = [] := by
  cases h with
  | unneeded => rfl
  | unknown _ hz' => cases hz.symm.trans hz'
  | heeded => rfl
  | negative _ hz' hhours' =>
    cases hz.symm.trans hz'
    omega

end Notices

end Interval

namespace Builder

open Event

/-- At most one notice of the time zone is logged, and then the outcome. The zone of a calendar
interval is reported when it is not known or when it lies too far east to be heeded. The outcome
shows the statement, shortened if it is too long, or the error. A union logs both of its members,
whether or not they compile. -/
theorem log_compile (zones : ZoneDatabase) (instant : Int) :
    (∀ b : Builder, ∃ notices outcome,
      (b.compile zones instant).events.map record = notices ++ [outcome] ∧
      notices.length ≤ 1 ∧
      (∀ r ∈ notices, r = .unknownZone b.clauses.timezone b.clauses.interval ∨
        ∃ hours, r = .negativeShift b.clauses.timezone b.clauses.interval hours) ∧
      (.unknownZone b.clauses.timezone b.clauses.interval ∈ notices ↔
        Interval.NeedsZone b.clauses.interval b.clauses.timezone ∧
          zones b.clauses.timezone instant = none) ∧
      (∀ hours, .negativeShift b.clauses.timezone b.clauses.interval hours ∈ notices ↔
        Interval.NeedsZone b.clauses.interval b.clauses.timezone ∧ hours < 0 ∧
          ∃ offset, zones b.clauses.timezone instant = some offset ∧
            hours = 8 - offset.toInt.tdiv 3600) ∧
      (∀ offset, zones b.clauses.timezone instant = some offset →
        0 ≤ 8 - offset.toInt.tdiv 3600 → notices = []) ∧
      (∀ s, (b.compile zones instant).result = .ok s → ∃ shown,
        IsShown b.dialect.logLimit s.sql shown ∧ outcome = .compiled shown s.timezone) ∧
      (∀ e, (b.compile zones instant).result = .error e → outcome = .failed e) ∧
      (outcome.message = "select compilation failed" ↔
        ∃ e, (b.compile zones instant).result = .error e)) ∧
    (∀ (u : Union) (p : Pool), (u.compile zones instant p).1.events =
      (u.first.compile zones instant).events ++ (u.second.compile zones instant).events) := by
  refine ⟨fun b => ?_, fun u p => congrArg (·.1.events) (u.compile_eq zones instant p)⟩
  have hnotices := Interval.notices_align zones instant b.clauses.interval b.clauses.timezone
  refine ⟨_, _, List.map_append, hnotices.length_le, hnotices.eq_or_eq,
    hnotices.unknownZone_mem_iff, hnotices.negativeShift_mem_iff,
    fun _ => hnotices.eq_nil_of_nonneg, ?_⟩
  have hresult : (b.compile zones instant).result =
      ((b.aligned zones instant).sql b.dialect).map (⟨·, b.timezone?⟩) := rfl
  rw [hresult]
  cases (b.aligned zones instant).sql b.dialect with
  | error e =>
    refine ⟨nofun, fun e' h => ?_, fun _ => ⟨e, rfl⟩, fun _ => rfl⟩
    cases h
    rfl
  | ok sql =>
    refine ⟨fun s h => ?_, nofun, fun h => ?_, nofun⟩
    · cases h
      exact ⟨_, isShown_shorten b.dialect.logLimit sql, rfl⟩
    · have hne : "compiled select" ≠ "select compilation failed" := by decide
      exact absurd h hne

/-- A zone that is not known, and a statement that is cut before a character of two bytes. -/
example :
    let b : Builder :=
      { dialect := { logLimit := 15 }
        clauses := { source := [.ofName "é"], interval := "1d", timezone := "Mars/Olympus" } }
    (b.compile (fun _ _ => none) 0).events.map record =
      [.unknownZone "Mars/Olympus" "1d", .compiled "SELECT * FROM ..." (some "Mars/Olympus")] := by
  decide +kernel

end Builder

end SeriesQuery
