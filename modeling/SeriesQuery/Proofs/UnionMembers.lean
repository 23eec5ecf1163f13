import Mathlib.Data.List.Induction
import SeriesQuery.Proofs.Alignment
import SeriesQuery.Union

/-! Unions: what comes of the members, and what the pool has of them. -/

namespace SeriesQuery

variable {zones : ZoneDatabase} {instant : Int}

namespace Pool

/-- The pool with so many more new builders, as far as it may keep them. -/
def refilled (p : Pool) (n : Nat) : Pool :=
  { p with free := List.replicate (min n (p.capacity - p.free.length)) {} ++ p.free }

theorem refilled_zero (p : Pool) : p.refilled 0 = p := by
  simp [refilled]

theorem refilled_refilled (p : Pool) (m n : Nat) :
    (p.refilled m).refilled n = p.refilled (m + n) := by
  have hcount : min n (p.capacity - (min m (p.capacity - p.free.length) + p.free.length)) +
      min m (p.capacity - p.free.length) = min (m + n) (p.capacity - p.free.length) := by
    omega
  simp only [refilled, List.length_append, List.length_replicate, ← List.append_assoc,
    List.replicate_append_replicate, hcount]

/-- A builder that is released leaves a new one, unless the pool is full. -/
theorem release_eq_refilled (p : Pool) (b : Builder) : p.release b = p.refilled 1 := by
  by_cases hfull : p.capacity ≤ p.free.length
  · have hcount : min 1 (p.capacity - p.free.length) = 0 := by omega
    have hisFull : p.isFull = true := by simpa [isFull] using hfull
    rw [release, if_pos hisFull, refilled, hcount]
    rfl
  · have hcount : min 1 (p.capacity - p.free.length) = 1 := by omega
    have hisFull : ¬ p.isFull = true := by simpa [isFull] using hfull
    rw [release, if_neg hisFull, refilled, hcount]
    rfl

end Pool

namespace Builder

/-- The clauses are those of the builder, with the interval shifted where its own time zone asks
for that. -/
structure IsAligned (zones : ZoneDatabase) (instant : Int) (b : Builder) (c : Clauses) : Prop where
  of_isShifted : ∀ hours,
    Interval.IsShifted zones instant b.clauses.interval b.clauses.timezone hours →
      c = { b.clauses with interval := Interval.withShift b.clauses.interval hours }
  of_not_isShifted :
    (∀ hours, ¬ Interval.IsShifted zones instant b.clauses.interval b.clauses.timezone hours) →
      c = b.clauses

theorem isAligned_aligned (zones : ZoneDatabase) (instant : Int) (b : Builder) :
    b.IsAligned zones instant (b.aligned zones instant) :=
  ⟨fun _ h => aligned_of_isShifted h, fun h => aligned_of_not_isShifted h⟩

theorem map_sql_result_compile (zones : ZoneDatabase) (instant : Int) (b : Builder) :
    (b.compile zones instant).result.map Statement.sql =
      (b.aligned zones instant).sql b.dialect := by
  rw [result_compile]
  cases (b.aligned zones instant).sql b.dialect <;> rfl

end Builder

namespace Union

variable {u : Union} {first second : Except Error Statement} {s : Statement} {e : Error}

/-- What the results of the members make together. -/
def joined (u : Union) (first second : Except Error Statement) : Except Error Statement := do
  let a ← first
  let b ← second
  return ⟨a.sql ++ u.first.dialect.unionAll ++ b.sql, u.timezone⟩

theorem joined_eq_ok_iff : u.joined first second = .ok s ↔
    ∃ a b, first = .ok a ∧ second = .ok b ∧
      s = ⟨a.sql ++ u.first.dialect.unionAll ++ b.sql, u.timezone⟩ := by
  cases first <;> cases second <;>
    simp [joined, bind, Except.bind, pure, Except.pure, eq_comm]

/-- The error of the second member shows only when the first one has none. -/
theorem joined_eq_error_iff : u.joined first second = .error e ↔
    first = .error e ∨ (∃ a, first = .ok a) ∧ second = .error e := by
  cases first <;> cases second <;> simp [joined, bind, Except.bind, pure, Except.pure]

/-- Whatever the results, both members are compiled and released. -/
theorem compile_eq (zones : ZoneDatabase) (instant : Int) (p : Pool) (u : Union) :
    u.compile zones instant p =
      (⟨u.joined (u.first.compile zones instant).result (u.second.compile zones instant).result,
        (u.first.compile zones instant).events ++ (u.second.compile zones instant).events⟩,
        p.refilled 2) := by
  have hpool : (p.release u.first).release u.second = p.refilled 2 := by
    rw [Pool.release_eq_refilled, Pool.release_eq_refilled, Pool.refilled_refilled]
  rw [← hpool]
  rfl

/-- Only the last time zone that is set counts, and an empty one is none. -/
theorem foldl_withTimezone (first second : Builder) (calls : List String) :
    calls.foldl withTimezone { first, second } =
      { first, second, timezone := calls.getLast?.filter (· ≠ "") } := by
  induction calls using List.reverseRecOn with
  | nil => rfl
  | append_singleton calls t ih =>
    rw [List.foldl_append, ih, List.getLast?_concat]
    by_cases ht : t = "" <;> simp [withTimezone, Option.filter, ht]

/-- A union compiles when both of its members do, and else fails as the first of them that does.
Each member is aligned with its own time zone, and the union runs in the time zone that was set
for it last. The pool gets both builders back, if it may keep them. -/
theorem compile_by_members (zones : ZoneDatabase) (instant : Int) (p : Pool)
    (first second : Builder) (calls : List String) :
    let u := calls.foldl withTimezone { first, second }
    let c := (u.compile zones instant p).1
    (∀ s, c.result = .ok s ↔
      ∃ a b, (first.compile zones instant).result = .ok a ∧
        (second.compile zones instant).result = .ok b ∧
        s = ⟨a.sql ++ first.dialect.unionAll ++ b.sql, calls.getLast?.filter (· ≠ "")⟩) ∧
    (∀ e, c.result = .error e ↔
      (first.compile zones instant).result = .error e ∨
        (∃ a, (first.compile zones instant).result = .ok a) ∧
          (second.compile zones instant).result = .error e) ∧
    (∀ b ∈ [first, second], ∃ clauses, b.IsAligned zones instant clauses ∧
      (b.compile zones instant).result.map Statement.sql = clauses.sql b.dialect) ∧
    c.events = (first.compile zones instant).events ++ (second.compile zones instant).events ∧
    (u.compile zones instant p).2 = p.refilled 2 := by
  intro u c
  obtain ⟨hfirst, hsecond, htimezone⟩ : u.first = first ∧ u.second = second ∧
      u.timezone = calls.getLast?.filter (· ≠ "") := by
    have hu := foldl_withTimezone first second calls
    exact ⟨congrArg Union.first hu, congrArg Union.second hu, congrArg Union.timezone hu⟩
  have hcompile := compile_eq zones instant p u
  rw [hfirst, hsecond] at hcompile
  have hresult : c.result = u.joined (first.compile zones instant).result
      (second.compile zones instant).result := congrArg (·.1.result) hcompile
  refine ⟨fun s => ?_, fun e => ?_, fun b _ => ?_, congrArg (·.1.events) hcompile,
    congrArg (·.2) hcompile⟩
  · rw [hresult, joined_eq_ok_iff, hfirst, htimezone]
  · rw [hresult, joined_eq_error_iff]
  · exact ⟨_, b.isAligned_aligned zones instant, b.map_sql_result_compile zones instant⟩

end Union

end SeriesQuery
