import SeriesQuery.Executor
import SeriesQuery.Proofs.UnionMembers

/-! The calls that queries make to an executor: one for each query that compiles, and none for one
that does not. -/

namespace SeriesQuery

variable {ρ : Type}

/-- One call is made for a compiled statement, and what it gives is the result. Without a statement
there is no call. -/
structure Executor.Submits (exec : Executor ρ) (call : Statement → Call)
    (compiled : Except Error Statement) (run : Run (List ρ)) : Prop where
  of_error : ∀ e, compiled = .error e → run.calls = [] ∧ run.result = .error e
  of_ok : ∀ s, compiled = .ok s → run.calls = [call s] ∧ run.result = exec (call s)

/-- Submitting makes the call itself and adds nothing to the answer. -/
theorem Executor.submits_submit (exec : Executor ρ) (call : Statement → Call)
    (compiled : Except Error Statement) :
    exec.Submits call compiled (exec.submit call compiled) := by
  refine ⟨fun e h => ?_, fun s h => ?_⟩
  · rw [h]
    exact ⟨rfl, rfl⟩
  · rw [h]
    exact ⟨rfl, rfl⟩

/-- What is sent to an executor: a query to either endpoint, or a union. -/
inductive Submission
  | query (b : Builder) (format : Format)
  | queryIn (b : Builder)
  | queryUnion (u : Union)

namespace Submission

def run (zones : ZoneDatabase) (instant : Int) (p : Pool) (exec : Executor ρ) :
    Submission → Run (List ρ) × Compilation × Pool
  | query b format => p.query zones instant b exec format
  | queryIn b => p.queryIn zones instant b exec
  | queryUnion u => p.queryUnion zones instant u exec

/-- The statement that is to be run, whatever the pool. -/
def statement (zones : ZoneDatabase) (instant : Int) : Submission → Except Error Statement
  | query b _ | queryIn b => (b.compile zones instant).result
  | queryUnion u =>
    u.joined (u.first.compile zones instant).result (u.second.compile zones instant).result

/-- A builder goes to the second endpoint with its own time zone, and a union with that of the
union. -/
def call : Submission → Statement → Call
  | query _ format, s => .execute s.sql format
  | queryIn _, s => .executeIn s.sql s.timezone
  | queryUnion u, s => .executeIn s.sql u.timezone

/-- How many builders a submission uses up. -/
def builders : Submission → Nat
  | query .. | queryIn _ => 1
  | queryUnion _ => 2

/-- Whatever is submitted makes its one call or none, and gives back the builders that it used
up. -/
theorem submits_run (zones : ZoneDatabase) (instant : Int) (p : Pool) (exec : Executor ρ)
    (q : Submission) :
    exec.Submits q.call (q.statement zones instant) (q.run zones instant p exec).1 ∧
      (q.run zones instant p exec).2.2 = p.refilled q.builders := by
  cases q with
  | query b format => exact ⟨exec.submits_submit _ _, p.release_eq_refilled b⟩
  | queryIn b => exact ⟨exec.submits_submit _ _, p.release_eq_refilled b⟩
  | queryUnion u =>
    have hcompile := u.compile_eq zones instant p
    have hresult := congrArg (·.1.result) hcompile
    refine ⟨⟨fun e h => ?_, fun s h => ?_⟩, congrArg (·.2) hcompile⟩
    · exact (exec.submits_submit _ _).of_error e (hresult.trans h)
    · -- A statement that is joined has the time zone of the union.
      obtain ⟨a, b, -, -, rfl⟩ := Union.joined_eq_ok_iff.mp h
      exact (exec.submits_submit _ _).of_ok _ (hresult.trans h)

/-- The calls that are made for a submission. -/
def calls (zones : ZoneDatabase) (instant : Int) (q : Submission) : List Call :=
  match q.statement zones instant with
  | .error _ => []
  | .ok s => [q.call s]

/-- What a submission gives. -/
def answer (zones : ZoneDatabase) (instant : Int) (exec : Executor ρ) (q : Submission) :
    Except Error (List ρ) :=
  match q.statement zones instant with
  | .error e => .error e
  | .ok s => exec (q.call s)

/-- The result and the calls do not depend on the pool, and the pool not on them. -/
theorem run_eq (zones : ZoneDatabase) (instant : Int) (p : Pool) (exec : Executor ρ)
    (q : Submission) :
    (q.run zones instant p exec).1.result = q.answer zones instant exec ∧
      (q.run zones instant p exec).1.calls = q.calls zones instant ∧
      (q.run zones instant p exec).2.2 = p.refilled q.builders := by
  obtain ⟨hsubmits, hpool⟩ := q.submits_run zones instant p exec
  rw [answer, calls]
  cases hs : q.statement zones instant with
  | error e =>
    obtain ⟨hcalls, hresult⟩ := hsubmits.of_error e hs
    exact ⟨hresult, hcalls, hpool⟩
  | ok s =>
    obtain ⟨hcalls, hresult⟩ := hsubmits.of_ok s hs
    exact ⟨hresult, hcalls, hpool⟩

end Submission

/-- A submission at its instant. -/
abbrev Session := List (Int × Submission)

namespace Session

/-- The results of submissions that are made one after the other, all the calls that have been made
then, and the pool. The executor may go by the calls before. -/
def run (zones : ZoneDatabase) (exec : List Call → Executor ρ) :
    Session → List Call → Pool → List (Except Error (List ρ)) × List Call × Pool
  | [], made, p => ([], made, p)
  | (instant, q) :: session, made, p =>
    let (r, _, p) := q.run zones instant p (exec made)
    let (results, made, p) := run zones exec session (made ++ r.calls) p
    (r.result :: results, made, p)

/-- All the calls that submissions make. -/
def calls (zones : ZoneDatabase) (session : Session) : List Call :=
  session.flatMap fun (instant, q) => q.calls zones instant

/-- How many builders are used up. -/
def builders : Session → Nat
  | [] => 0
  | (_, q) :: session => q.builders + builders session

/-- Each submission that compiles makes its one call, after those of the submissions before it, and
the executor's answer to that call is its result. -/
theorem run_calls (zones : ZoneDatabase) (exec : List Call → Executor ρ) (session : Session)
    (made : List Call) (p : Pool) :
    let (results, made', p') := session.run zones exec made p
    results.length = session.length ∧
    (∀ pre instant q post, session = pre ++ (instant, q) :: post →
      results[pre.length]? = some (q.answer zones instant (exec (made ++ calls zones pre)))) ∧
    made' = made ++ session.calls zones ∧
    p' = p.refilled session.builders := by
  induction session generalizing made p with
  | nil => exact ⟨rfl, by simp, (List.append_nil made).symm, p.refilled_zero.symm⟩
  | cons head session ih =>
    obtain ⟨instant, q⟩ := head
    obtain ⟨hresult, hcalls, hpool⟩ := q.run_eq zones instant p (exec made)
    obtain ⟨hlength, hresults, hmade, hp⟩ :=
      ih (made ++ q.calls zones instant) (p.refilled q.builders)
    have hcons : Session.run zones exec ((instant, q) :: session) made p =
        let rest := Session.run zones exec session (made ++ q.calls zones instant)
          (p.refilled q.builders)
        (q.answer zones instant (exec made) :: rest.1, rest.2.1, rest.2.2) := by
      rw [← hresult, ← hcalls, ← hpool]
      rfl
    rw [hcons]
    refine ⟨?_, ?_, ?_, ?_⟩
    · exact congrArg (· + 1) hlength
    · intro pre instant' q' post heq
      cases pre with
      | nil =>
        obtain ⟨hhead, -⟩ := List.cons.inj heq
        cases hhead
        simp [calls]
      | cons head pre =>
        obtain ⟨rfl, htail⟩ := List.cons.inj heq
        have hrest := hresults pre instant' q' post htail
        rw [List.append_assoc] at hrest
        exact hrest
    · rw [hmade, List.append_assoc]
      rfl
    · rw [hp, Pool.refilled_refilled, builders]

end Session

namespace Pool

/-- A query makes one call for the statement that it compiles to, and none when it does not compile;
what the executor answers is the result as it is. The first row is asked for by one call too. The
builders go back to the pool as new ones, whatever comes of the query. -/
theorem submits_queries (zones : ZoneDatabase) (instant : Int) (p : Pool) (exec : Executor ρ) :
    (∀ b format,
      exec.Submits (fun s => .execute s.sql format) (b.compile zones instant).result
        (p.query zones instant b exec format).1 ∧
      (p.query zones instant b exec format).2.2 = p.refilled 1) ∧
    (∀ b,
      exec.Submits (fun s => .executeIn s.sql s.timezone) (b.compile zones instant).result
        (p.queryIn zones instant b exec).1 ∧
      (p.queryIn zones instant b exec).2.2 = p.refilled 1) ∧
    (∀ u : Union,
      exec.Submits (fun s => .executeIn s.sql u.timezone)
        (u.joined (u.first.compile zones instant).result (u.second.compile zones instant).result)
        (p.queryUnion zones instant u exec).1 ∧
      (p.queryUnion zones instant u exec).2.2 = p.refilled 2) ∧
    (∀ sql format,
      (exec.first sql format).calls = [.execute sql format] ∧
      (∀ e, exec (.execute sql format) = .error e → (exec.first sql format).result = .error e) ∧
      (exec (.execute sql format) = .ok [] → (exec.first sql format).result = .error .noData) ∧
      (∀ row rows, exec (.execute sql format) = .ok (row :: rows) →
        (exec.first sql format).result = .ok row)) := by
  have hsubmits (q : Submission) := q.submits_run zones instant p exec
  refine ⟨fun b format => hsubmits (.query b format), fun b => hsubmits (.queryIn b),
    fun u => hsubmits (.queryUnion u), fun sql format => ⟨rfl, fun e h => ?_, fun h => ?_,
      fun row rows h => ?_⟩⟩
  · rw [Executor.first, h]
  · rw [Executor.first, h]
  · rw [Executor.first, h]

end Pool

end SeriesQuery
