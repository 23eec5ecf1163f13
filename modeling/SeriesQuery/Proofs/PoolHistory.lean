import Mathlib.Logic.Function.Basic
import SeriesQuery.Union

/-! Pools in use: one that the whole program shares, and any others. Whatever was asked of them
before, the builders that they hand out are new ones. -/

namespace SeriesQuery

variable {ι : Type} {p : Pool} {capacity n : Nat}

/-- Pools by their names. The shared one has none. -/
abbrev Pools (ι : Type) := Option ι → Pool

/-- What can be asked of the pools. Compiling gives builders back to the shared one. -/
inductive Request (ι : Type)
  | acquire (pool : Option ι)
  | start (table : Expr)
  | release (pool : Option ι) (b : Builder)
  | compile (instant : Int) (b : Builder)
  | compileUnion (instant : Int) (u : Union)

inductive Answer
  | done
  | builder (b : Builder)
  | compilation (c : Compilation)

namespace Pools

/-- Nothing is free yet. -/
def initial (capacity : Option ι → Nat) : Pools ι := fun i => ⟨[], capacity i⟩

variable [DecidableEq ι]

def step (zones : ZoneDatabase) (pools : Pools ι) : Request ι → Answer × Pools ι
  | .acquire i =>
    let (b, p) := (pools i).acquire
    (.builder b, Function.update pools i p)
  | .start table =>
    let (b, p) := (pools none).start table
    (.builder b, Function.update pools none p)
  | .release i b => (.done, Function.update pools i ((pools i).release b))
  | .compile instant b =>
    let (c, p) := (pools none).compile zones instant b
    (.compilation c, Function.update pools none p)
  | .compileUnion instant u =>
    let (c, p) := u.compile zones instant (pools none)
    (.compilation c, Function.update pools none p)

/-- The answers to requests made one after the other, and what is in the pools then. -/
def run (zones : ZoneDatabase) (pools : Pools ι) : List (Request ι) → List Answer × Pools ι
  | [] => ([], pools)
  | r :: requests =>
    let (answer, pools) := pools.step zones r
    let (answers, pools) := run zones pools requests
    (answer :: answers, pools)

end Pools

namespace Request

/-- What a request gives without any pool, where each builder is a new one. -/
def answer (zones : ZoneDatabase) : Request ι → Answer
  | acquire _ => .builder {}
  | start table => .builder (({} : Builder).edit (.source table))
  | release _ _ => .done
  | compile instant b => .compilation (b.compile zones instant)
  | compileUnion instant u => .compilation (u.compile zones instant {}).1

end Request

/-- The number of free builders after one more has been released. -/
def oneMore (capacity n : Nat) : Nat := if n < capacity then n + 1 else n

/-- How many builders are free in a pool after a request, when `n` were free before. What comes of
a compilation makes no difference. -/
def Request.free [DecidableEq ι] (i : Option ι) (capacity n : Nat) : Request ι → Nat
  | acquire j => if i = j then n - 1 else n
  | start _ => if i = none then n - 1 else n
  | release j _ => if i = j then oneMore capacity n else n
  | compile _ _ => if i = none then oneMore capacity n else n
  | compileUnion _ _ => if i = none then oneMore capacity (oneMore capacity n) else n

/-- The free builders are `n` new ones, and the pool may keep them all. -/
structure Pool.Clean (capacity n : Nat) (p : Pool) : Prop where
  eq : p = ⟨List.replicate n {}, capacity⟩
  le : n ≤ capacity

namespace Pool

theorem Clean.length_free (h : p.Clean capacity n) : p.free.length = n := by
  rw [h.eq, List.length_replicate]

/-- A builder that is acquired is new, whether it was free or had to be made. -/
theorem Clean.acquire (h : p.Clean capacity n) :
    p.acquire.1 = {} ∧ p.acquire.2.Clean capacity (n - 1) := by
  obtain ⟨rfl, hle⟩ := h
  cases n with
  | zero => exact ⟨rfl, rfl, hle⟩
  | succ n => exact ⟨rfl, rfl, by omega⟩

theorem Clean.release (h : p.Clean capacity n) (b : Builder) :
    (p.release b).Clean capacity (oneMore capacity n) := by
  obtain ⟨rfl, hle⟩ := h
  by_cases hfull : n < capacity
  · have hfree : isFull ⟨List.replicate n {}, capacity⟩ = false := by simp [isFull, hfull]
    rw [oneMore, if_pos hfull, Pool.release, hfree]
    exact ⟨rfl, hfull⟩
  · have hfree : isFull ⟨List.replicate n {}, capacity⟩ = true := by
      simpa [isFull] using hfull
    rw [oneMore, if_neg hfull, Pool.release, hfree]
    exact ⟨rfl, hle⟩

end Pool

namespace Pools

theorem clean_initial (capacity : Option ι → Nat) (i : Option ι) :
    (initial capacity i).Clean (capacity i) 0 :=
  ⟨rfl, Nat.zero_le _⟩

variable [DecidableEq ι] {pools : Pools ι} {capacity count : Option ι → Nat}

/-- A change to one pool leaves the others as they were. -/
theorem clean_update {f : Nat → Nat → Nat} (h : ∀ i, (pools i).Clean (capacity i) (count i))
    (j : Option ι) (hp : p.Clean (capacity j) (f (capacity j) (count j))) (i : Option ι) :
    (Function.update pools j p i).Clean (capacity i)
      (if i = j then f (capacity i) (count i) else count i) := by
  by_cases hi : i = j
  · subst hi
    rw [Function.update_self, if_pos rfl]
    exact hp
  · rw [Function.update_of_ne hi, if_neg hi]
    exact h i

/-- A request is answered as if the pools had never been used, and keeps them clean. -/
theorem step_of_clean (zones : ZoneDatabase) (h : ∀ i, (pools i).Clean (capacity i) (count i))
    (r : Request ι) :
    (pools.step zones r).1 = r.answer zones ∧
      ∀ i, ((pools.step zones r).2 i).Clean (capacity i) (r.free i (capacity i) (count i)) := by
  have hacquire (i : Option ι) := (h i).acquire
  cases r with
  | acquire i =>
    refine ⟨congrArg Answer.builder (hacquire i).1, ?_⟩
    exact clean_update (f := fun _ n => n - 1) h i (hacquire i).2
  | start table =>
    have hbuilder := congrArg (Builder.edit · (.source table)) (hacquire none).1
    refine ⟨congrArg Answer.builder hbuilder, ?_⟩
    exact clean_update (f := fun _ n => n - 1) h none (hacquire none).2
  | release i b => exact ⟨rfl, clean_update h i ((h i).release b)⟩
  | compile instant b => exact ⟨rfl, clean_update h none ((h none).release b)⟩
  | compileUnion instant u =>
    have hboth := ((h none).release u.first).release u.second
    exact ⟨rfl, clean_update (f := fun c n => oneMore c (oneMore c n)) h none hboth⟩

theorem run_of_clean (zones : ZoneDatabase) (h : ∀ i, (pools i).Clean (capacity i) (count i))
    (requests : List (Request ι)) :
    (pools.run zones requests).1 = requests.map (Request.answer zones) ∧
      ∀ i, ((pools.run zones requests).2 i).Clean (capacity i)
        (requests.foldl (fun n r => r.free i (capacity i) n) (count i)) := by
  induction requests generalizing pools count with
  | nil => exact ⟨rfl, h⟩
  | cons r requests ih =>
    obtain ⟨hanswer, hstep⟩ := step_of_clean zones h r
    obtain ⟨hanswers, hrun⟩ := ih hstep
    refine ⟨?_, hrun⟩
    change (pools.step zones r).1 :: ((pools.step zones r).2.run zones requests).1 = _
    rw [hanswer, hanswers, List.map_cons]

/-- After any requests, all that is free in a pool is new, and no more than the pool may keep. Each
answer is what it would be without pools; so a query that is built on an acquired builder compiles
as one that is built on a new builder does. -/
theorem answers_history_independent (zones : ZoneDatabase) (capacity : Option ι → Nat)
    (requests : List (Request ι)) :
    let (answers, pools) := (initial capacity).run zones requests
    answers = requests.map (Request.answer zones) ∧
    (∀ i, (pools i).capacity = capacity i ∧ (pools i).free.length ≤ capacity i ∧
      (pools i).free = List.replicate (pools i).free.length {}) ∧
    (∀ r i, ((pools.step zones r).2 i).free.length =
      r.free i (capacity i) (pools i).free.length) ∧
    (∀ i, (pools i).acquire.1 = {}) ∧
    (∀ i (edits : List Edit) instant,
      (edits.foldl Builder.edit (pools i).acquire.1).compile zones instant =
        (edits.foldl Builder.edit {}).compile zones instant) := by
  obtain ⟨hanswers, hclean⟩ := run_of_clean zones (clean_initial capacity) requests
  have hnew (i : Option ι) := (hclean i).acquire.1
  refine ⟨hanswers, fun i => ?_, fun r i => ?_, hnew, fun i edits instant => by rw [hnew]⟩
  · have hcapacity := congrArg Pool.capacity (hclean i).eq
    have hfree := congrArg Pool.free (hclean i).eq
    rw [(hclean i).length_free]
    exact ⟨hcapacity, (hclean i).le, hfree⟩
  · obtain ⟨-, hstep⟩ := step_of_clean zones hclean r
    rw [(hstep i).length_free, (hclean i).length_free]

end Pools

end SeriesQuery
