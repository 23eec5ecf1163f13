import Mathlib.Data.List.DropRight
import Mathlib.Data.List.Induction
import SeriesQuery.Builder
import SeriesQuery.Proofs.Expansion

/-! Chains of calls on a new builder. What they lead to can be told part by part, from the calls
that change the part. -/

namespace SeriesQuery

variable {b b' : Builder} {e : Edit} {edits edits' : List Edit}

/-- What calls change: the clauses, each for itself, and the dialect. -/
inductive Part
  | source | select | conditions | order | partitionBy | groupBy | interval | fill | timezone
  | limit | offset | dialect
  deriving DecidableEq

namespace Edit

def part : Edit → Part
  | source _ => .source
  | select _ | clearSelect => .select
  | conditions _ => .conditions
  | order _ => .order
  | partitionBy _ => .partitionBy
  | groupBy _ | addGroupBy _ => .groupBy
  | interval _ => .interval
  | fill _ => .fill
  | timezone _ => .timezone
  | limit _ => .limit
  | offset _ => .offset
  | dialect _ => .dialect

/-- What the last of the calls gives, of those that give anything. -/
def last? {α : Type} (edits : List Edit) (f : Edit → Option α) : Option α :=
  (edits.filterMap f).getLast?

def addedConditions : Edit → List Expr
  | conditions added => added
  | _ => []

def grouping? : Edit → Option (List Expr)
  | groupBy cols => some (Expr.flatten cols)
  | _ => none

def addedGrouping : Edit → List Expr
  | addGroupBy cols => Expr.flatten cols
  | _ => []

/-- The columns of the last grouping, and those that were added to it later. -/
def grouping (edits : List Edit) : List Expr :=
  (last? edits grouping?).getD [] ++
    (edits.rtakeWhile fun e => e.grouping?.isNone).flatMap addedGrouping

end Edit

/-- A number that is greater than zero. -/
def positive? (n : Int64) : Option UInt64 :=
  if 0 < n.toInt then some (.ofNat n.toInt.toNat) else none

/-- The builder that calls lead to, clause by clause. -/
def Builder.summary (edits : List Edit) : Builder where
  dialect := (Edit.last? edits fun | .dialect d => some d | _ => none).getD .timeSeries
  clauses :=
    { select := (Edit.last? edits fun
        | .select cols => some (if Expr.flatten cols = [] then [.star] else Expr.flatten cols)
        | .clearSelect => some [.star]
        | _ => none).getD [.star]
      distinct := []
      source := (Edit.last? edits fun
        | .source table => some (Expr.flatten [table])
        | _ => none).getD []
      conditions := Expr.dropEmpty (edits.flatMap Edit.addedConditions)
      order := (Edit.last? edits fun
        | .order keys => some (keys.map fun (e, dir) => .ordered e dir)
        | _ => none).getD []
      partitionBy := (Edit.last? edits fun
        | .partitionBy cols => some (Expr.flatten cols)
        | _ => none).getD []
      groupBy := Edit.grouping edits
      fill := (Edit.last? edits fun | .fill fill => some (some fill) | _ => none).getD none
      limit := (Edit.last? edits fun | .limit n => some (positive? n) | _ => none).getD none
      interval := (Edit.last? edits fun | .interval s => some s | _ => none).getD ""
      timezone := (Edit.last? edits fun | .timezone s => some s | _ => none).getD ""
      offset :=
        (Edit.last? edits fun | .offset n => some ((positive? n).getD 0) | _ => none).getD 0 }

theorem positive?_eq_some_iff {n : Int64} {m : UInt64} :
    positive? n = some m ↔ 0 < n.toInt ∧ (m.toNat : Int) = n.toInt := by
  unfold positive?
  by_cases hn : 0 < n.toInt
  · have hlt : n.toInt.toNat < 2 ^ 64 := by
      have := n.toInt_lt
      omega
    have hnat : (UInt64.ofNat n.toInt.toNat).toNat = n.toInt.toNat :=
      UInt64.toNat_ofNat_of_lt hlt
    rw [if_pos hn, Option.some.injEq, ← UInt64.toNat_inj, hnat]
    omega
  · simp [hn]

/-- The bits of a positive number are the same with a sign and without. -/
theorem positive?_eq (n : Int64) : positive? n = if 0 < n then some n.toUInt64 else none := by
  have hpos : 0 < n ↔ 0 < n.toInt := Int64.lt_iff_toInt_lt
  by_cases hn : 0 < n.toInt
  · have hnat : n.toUInt64.toNat = n.toInt.toNat :=
      Int64.toNat_toUInt64_of_le (Int64.le_iff_toInt_le.mpr (Int.le_of_lt hn))
    rw [if_pos (hpos.mpr hn), positive?_eq_some_iff, hnat]
    exact ⟨hn, Int.toNat_of_nonneg (Int.le_of_lt hn)⟩
  · rw [if_neg (mt hpos.mp hn), positive?, if_neg hn]

namespace Edit

/-- The last call wins if it gives anything. -/
theorem last?_append_singleton {α : Type} (edits : List Edit) (e : Edit) (f : Edit → Option α) :
    last? (edits ++ [e]) f = (f e).or (last? edits f) := by
  rw [last?, List.filterMap_append, List.getLast?_append]
  cases h : f e <;> simp [h, last?]

/-- A grouping starts the columns afresh, and one that adds goes on with them. -/
theorem grouping_append_singleton (edits : List Edit) (e : Edit) :
    grouping (edits ++ [e]) = e.grouping?.getD (grouping edits ++ e.addedGrouping) := by
  rw [grouping, grouping, last?_append_singleton, List.rtakeWhile_concat]
  cases e.grouping? <;> simp

end Edit

/-- What a part of a builder holds. Distinct columns go with the selection. -/
abbrev Part.Content : Part → Type
  | .source | .conditions | .order | .partitionBy | .groupBy => List Expr
  | .select => List Expr × List Expr
  | .interval | .timezone => String
  | .fill => Option Fill
  | .limit => Option UInt64
  | .offset => UInt64
  | .dialect => Dialect

namespace Builder

def get (b : Builder) : (k : Part) → k.Content
  | .source => b.clauses.source
  | .select => (b.clauses.select, b.clauses.distinct)
  | .conditions => b.clauses.conditions
  | .order => b.clauses.order
  | .partitionBy => b.clauses.partitionBy
  | .groupBy => b.clauses.groupBy
  | .interval => b.clauses.interval
  | .fill => b.clauses.fill
  | .timezone => b.clauses.timezone
  | .limit => b.clauses.limit
  | .offset => b.clauses.offset
  | .dialect => b.dialect

/-- There is nothing in a builder beyond its parts. -/
theorem eq_of_get (h : ∀ k, b.get k = b'.get k) : b = b' := by
  obtain ⟨dialect, clauses⟩ := b
  obtain ⟨dialect', clauses'⟩ := b'
  obtain ⟨hselect, hdistinct⟩ := Prod.mk.inj (h .select)
  rw [mk.injEq, Clauses.mk.injEq]
  exact ⟨h .dialect, hselect, hdistinct, h .source, h .conditions, h .order, h .partitionBy,
    h .groupBy, h .fill, h .limit, h .interval, h .timezone, h .offset⟩

theorem edit_select (b : Builder) (cols : List Expr) :
    b.edit (.select cols) =
      { b with clauses :=
        { b.clauses with
          select := if Expr.flatten cols = [] then [.star] else Expr.flatten cols
          distinct := if Expr.flatten cols = [] then [] else b.clauses.distinct } } := by
  by_cases hcols : Expr.flatten cols = []
  · rw [edit, hcols]
    rfl
  · rw [edit, if_neg (by simpa using hcols), if_neg hcols, if_neg hcols]
    rfl

/-- A call leaves the other parts as they were. -/
theorem get_edit_of_ne {k : Part} (h : e.part ≠ k) : (b.edit e).get k = b.get k := by
  cases e with
  | select cols =>
    rw [edit_select]
    cases k <;> first | rfl | exact absurd rfl h
  | _ => cases k <;> first | rfl | exact absurd rfl h

/-- What a call makes of its part depends on that part alone. -/
theorem get_edit_congr (h : b.get e.part = b'.get e.part) :
    (b.edit e).get e.part = (b'.edit e).get e.part := by
  cases e with
  | select cols =>
    obtain ⟨-, hdistinct⟩ := Prod.mk.inj h
    rw [edit_select, edit_select, hdistinct]
    rfl
  | conditions added => exact congrArg (· ++ Expr.dropEmpty added) h
  | addGroupBy cols => exact congrArg (· ++ Expr.flatten cols) h
  | _ => rfl

/-- To a part only its own calls matter. -/
theorem get_foldl_edit {k : Part} (h : b.get k = b'.get k) (edits : List Edit) :
    (edits.foldl edit b).get k = ((edits.filter (·.part = k)).foldl edit b').get k := by
  induction edits generalizing b b' with
  | nil => exact h
  | cons e edits ih =>
    by_cases hk : e.part = k
    · subst hk
      rw [List.filter_cons_of_pos (by simp), List.foldl_cons, List.foldl_cons]
      exact ih (get_edit_congr h)
    · rw [List.filter_cons_of_neg (by simpa using hk), List.foldl_cons]
      exact ih ((get_edit_of_ne hk).trans h)

/-- A part that calls set holds what the last of them gives. -/
theorem foldl_edit_of_set {α : Type} (get : Builder → α) {f : Edit → Option α}
    (h : ∀ b e, get (b.edit e) = (f e).getD (get b)) (b : Builder) (edits : List Edit) :
    get (edits.foldl edit b) = (Edit.last? edits f).getD (get b) := by
  induction edits using List.reverseRecOn with
  | nil => rfl
  | append_singleton edits e ih =>
    rw [List.foldl_concat, h, ih, Edit.last?_append_singleton]
    cases f e <;> rfl

/-- Conditions are collected from all calls, with empty lists left out. -/
theorem conditions_foldl_edit (b : Builder) (edits : List Edit) :
    (edits.foldl edit b).clauses.conditions =
      b.clauses.conditions ++ Expr.dropEmpty (edits.flatMap Edit.addedConditions) := by
  have hedit (b : Builder) (e : Edit) : (b.edit e).clauses.conditions =
      b.clauses.conditions ++ Expr.dropEmpty e.addedConditions := by
    cases e with
    | select cols => simp [edit_select, Edit.addedConditions, Expr.dropEmpty]
    | conditions added => rfl
    | _ => exact (List.append_nil _).symm
  induction edits generalizing b with
  | nil => exact (List.append_nil _).symm
  | cons e edits ih =>
    rw [List.foldl_cons, ih, hedit, List.flatMap_cons, Expr.dropEmpty_append, List.append_assoc]

theorem groupBy_foldl_edit (edits : List Edit) :
    (edits.foldl edit {}).clauses.groupBy = Edit.grouping edits := by
  have hedit (b : Builder) (e : Edit) : (b.edit e).clauses.groupBy =
      e.grouping?.getD (b.clauses.groupBy ++ e.addedGrouping) := by
    cases e with
    | select cols => simp [edit_select, Edit.grouping?, Edit.addedGrouping]
    | groupBy cols | addGroupBy cols => rfl
    | _ => exact (List.append_nil _).symm
  induction edits using List.reverseRecOn with
  | nil => rfl
  | append_singleton edits e ih =>
    rw [List.foldl_concat, hedit, ih, Edit.grouping_append_singleton]

/-- No call sets distinct columns. -/
theorem distinct_foldl_edit (edits : List Edit) :
    (edits.foldl edit {}).clauses.distinct = [] := by
  refine List.foldlRecOn (motive := fun b => b.clauses.distinct = []) edits edit ?_
    fun b h e _ => ?_
  · rfl
  · cases e with
    | select cols => simp [edit_select, h]
    | clearSelect => rfl
    | _ => exact h

/-- A limit of zero takes the limit back, so none of zero is ever held. -/
theorem limit_foldl_edit_ne_zero (edits : List Edit) :
    (edits.foldl edit {}).clauses.limit ≠ some 0 := by
  refine List.foldlRecOn (motive := fun b => b.clauses.limit ≠ some 0) edits edit ?_
    fun b h e _ => ?_
  · nofun
  · cases e with
    | select cols => simpa [edit_select] using h
    | limit n =>
      change (if 0 < n then some n.toUInt64 else none) ≠ some 0
      rw [← positive?_eq]
      intro hzero
      obtain ⟨hpos, hvalue⟩ := positive?_eq_some_iff.mp hzero
      have hnone : (0 : UInt64).toNat = 0 := rfl
      omega
    | _ => exact h

/-- Part by part, the calls lead to what the summary says. -/
theorem foldl_edit_eq_summary (edits : List Edit) : edits.foldl edit {} = summary edits := by
  refine eq_of_get fun k => ?_
  cases k with
  | conditions => exact conditions_foldl_edit {} edits
  | groupBy => exact groupBy_foldl_edit edits
  | select =>
    refine Prod.ext ?_ (distinct_foldl_edit edits)
    refine foldl_edit_of_set (·.clauses.select) (fun b e => ?_) {} edits
    cases e with
    | select cols => exact congrArg (·.clauses.select) (b.edit_select cols)
    | _ => rfl
  | limit =>
    refine foldl_edit_of_set (·.clauses.limit) (fun b e => ?_) {} edits
    cases e with
    | select cols => exact congrArg (·.clauses.limit) (b.edit_select cols)
    | limit n => exact (positive?_eq n).symm
    | _ => rfl
  | offset =>
    refine foldl_edit_of_set (·.clauses.offset) (fun b e => ?_) {} edits
    cases e with
    | select cols => exact congrArg (·.clauses.offset) (b.edit_select cols)
    | offset n =>
      change (if 0 < n then n.toUInt64 else 0) = (positive? n).getD 0
      rw [positive?_eq]
      split <;> rfl
    | _ => rfl
  | _ =>
    refine foldl_edit_of_set (·.get _) (fun b e => ?_) {} edits
    cases e with
    | select cols => exact get_edit_of_ne (by simp [Edit.part])
    | _ => rfl

/-- Calls that change different parts can change places. -/
theorem foldl_edit_of_filter_eq
    (h : ∀ k, edits'.filter (·.part = k) = edits.filter (·.part = k)) :
    edits'.foldl edit b = edits.foldl edit b := by
  refine eq_of_get fun k => ?_
  rw [get_foldl_edit rfl edits', h, ← get_foldl_edit rfl edits]

/-- Where a chain of calls leads can be told part by part: what is set was set by the last call of
its kind, and what is collected comes from all the calls, or from those since the last fresh start.
So the order matters only among the calls that change the same part. -/
theorem foldl_edit_by_parts (edits : List Edit) :
    let b := edits.foldl edit {}
    b = summary edits ∧
    Expr.junction .and b.clauses.conditions = .join .and (edits.flatMap Edit.addedConditions) ∧
    b.clauses.limit ≠ some 0 ∧
    ∀ edits' : List Edit, (∀ k, edits'.filter (·.part = k) = edits.filter (·.part = k)) →
      edits'.foldl edit {} = b ∧
        ∀ zones instant, (edits'.foldl edit {}).compile zones instant =
          b.compile zones instant := by
  intro b
  have hconditions : b.clauses.conditions = Expr.dropEmpty (edits.flatMap Edit.addedConditions) :=
    conditions_foldl_edit {} edits
  refine ⟨foldl_edit_eq_summary edits, ?_, limit_foldl_edit_ne_zero edits, fun edits' h => ?_⟩
  · rw [hconditions, Expr.join]
  · have heq : edits'.foldl edit {} = b := foldl_edit_of_filter_eq h
    exact ⟨heq, fun zones instant => by rw [heq]⟩

/-- An empty selection, a new grouping and a limit taken back, with other calls between. -/
theorem foldl_edit_by_parts_interleaved :
    let host := Expr.ofName "host"
    let edits : List Edit :=
      [.source (.ofName "cpu"), .select [host], .addGroupBy [host], .limit 5,
        .conditions [.equals host (.string "a"), .join .or []], .select [.columns []],
        .groupBy [.columns [host, .ofName "rack"]], .limit (-1), .addGroupBy [.ofName "core"],
        .offset 7, .conditions [.compare .gt (.ofName "usage") (.int 9)]]
    let edits' : List Edit :=
      [.offset 7, .limit 5, .limit (-1), .addGroupBy [host],
        .groupBy [.columns [host, .ofName "rack"]], .addGroupBy [.ofName "core"],
        .conditions [.equals host (.string "a"), .join .or []],
        .conditions [.compare .gt (.ofName "usage") (.int 9)], .select [host],
        .select [.columns []], .source (.ofName "cpu")]
    let text := "SELECT * FROM cpu WHERE ((host = 'a') AND (usage > 9)) GROUP BY host, rack, core" ++
      " OFFSET 7"
    (∀ k, edits'.filter (·.part = k) = edits.filter (·.part = k)) ∧
      edits'.foldl edit {} = summary edits ∧
      ((edits'.foldl edit {}).compile (fun _ _ => none) 0).result = .ok ⟨text, none⟩ := by
  intro host edits edits' text
  have hparts : ∀ k, edits'.filter (·.part = k) = edits.filter (·.part = k) := by
    intro k
    cases k <;> rfl
  obtain ⟨hsummary, -, -, hreorder⟩ := foldl_edit_by_parts edits
  obtain ⟨heq, hcompile⟩ := hreorder edits' hparts
  refine ⟨hparts, heq.trans hsummary, ?_⟩
  rw [hcompile]
  decide +kernel

end Builder

end SeriesQuery
