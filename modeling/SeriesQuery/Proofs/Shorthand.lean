import Mathlib.Data.Prod.Lex
import SeriesQuery.Proofs.Fault
import SeriesQuery.Proofs.KeyMap

/-! Condition maps that are made by binding columns to values and to tests. The order of the
bindings plays no part, but that the last one of a name is the one that counts. -/

namespace SeriesQuery

open KeyMap (last? Sorted)

/-- What a column is bound to: a value, or tests that are bound to their names. -/
inductive Binding
  | value (v : Value)
  | tests (bindings : List (String × Value))

namespace Binding

def condition : Binding → Condition
  | value v => .equals v
  | tests bindings => .tests (KeyMap.ofList bindings)

/-- The condition map that bindings make. -/
def entries (bindings : List (String × Binding)) : List (String × Condition) :=
  KeyMap.ofList (bindings.map fun (column, b) => (column, b.condition))

end Binding

namespace Comparison

/-- Null and the truth values are compared by identity, lists by membership, all others as they
are. -/
inductive IsEquality : Value → Comparison → Prop
  | null : IsEquality .null .is
  | bool (b : Bool) : IsEquality (.bool b) .is
  | list (vs : List Value) : IsEquality (.list vs) .isIn
  | other {v : Value} (hnull : v ≠ .null) (hbool : ∀ b, v ≠ .bool b) (hlist : ∀ vs, v ≠ .list vs) :
    IsEquality v .eq

def testNames : List String := ["eq", "neq", "gt", "gte", "lt", "lte"]

/-- The comparison with a value that a name in lower case stands for. -/
inductive IsTest : String → Value → Comparison → Prop
  | eq {v : Value} {o : Comparison} (h : IsEquality v o) : IsTest "eq" v o
  | neq {v : Value} {o : Comparison} (h : IsEquality v o) : IsTest "neq" v o.inverse
  | gt (v : Value) : IsTest "gt" v .gt
  | gte (v : Value) : IsTest "gte" v .ge
  | lt (v : Value) : IsTest "lt" v .lt
  | lte (v : Value) : IsTest "lte" v .le

/-- Text in lower case. A letter beyond ASCII stays beyond it, but for the Kelvin sign, which
becomes a k. -/
structure IsLowerCase (lower : String → String) : Prop where
  ascii (s : String) (h : ∀ c ∈ s.toList, c.toNat < 128) : lower s = s.toLower
  beyond (s : String) (h : ∃ c ∈ s.toList, 128 ≤ c.toNat) :
    ∃ c ∈ (lower s).toList, 128 ≤ c.toNat ∨ c = 'k'

variable {lower : String → String} {name : String} {v : Value} {o : Comparison}

theorem isEquality_iff : IsEquality v o ↔ equalityWith v = o := by
  constructor
  · intro h
    cases h with
    | other hnull hbool hlist => cases v <;> simp_all [equalityWith]
    | _ => rfl
  · rintro rfl
    cases v with
    | null => exact .null
    | bool b => exact .bool b
    | list vs => exact .list vs
    | _ => exact .other nofun nofun nofun

theorem IsTest.mem_testNames (h : IsTest name v o) : name ∈ testNames := by
  cases h <;> simp [testNames]

theorem ofTest?_eq_some_iff_isTest : ofTest? name v = some o ↔ IsTest name.toLower v o := by
  unfold ofTest?
  generalize name.toLower = low
  constructor
  · intro h
    split at h <;> cases h
    · exact .eq (isEquality_iff.mpr rfl)
    · exact .neq (isEquality_iff.mpr rfl)
    · exact .gt v
    · exact .gte v
    · exact .lt v
    · exact .lte v
  · intro h
    cases h with
    | eq h =>
      rw [isEquality_iff.mp h]
      rfl
    | neq h =>
      rw [isEquality_iff.mp h]
      rfl
    | _ => rfl

/-- A test is unknown by its name alone, and not by its value. -/
theorem ofTest?_eq_none_iff_not_mem : ofTest? name v = none ↔ name.toLower ∉ testNames := by
  unfold ofTest?
  split <;> simp_all [testNames]

theorem not_mem_testNames (h : ∃ c ∈ name.toList, 128 ≤ c.toNat ∨ c = 'k') :
    name ∉ testNames := by
  have hnames : ∀ n ∈ testNames, n.toList.all fun c => c.toNat < 128 && c != 'k' := by decide
  intro hname
  obtain ⟨c, hc, h⟩ := h
  have hc := List.all_eq_true.mp (hnames name hname) c hc
  simp only [Bool.and_eq_true, decide_eq_true_eq, bne_iff_ne] at hc
  rcases h with h | h
  · omega
  · exact hc.2 h

theorem isLowerCase_toLower : IsLowerCase String.toLower where
  ascii _ _ := rfl
  beyond s h := by
    obtain ⟨c, hc, hbeyond⟩ := h
    have hlower : c.toLower = c := by
      refine dif_neg fun h => ?_
      have hle : c.toNat ≤ 90 := h.2
      omega
    have hmap : s.toLower.toList = s.toList.map Char.toLower := String.toList_map
    exact ⟨c, hmap ▸ hlower ▸ List.mem_map_of_mem hc, .inl hbeyond⟩

/-- Lower case is that of ASCII as far as the names of tests go. -/
theorem IsLowerCase.eq_or_not_mem (h : IsLowerCase lower) (name : String) :
    lower name = name.toLower ∨ lower name ∉ testNames ∧ name.toLower ∉ testNames := by
  by_cases hname : ∃ c ∈ name.toList, 128 ≤ c.toNat
  · exact .inr ⟨not_mem_testNames (h.beyond name hname),
      not_mem_testNames (isLowerCase_toLower.beyond name hname)⟩
  · push Not at hname
    exact .inl (h.ascii name hname)

theorem IsLowerCase.ofTest?_eq_some_iff (h : IsLowerCase lower) :
    ofTest? name v = some o ↔ IsTest (lower name) v o := by
  rw [ofTest?_eq_some_iff_isTest]
  obtain heq | ⟨hlower, hname⟩ := h.eq_or_not_mem name
  · rw [heq]
  · exact iff_of_false (fun ht => hname ht.mem_testNames) fun ht => hlower ht.mem_testNames

theorem IsLowerCase.ofTest?_eq_none_iff (h : IsLowerCase lower) :
    ofTest? name v = none ↔ lower name ∉ testNames := by
  rw [ofTest?_eq_none_iff_not_mem]
  obtain heq | ⟨hlower, hname⟩ := h.eq_or_not_mem name
  · rw [heq]
  · exact iff_of_true hname hlower

end Comparison

/-- Of an ascending list the first entry is the least. -/
theorem head?_eq_some_iff_of_pairwise {α : Type} [PartialOrder α] {as : List α} {a : α}
    (h : as.Pairwise (· ≤ ·)) : as.head? = some a ↔ a ∈ as ∧ ∀ b ∈ as, a ≤ b := by
  cases h with
  | nil => simp
  | @cons x xs hx hxs =>
    rw [List.head?_cons, Option.some.injEq]
    constructor
    · rintro rfl
      exact ⟨List.mem_cons_self, List.forall_mem_cons.mpr ⟨le_rfl, hx⟩⟩
    · rintro ⟨hmem, hle⟩
      rcases List.mem_cons.mp hmem with rfl | hmem
      · rfl
      · exact le_antisymm (hx a hmem) (hle x List.mem_cons_self)

namespace Condition

/-- The names among the tests that are those of no operator. -/
def unknownNames : Condition → List String
  | .equals _ => []
  | .tests comparands =>
    (comparands.filter fun (name, v) => (Comparison.ofTest? name v).isNone).map Prod.fst

/-- The columns of a map with the names of no operator that are tested of them. -/
def unknownPairs (entries : List (String × Condition)) : List (String ×ₗ String) :=
  entries.flatMap fun (column, c) => c.unknownNames.map fun name => toLex (column, name)

variable {c : Condition} {comparands : List (String × Value)}
  {entries : List (String × Condition)} {column name : String} {err : Error}

theorem unknownTests_eq_map (c : Condition) :
    c.unknownTests = c.unknownNames.map .unsupportedTest := by
  cases c with
  | equals v => rfl
  | tests comparands =>
    rw [unknownTests, unknownNames]
    induction comparands with
    | nil => rfl
    | cons test comparands ih =>
      obtain ⟨name, v⟩ := test
      cases h : Comparison.ofTest? name v <;> simp [h, ih]

theorem expandAll_eq_error_iff_pair :
    expandAll entries = .error err ↔
      ∃ p, (unknownPairs entries).head? = some p ∧ .unsupportedTest (ofLex p).2 = err := by
  have herrors : entries.flatMap (·.2.unknownTests) =
      (unknownPairs entries).map fun p => .unsupportedTest (ofLex p).2 := by
    simp only [unknownPairs, List.map_flatMap, List.map_map, unknownTests_eq_map]
    rfl
  rw [expandAll_eq_error_iff, herrors, List.head?_map, Option.map_eq_some_iff]

theorem mem_unknownNames :
    name ∈ (tests comparands).unknownNames ↔
      ∃ v, (name, v) ∈ comparands ∧ Comparison.ofTest? name v = none := by
  simp [unknownNames]

theorem mem_unknownPairs :
    toLex (column, name) ∈ unknownPairs entries ↔
      ∃ c, (column, c) ∈ entries ∧ name ∈ c.unknownNames := by
  simp [unknownPairs]

theorem pairwise_unknownNames (h : Sorted comparands) :
    (tests comparands).unknownNames.Pairwise (· ≤ ·) :=
  List.pairwise_map.mpr (((List.pairwise_map.mp h).filter _).imp fun hlt => hlt.le)

theorem pairwise_unknownPairs (h : Sorted entries)
    (htests : ∀ entry ∈ entries, ∀ comparands, entry.2 = .tests comparands → Sorted comparands) :
    (unknownPairs entries).Pairwise (· ≤ ·) := by
  refine List.pairwise_flatMap.mpr ⟨fun entry hentry => ?_, ?_⟩
  · obtain ⟨column, c⟩ := entry
    cases c with
    | equals v => exact .nil
    | tests comparands =>
      have hnames := pairwise_unknownNames (htests _ hentry comparands rfl)
      refine List.pairwise_map.mpr (hnames.imp fun {name name'} hle => ?_)
      exact Prod.Lex.toLex_le_toLex.mpr (.inr ⟨rfl, hle⟩)
  · refine (List.pairwise_map.mp h).imp fun hlt p hp q hq => ?_
    obtain ⟨name, -, rfl⟩ := List.mem_map.mp hp
    obtain ⟨name', -, rfl⟩ := List.mem_map.mp hq
    exact Prod.Lex.toLex_le_toLex.mpr (.inl hlt)

end Condition

namespace Binding

variable {lower : String → String} {bindings bindings' : List (String × Binding)}
  {column name : String} {b : Binding} {c : Condition} {e : Expr} {op : Connective}

/-- The name of no operator is among the tests that a column is bound to. -/
def IsUnknown (lower : String → String) (bindings : List (String × Binding))
    (column name : String) : Prop :=
  ∃ tests, last? column bindings = some (.tests tests) ∧ (last? name tests).isSome ∧
    lower name ∉ Comparison.testNames

/-- The condition that the binding of a column stands for. -/
inductive IsExpansion (lower : String → String) (column : String) : Binding → Expr → Prop
  | value {v : Value} {o : Comparison} (h : Comparison.IsEquality v o) :
    IsExpansion lower column (.value v) (.compare o (.ofName column) v)
  | tests {bindings : List (String × Value)} {names : List String} {es : List Expr}
    (hsorted : names.Pairwise (· < ·))
    (hnames : ∀ name, name ∈ names ↔ (last? name bindings).isSome)
    (hes : List.Forall₂ (fun name e => ∃ v o, last? name bindings = some v ∧
      Comparison.IsTest (lower name) v o ∧ e = .compare o (.ofName column) v) names es) :
    IsExpansion lower column (.tests bindings) (.junction .or es)

theorem mem_entries :
    (column, c) ∈ entries bindings ↔ ∃ b, last? column bindings = some b ∧ b.condition = c := by
  rw [entries, KeyMap.mem_ofList, KeyMap.last?_map, Option.map_eq_some_iff]

theorem entries_eq_iff :
    entries bindings = entries bindings' ↔
      ∀ column, (last? column bindings).map condition = (last? column bindings').map condition := by
  rw [entries, entries, KeyMap.ofList_eq_iff]
  simp only [KeyMap.last?_map]

theorem sorted_entries (bindings : List (String × Binding)) : Sorted (entries bindings) :=
  KeyMap.sorted_ofList _

theorem pairwise_unknownPairs (bindings : List (String × Binding)) :
    (Condition.unknownPairs (entries bindings)).Pairwise (· ≤ ·) := by
  refine Condition.pairwise_unknownPairs (sorted_entries _) fun entry hentry comparands h => ?_
  obtain ⟨b, -, hb⟩ := mem_entries.mp hentry
  cases b with
  | value v => cases hb.trans h
  | tests tests =>
    cases hb.trans h
    exact KeyMap.sorted_ofList _

theorem mem_unknownPairs (hlower : Comparison.IsLowerCase lower) :
    toLex (column, name) ∈ Condition.unknownPairs (entries bindings) ↔
      IsUnknown lower bindings column name := by
  rw [Condition.mem_unknownPairs]
  constructor
  · rintro ⟨c, hc, hname⟩
    obtain ⟨b, hb, rfl⟩ := mem_entries.mp hc
    cases b with
    | value v => cases hname
    | tests tests =>
      obtain ⟨v, hv, hnone⟩ := Condition.mem_unknownNames.mp hname
      exact ⟨tests, hb, Option.isSome_of_mem (KeyMap.mem_ofList.mp hv),
        hlower.ofTest?_eq_none_iff.mp hnone⟩
  · rintro ⟨tests, hb, hname, hunknown⟩
    obtain ⟨v, hv⟩ := Option.isSome_iff_exists.mp hname
    refine ⟨_, mem_entries.mpr ⟨_, hb, rfl⟩, Condition.mem_unknownNames.mpr ⟨v, ?_, ?_⟩⟩
    · exact KeyMap.mem_ofList.mpr hv
    · exact hlower.ofTest?_eq_none_iff.mpr hunknown

theorem isEmpty_condition {b : Binding} : b.condition.isEmpty ↔ b = .tests [] := by
  cases b with
  | value v => simp [condition, Condition.isEmpty]
  | tests bindings =>
    constructor
    · intro h
      have hempty := Condition.tests.inj (Condition.eq_of_isEmpty h)
      rw [KeyMap.ofList_eq_nil_iff.mp hempty]
    · intro h
      cases h
      rfl

/-- The columns that something is asked of. -/
def askedColumns (bindings : List (String × Binding)) : List String :=
  ((entries bindings).filter fun entry => !entry.2.isEmpty).map Prod.fst

theorem pairwise_askedColumns (bindings : List (String × Binding)) :
    (askedColumns bindings).Pairwise (· < ·) :=
  List.pairwise_map.mpr ((List.pairwise_map.mp (sorted_entries bindings)).filter _)

theorem mem_askedColumns :
    column ∈ askedColumns bindings ↔ ∃ b, last? column bindings = some b ∧ b ≠ .tests [] := by
  constructor
  · intro hcolumn
    obtain ⟨⟨column, c⟩, hkept, rfl⟩ := List.mem_map.mp hcolumn
    obtain ⟨hentry, hc⟩ := List.mem_filter.mp hkept
    obtain ⟨b, hb, rfl⟩ := mem_entries.mp hentry
    refine ⟨b, hb, fun hempty => ?_⟩
    simp [isEmpty_condition.mpr hempty] at hc
  · rintro ⟨b, hb, hne⟩
    have hentry := mem_entries.mpr ⟨b, hb, rfl⟩
    refine List.mem_map.mpr ⟨_, List.mem_filter.mpr ⟨hentry, ?_⟩, rfl⟩
    simpa using mt isEmpty_condition.mp hne

theorem isExpansion_of_expand (hlower : Comparison.IsLowerCase lower)
    (h : b.condition.expand column = .ok e) : IsExpansion lower column b e := by
  cases b with
  | value v =>
    cases h
    exact .value (Comparison.isEquality_iff.mpr rfl)
  | tests bindings =>
    obtain ⟨es, hes, rfl⟩ := exceptMap_eq_ok_iff.mp h
    rw [Expr.join, Condition.dropEmpty_of_expandTests hes]
    refine .tests (KeyMap.sorted_ofList bindings) (fun name => ?_) ?_
    · simp [KeyMap.mem_ofList, Option.isSome_iff_exists]
    · have hmem : ∀ test ∈ KeyMap.ofList bindings, last? test.1 bindings = some test.2 :=
        fun test htest => KeyMap.mem_ofList.mp htest
      rw [List.forall₂_map_left_iff]
      refine ((List.forall₂_and_left _ _).mpr ⟨hmem, Condition.expandTests_eq_ok_iff.mp hes⟩).imp ?_
      rintro test e ⟨hv, o, ho, rfl⟩
      exact ⟨test.2, o, hv, hlower.ofTest?_eq_some_iff.mp ho, rfl⟩

/-- The error is that of the least name of the least column. -/
theorem ofEntries_eq_error_iff (hlower : Comparison.IsLowerCase lower) {err : Error} :
    Expr.ofEntries op (entries bindings) = .error err ↔
      ∃ column name, err = .unsupportedTest name ∧ IsUnknown lower bindings column name ∧
        ∀ column' name', IsUnknown lower bindings column' name' →
          column < column' ∨ column = column' ∧ name ≤ name' := by
  rw [Expr.ofEntries, exceptMap_eq_error_iff, Condition.expandAll_eq_error_iff_pair]
  simp only [head?_eq_some_iff_of_pairwise (pairwise_unknownPairs bindings)]
  constructor
  · rintro ⟨p, ⟨hp, hleast⟩, rfl⟩
    refine ⟨p.1, p.2, rfl, (mem_unknownPairs hlower).mp hp, fun column name h => ?_⟩
    exact Prod.Lex.toLex_le_toLex.mp (hleast _ ((mem_unknownPairs hlower).mpr h))
  · rintro ⟨column, name, rfl, h, hleast⟩
    refine ⟨toLex (column, name), ⟨(mem_unknownPairs hlower).mpr h, fun p hp => ?_⟩, rfl⟩
    exact Prod.Lex.toLex_le_toLex.mpr (hleast p.1 p.2 ((mem_unknownPairs hlower).mp hp))

/-- One test that is unknown is enough to fail the whole map. -/
theorem exists_error_of_isUnknown (hlower : Comparison.IsLowerCase lower)
    (h : IsUnknown lower bindings column name) :
    ∃ err, Expr.ofEntries op (entries bindings) = .error err := by
  simp only [Expr.ofEntries, exceptMap_eq_error_iff, Condition.expandAll_eq_error_iff_pair]
  cases hhead : (Condition.unknownPairs (entries bindings)).head? with
  | none =>
    have hmem := (mem_unknownPairs hlower).mpr h
    rw [List.head?_eq_none_iff.mp hhead] at hmem
    cases hmem
  | some p => exact ⟨_, p, rfl, rfl⟩

/-- A map expands to the conditions on the columns that something is asked of. -/
theorem isExpansion_of_ofEntries (hlower : Comparison.IsLowerCase lower)
    (h : Expr.ofEntries op (entries bindings) = .ok e) :
    ∃ items, e = .junction op items ∧
      List.Forall₂ (fun column item => ∃ b, last? column bindings = some b ∧
        IsExpansion lower column b item) (askedColumns bindings) items := by
  obtain ⟨es, hes, rfl⟩ := exceptMap_eq_ok_iff.mp h
  refine ⟨Expr.dropEmpty es, rfl, ?_⟩
  rw [askedColumns, List.forall₂_map_left_iff]
  -- The entries that ask nothing are those whose expansions are left out.
  have hkept := List.rel_filter (p := fun entry => !entry.2.isEmpty) (q := (!·.isEmptyList))
    (fun entry e he => by simp [Condition.isEmptyList_of_expand he])
    (Condition.expandAll_eq_ok_iff.mp hes)
  refine ((List.forall₂_and_left _ _).mpr ⟨fun _ => List.mem_of_mem_filter, hkept⟩).imp ?_
  rintro ⟨column, c⟩ e ⟨hentry, he⟩
  obtain ⟨b, hb, rfl⟩ := mem_entries.mp hentry
  exact ⟨b, hb, isExpansion_of_expand hlower he⟩

/-- What a map holds is what was bound last, whatever came before and in whatever order. It has no
expansion exactly when there is a name of no operator in it, and the error has the least such name
of the least such column, as it is written. Otherwise it expands to the conditions on its columns,
those of which nothing is asked left out, in ascending order, and so do the tests of each column. -/
theorem ofEntries_of_bindings (hlower : Comparison.IsLowerCase lower) (op : Connective)
    (bindings : List (String × Binding)) :
    (∀ bindings', entries bindings = entries bindings' ↔
      ∀ column, (last? column bindings).map condition = (last? column bindings').map condition) ∧
    (∀ tests tests', (Binding.tests tests).condition = (Binding.tests tests').condition ↔
      ∀ name, last? name tests = last? name tests') ∧
    ((∃ err, Expr.ofEntries op (entries bindings) = .error err) ↔
      ∃ column name, IsUnknown lower bindings column name) ∧
    (∀ err, Expr.ofEntries op (entries bindings) = .error err ↔
      ∃ column name, err = .unsupportedTest name ∧ IsUnknown lower bindings column name ∧
        ∀ column' name', IsUnknown lower bindings column' name' →
          column < column' ∨ column = column' ∧ name ≤ name') ∧
    ((∀ column name, ¬IsUnknown lower bindings column name) →
      ∃ columns items, Expr.ofEntries op (entries bindings) = .ok (.junction op items) ∧
        columns.Pairwise (· < ·) ∧
        (∀ column, column ∈ columns ↔ ∃ b, last? column bindings = some b ∧ b ≠ .tests []) ∧
        List.Forall₂ (fun column item => ∃ b, last? column bindings = some b ∧
          IsExpansion lower column b item) columns items) := by
  refine ⟨fun _ => entries_eq_iff, fun _ _ => ?_, ⟨?_, ?_⟩, fun _ => ofEntries_eq_error_iff hlower,
    fun h => ?_⟩
  · rw [condition, condition, Condition.tests.injEq, KeyMap.ofList_eq_iff]
  · rintro ⟨err, herr⟩
    obtain ⟨column, name, -, h, -⟩ := (ofEntries_eq_error_iff hlower).mp herr
    exact ⟨column, name, h⟩
  · rintro ⟨column, name, h⟩
    exact exists_error_of_isUnknown hlower h
  · cases he : Expr.ofEntries op (entries bindings) with
    | error err =>
      obtain ⟨column, name, -, hname, -⟩ := (ofEntries_eq_error_iff hlower).mp he
      exact absurd hname (h column name)
    | ok e =>
      obtain ⟨items, rfl, hitems⟩ := isExpansion_of_ofEntries hlower he
      exact ⟨_, items, rfl, pairwise_askedColumns _, fun _ => mem_askedColumns, hitems⟩

/-- Columns bound again, names that differ only in case, and a column of which nothing is asked. -/
theorem ofEntries_of_bindings_rebound :
    let bound : List (String × Binding) :=
      [("v", .value .null), ("t", .value (.bool true)), ("e", .tests []),
        ("v", .tests [("gt", .int 1), ("GT", .int 2), ("gt", .int 3)]), ("a", .value (.list []))]
    let unknown : List (String × Binding) :=
      [("b", .tests [("like", .null), ("eq", .null), ("Like", .null)]),
        ("a", .tests [("x", .null)]), ("a", .value .null), ("c", .tests [("Between", .null)])]
    Comparison.IsLowerCase String.toLower ∧
      Expr.ofEntries .and (entries bound) = .ok (.junction .and
        [.compare .isIn (.ofName "a") (.list []), .compare .is (.ofName "t") (.bool true),
          .junction .or
            [.compare .gt (.ofName "v") (.int 2), .compare .gt (.ofName "v") (.int 3)]]) ∧
      (∀ column name, ¬IsUnknown String.toLower bound column name) ∧
      Expr.ofEntries .or (entries unknown) = .error (.unsupportedTest "Like") ∧
      ∃ column, IsUnknown String.toLower unknown column "Like" := by
  intro bound unknown
  have hlower := Comparison.isLowerCase_toLower
  have hbound : Expr.ofEntries .and (entries bound) = .ok (.junction .and
      [.compare .isIn (.ofName "a") (.list []), .compare .is (.ofName "t") (.bool true),
        .junction .or
          [.compare .gt (.ofName "v") (.int 2), .compare .gt (.ofName "v") (.int 3)]]) := by
    with_unfolding_all rfl
  have hunknown : Expr.ofEntries .or (entries unknown) = .error (.unsupportedTest "Like") := by
    with_unfolding_all rfl
  obtain ⟨-, -, hfails, -, -⟩ := ofEntries_of_bindings hlower .and bound
  obtain ⟨-, -, -, herror, -⟩ := ofEntries_of_bindings hlower .or unknown
  refine ⟨hlower, hbound, fun column name h => ?_, hunknown, ?_⟩
  · obtain ⟨err, herr⟩ := hfails.mpr ⟨column, name, h⟩
    cases hbound.symm.trans herr
  · obtain ⟨column, name, herr, hname, -⟩ := (herror _).mp hunknown
    cases herr
    exact ⟨column, hname⟩

end Binding

end SeriesQuery
