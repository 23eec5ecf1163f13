import SeriesQuery.Clauses
import SeriesQuery.Proofs.Induction

/-! The floating point numbers in a query. What is the same but for them, and has the same ones in
the same places, is the same. -/

namespace SeriesQuery

mutual

/-- The value with each floating point number in it changed. -/
def Value.mapFloats (g : Binary64 → Binary64) : Value → Value
  | .float x => .float (g x)
  | .list vs => .list (Value.mapFloatsAll g vs)
  | .expr e => .expr (e.mapFloats g)
  | .null => .null
  | .bool b => .bool b
  | .int n => .int n
  | .uint n => .uint n
  | .string s => .string s
  | .bytes bs => .bytes bs

def Value.mapFloatsAll (g : Binary64 → Binary64) : List Value → List Value
  | [] => []
  | v :: vs => v.mapFloats g :: Value.mapFloatsAll g vs

/-- The expression with each floating point number in it changed. -/
def Expr.mapFloats (g : Binary64 → Binary64) : Expr → Expr
  | .ident i => .ident (i.mapFloats g)
  | .literal l => .literal (l.mapFloats g)
  | .compare op lhs rhs => .compare op (lhs.mapFloats g) (rhs.mapFloats g)
  | .compute op lhs rhs => .compute op (lhs.mapFloats g) (rhs.mapFloats g)
  | .range test lhs start stop =>
    .range test (lhs.mapFloats g) (start.mapFloats g) (stop.mapFloats g)
  | .ordered e dir => .ordered (e.mapFloats g) dir
  | .aliased e name => .aliased (e.mapFloats g) (name.mapFloats g)
  | .call function args => .call function (Value.mapFloatsAll g args)
  | .junction op items => .junction op (Expr.mapFloatsAll g items)
  | .columns cols => .columns (Expr.mapFloatsAll g cols)
  | .conditions op entries => .conditions op (Condition.mapFloatsAll g entries)

def Expr.mapFloatsAll (g : Binary64 → Binary64) : List Expr → List Expr
  | [] => []
  | e :: es => e.mapFloats g :: Expr.mapFloatsAll g es

def Identifier.mapFloats (g : Binary64 → Binary64) : Identifier → Identifier
  | ⟨schema, table, column⟩ => ⟨schema, table, column.mapFloats g⟩

def Column.mapFloats (g : Binary64 → Binary64) : Column → Column
  | .none => .none
  | .name s => .name s
  | .literal l => .literal (l.mapFloats g)
  | .other e => .other (e.mapFloats g)

def Literal.mapFloats (g : Binary64 → Binary64) : Literal → Literal
  | ⟨sql, args⟩ => ⟨sql, Value.mapFloatsAll g args⟩

def Condition.mapFloats (g : Binary64 → Binary64) : Condition → Condition
  | .equals v => .equals (v.mapFloats g)
  | .tests comparands => .tests (Condition.mapFloatsTests g comparands)

def Condition.mapFloatsTests (g : Binary64 → Binary64) :
    List (String × Value) → List (String × Value)
  | [] => []
  | (name, v) :: rest => (name, v.mapFloats g) :: Condition.mapFloatsTests g rest

def Condition.mapFloatsAll (g : Binary64 → Binary64) :
    List (String × Condition) → List (String × Condition)
  | [] => []
  | (column, c) :: rest => (column, c.mapFloats g) :: Condition.mapFloatsAll g rest

end

mutual

/-- The floating point numbers in a value, from left to right. -/
def Value.floats : Value → List Binary64
  | .float x => [x]
  | .list vs => Value.floatsAll vs
  | .expr e => e.floats
  | .null | .bool _ | .int _ | .uint _ | .string _ | .bytes _ => []

def Value.floatsAll : List Value → List Binary64
  | [] => []
  | v :: vs => v.floats ++ Value.floatsAll vs

/-- The floating point numbers in an expression, from left to right. -/
def Expr.floats : Expr → List Binary64
  | .ident i => i.floats
  | .literal l => l.floats
  | .compare _ lhs rhs => lhs.floats ++ rhs.floats
  | .compute _ lhs rhs => lhs.floats ++ rhs.floats
  | .range _ lhs start stop => lhs.floats ++ (start.floats ++ stop.floats)
  | .ordered e _ => e.floats
  | .aliased e name => e.floats ++ name.floats
  | .call _ args => Value.floatsAll args
  | .junction _ items => Expr.floatsAll items
  | .columns cols => Expr.floatsAll cols
  | .conditions _ entries => Condition.floatsAll entries

def Expr.floatsAll : List Expr → List Binary64
  | [] => []
  | e :: es => e.floats ++ Expr.floatsAll es

def Identifier.floats : Identifier → List Binary64
  | ⟨_, _, column⟩ => column.floats

def Column.floats : Column → List Binary64
  | .none | .name _ => []
  | .literal l => l.floats
  | .other e => e.floats

def Literal.floats : Literal → List Binary64
  | ⟨_, args⟩ => Value.floatsAll args

def Condition.floats : Condition → List Binary64
  | .equals v => v.floats
  | .tests comparands => Condition.floatsTests comparands

def Condition.floatsTests : List (String × Value) → List Binary64
  | [] => []
  | (_, v) :: rest => v.floats ++ Condition.floatsTests rest

def Condition.floatsAll : List (String × Condition) → List Binary64
  | [] => []
  | (_, c) :: rest => c.floats ++ Condition.floatsAll rest

end

namespace Fill

/-- The filling with its floating point numbers changed. -/
def mapFloats (g : Binary64 → Binary64) : Fill → Fill
  | .float x => .float (g x)
  | .value v => .value (v.mapFloats g)
  | .text s => .text s
  | .int n => .int n

/-- The floating point numbers in a filling. -/
def floats : Fill → List Binary64
  | .float x => [x]
  | .value v => v.floats
  | .text _ | .int _ => []

end Fill

namespace Clauses

/-- The lists of expressions that the clauses are made of. -/
def lists (c : Clauses) : List (List Expr) :=
  [c.select, c.distinct, c.source, c.conditions, c.order, c.partitionBy, c.groupBy]

/-- The clauses with each floating point number in them changed. -/
def mapFloats (g : Binary64 → Binary64) (c : Clauses) : Clauses :=
  { c with
    select := Expr.mapFloatsAll g c.select
    distinct := Expr.mapFloatsAll g c.distinct
    source := Expr.mapFloatsAll g c.source
    conditions := Expr.mapFloatsAll g c.conditions
    order := Expr.mapFloatsAll g c.order
    partitionBy := Expr.mapFloatsAll g c.partitionBy
    groupBy := Expr.mapFloatsAll g c.groupBy
    fill := c.fill.map (Fill.mapFloats g) }

/-- The floating point numbers in the clauses, clause by clause. -/
def floats (c : Clauses) : List Binary64 :=
  c.lists.flatMap Expr.floatsAll ++ c.fill.toList.flatMap Fill.floats

end Clauses

variable {g : Binary64 → Binary64}

theorem Value.mapFloatsAll_eq_map (vs : List Value) :
    Value.mapFloatsAll g vs = vs.map (Value.mapFloats g) :=
  eq_map_of_cons rfl (fun _ _ => rfl) vs

theorem Expr.mapFloatsAll_eq_map (es : List Expr) :
    Expr.mapFloatsAll g es = es.map (Expr.mapFloats g) :=
  eq_map_of_cons rfl (fun _ _ => rfl) es

/-- The numbers of a condition are those of its values. -/
theorem Condition.mapFloats_eq_mapValues (c : Condition) :
    c.mapFloats g = c.mapValues (Value.mapFloats g) := by
  cases c with
  | equals v => rfl
  | tests comparands => exact congrArg tests (eq_map_of_cons rfl (fun _ _ => rfl) comparands)

theorem Condition.mapFloatsAll_eq_map (entries : List (String × Condition)) :
    Condition.mapFloatsAll g entries =
      entries.map fun (column, c) => (column, c.mapFloats g) :=
  eq_map_of_cons rfl (fun _ _ => rfl) entries

theorem Value.floatsAll_eq_flatMap (vs : List Value) :
    Value.floatsAll vs = vs.flatMap Value.floats :=
  eq_flatMap_of_cons rfl (fun _ _ => rfl) vs

theorem Expr.floatsAll_eq_flatMap (es : List Expr) :
    Expr.floatsAll es = es.flatMap Expr.floats :=
  eq_flatMap_of_cons rfl (fun _ _ => rfl) es

theorem Condition.floats_eq_flatMap (c : Condition) : c.floats = c.values.flatMap Value.floats := by
  cases c with
  | equals v => simp [floats, values]
  | tests comparands =>
    rw [floats, values, List.flatMap_map]
    exact eq_flatMap_of_cons rfl (fun _ _ => rfl) comparands

theorem Condition.floatsAll_eq_flatMap (entries : List (String × Condition)) :
    Condition.floatsAll entries = entries.flatMap fun entry => entry.2.floats :=
  eq_flatMap_of_cons rfl (fun _ _ => rfl) entries

theorem Condition.floats_mapFloats_of_forall {c : Condition}
    (h : ∀ v ∈ c.values, (v.mapFloats g).floats = v.floats.map g) :
    (c.mapFloats g).floats = c.floats.map g := by
  rw [floats_eq_flatMap, floats_eq_flatMap, mapFloats_eq_mapValues, values_mapValues]
  exact flatMap_map_of_forall h

/-- A change of the numbers is a change in every place. -/
theorem compositional_floats_mapFloats (g : Binary64 → Binary64) :
    Compositional (fun v => (v.mapFloats g).floats = v.floats.map g)
      (fun e => (e.mapFloats g).floats = e.floats.map g) where
  null := rfl
  bool _ := rfl
  int _ := rfl
  uint _ := rfl
  float _ := rfl
  string _ := rfl
  bytes _ := rfl
  list vs h := by
    rw [Value.mapFloats, Value.floats, Value.floats, Value.floatsAll_eq_flatMap,
      Value.floatsAll_eq_flatMap, Value.mapFloatsAll_eq_map, flatMap_map_of_forall h]
  expr e h := h
  ident i hl he := by
    obtain ⟨schema, table, column⟩ := i
    cases column with
    | none => rfl
    | name s => rfl
    | literal l => exact hl l rfl
    | other e => exact he e rfl
  literal l h := by
    obtain ⟨sql, args⟩ := l
    rw [Expr.mapFloats, Literal.mapFloats, Expr.floats, Expr.floats, Literal.floats, Literal.floats,
      Value.floatsAll_eq_flatMap, Value.floatsAll_eq_flatMap, Value.mapFloatsAll_eq_map,
      flatMap_map_of_forall h]
  compare op lhs rhs hl hr := by
    rw [Expr.mapFloats, Expr.floats, Expr.floats, hl, hr, List.map_append]
  compute op lhs rhs hl hr := by
    rw [Expr.mapFloats, Expr.floats, Expr.floats, hl, hr, List.map_append]
  range test lhs start stop hl ha hb := by
    rw [Expr.mapFloats, Expr.floats, Expr.floats, hl, ha, hb, List.map_append, List.map_append]
  ordered e dir h := h
  aliased e name h hname := by
    have hname : (name.mapFloats g).floats = name.floats.map g := hname
    rw [Expr.mapFloats, Expr.floats, Expr.floats, h, hname, List.map_append]
  call function args h := by
    rw [Expr.mapFloats, Expr.floats, Expr.floats, Value.floatsAll_eq_flatMap,
      Value.floatsAll_eq_flatMap, Value.mapFloatsAll_eq_map, flatMap_map_of_forall h]
  junction op items h := by
    rw [Expr.mapFloats, Expr.floats, Expr.floats, Expr.floatsAll_eq_flatMap,
      Expr.floatsAll_eq_flatMap, Expr.mapFloatsAll_eq_map, flatMap_map_of_forall h]
  columns cols h := by
    rw [Expr.mapFloats, Expr.floats, Expr.floats, Expr.floatsAll_eq_flatMap,
      Expr.floatsAll_eq_flatMap, Expr.mapFloatsAll_eq_map, flatMap_map_of_forall h]
  conditions op entries h := by
    rw [Expr.mapFloats, Expr.floats, Expr.floats, Condition.floatsAll_eq_flatMap,
      Condition.floatsAll_eq_flatMap, Condition.mapFloatsAll_eq_map, List.flatMap_map,
      List.map_flatMap]
    exact List.flatMap_congr fun entry hentry =>
      Condition.floats_mapFloats_of_forall (h entry hentry)

theorem Value.floats_mapFloats (g : Binary64 → Binary64) (v : Value) :
    (v.mapFloats g).floats = v.floats.map g :=
  (compositional_floats_mapFloats g).all_values v

/-- A change of the numbers keeps how many there are and where they stand. -/
theorem Expr.floats_mapFloats (g : Binary64 → Binary64) (e : Expr) :
    (e.mapFloats g).floats = e.floats.map g :=
  (compositional_floats_mapFloats g).all_exprs e

theorem Condition.floats_mapFloats (g : Binary64 → Binary64) (c : Condition) :
    (c.mapFloats g).floats = c.floats.map g :=
  floats_mapFloats_of_forall fun v _ => v.floats_mapFloats g

theorem Expr.floatsAll_mapFloatsAll (g : Binary64 → Binary64) (es : List Expr) :
    floatsAll (mapFloatsAll g es) = (floatsAll es).map g := by
  rw [mapFloatsAll_eq_map, floatsAll_eq_flatMap, floatsAll_eq_flatMap]
  exact flatMap_map_of_forall fun e _ => e.floats_mapFloats g

theorem Fill.floats_mapFloats (g : Binary64 → Binary64) (fill : Fill) :
    (fill.mapFloats g).floats = fill.floats.map g := by
  cases fill with
  | value v => exact v.floats_mapFloats g
  | _ => rfl

theorem Clauses.floats_mapFloats (g : Binary64 → Binary64) (c : Clauses) :
    (c.mapFloats g).floats = c.floats.map g := by
  have hlists : (c.mapFloats g).lists = c.lists.map (Expr.mapFloatsAll g) := rfl
  have hfill : (c.mapFloats g).fill.toList = c.fill.toList.map (Fill.mapFloats g) := by
    cases h : c.fill <;> simp [mapFloats, h]
  rw [floats, floats, List.map_append, hlists, hfill,
    flatMap_map_of_forall fun es _ => Expr.floatsAll_mapFloatsAll g es,
    flatMap_map_of_forall fun fill _ => Fill.floats_mapFloats g fill]

/-! ## What is the same but for its numbers -/

section

variable {α : Type} {change : α → α} {numbers : α → List Binary64} {a b : α} {as bs : List α}

/-- A change of the numbers leaves as many as there were. -/
theorem append_inj_of_change_eq {xs ys : List Binary64}
    (hchange : ∀ a, numbers (change a) = (numbers a).map g) (h : change a = change b)
    (hnumbers : numbers a ++ xs = numbers b ++ ys) : numbers a = numbers b ∧ xs = ys := by
  refine List.append_inj hnumbers ?_
  rw [← List.length_map g, ← hchange, h, hchange, List.length_map]

/-- Lists that agree but for their numbers are the same if these are, for then the numbers of each
element are. -/
theorem eq_of_change_eq (hchange : ∀ a, numbers (change a) = (numbers a).map g)
    (heq : ∀ a ∈ as, ∀ b, change a = change b → numbers a = numbers b → a = b)
    (h : as.map change = bs.map change) (hnumbers : as.flatMap numbers = bs.flatMap numbers) :
    as = bs := by
  induction as generalizing bs with
  | nil => exact (List.map_eq_nil_iff.mp h.symm).symm
  | cons a as ih =>
    obtain ⟨b, bs', rfl, hab, hrest⟩ := List.map_eq_cons_iff.mp h.symm
    obtain ⟨ha, has⟩ := List.forall_mem_cons.mp heq
    rw [List.flatMap_cons, List.flatMap_cons] at hnumbers
    obtain ⟨hhead, htail⟩ := append_inj_of_change_eq hchange hab.symm hnumbers
    rw [ha b hab.symm hhead, ih has hrest.symm htail]

end

theorem Value.eq_of_lists {vs ws : List Value}
    (h : ∀ v ∈ vs, ∀ w, v.mapFloats g = w.mapFloats g → v.floats = w.floats → v = w)
    (hmap : mapFloatsAll g vs = mapFloatsAll g ws) (hfloats : floatsAll vs = floatsAll ws) :
    vs = ws := by
  rw [mapFloatsAll_eq_map, mapFloatsAll_eq_map] at hmap
  rw [floatsAll_eq_flatMap, floatsAll_eq_flatMap] at hfloats
  exact eq_of_change_eq (floats_mapFloats g) h hmap hfloats

theorem Expr.eq_of_lists {es fs : List Expr}
    (h : ∀ e ∈ es, ∀ f, e.mapFloats g = f.mapFloats g → e.floats = f.floats → e = f)
    (hmap : mapFloatsAll g es = mapFloatsAll g fs) (hfloats : floatsAll es = floatsAll fs) :
    es = fs := by
  rw [mapFloatsAll_eq_map, mapFloatsAll_eq_map] at hmap
  rw [floatsAll_eq_flatMap, floatsAll_eq_flatMap] at hfloats
  exact eq_of_change_eq (floats_mapFloats g) h hmap hfloats

/-- A condition is known from its numbers and from what is left of it without them. -/
theorem Condition.eq_of_mapFloats_eq {c c' : Condition}
    (h : ∀ v ∈ c.values, ∀ w, v.mapFloats g = w.mapFloats g → v.floats = w.floats → v = w)
    (hmap : c.mapFloats g = c'.mapFloats g) (hfloats : c.floats = c'.floats) : c = c' := by
  cases c with
  | equals v =>
    cases c' with
    | equals w =>
      have hvalue := h v (List.mem_singleton.mpr rfl) w (Condition.equals.inj hmap) hfloats
      exact congrArg equals hvalue
    | tests => cases hmap
  | tests comparands =>
    cases c' with
    | equals => cases hmap
    | tests comparands' =>
      rw [mapFloats_eq_mapValues, mapFloats_eq_mapValues] at hmap
      rw [floats_eq_flatMap, floats_eq_flatMap, values, values, List.flatMap_map,
        List.flatMap_map] at hfloats
      have hchange (test : String × Value) := test.2.floats_mapFloats g
      refine congrArg tests (eq_of_change_eq hchange ?_ (Condition.tests.inj hmap) hfloats)
      rintro ⟨name, v⟩ hmem ⟨name', w⟩ htest hvalue
      obtain ⟨rfl, hvalues⟩ := Prod.mk.inj htest
      rw [h v (List.mem_map_of_mem hmem) w hvalues hvalue]

/-- Nothing is lost of a value or an expression that is taken apart into its numbers and the
rest. -/
theorem compositional_eq_of_mapFloats_eq (g : Binary64 → Binary64) :
    Compositional (fun v => ∀ w, v.mapFloats g = w.mapFloats g → v.floats = w.floats → v = w)
      (fun e => ∀ f, e.mapFloats g = f.mapFloats g → e.floats = f.floats → e = f) where
  null w h _ := by
    cases w with
    | null => rfl
    | _ => cases h
  bool b w h _ := by
    cases w with
    | bool b' => exact h
    | _ => cases h
  int n w h _ := by
    cases w with
    | int n' => exact h
    | _ => cases h
  uint n w h _ := by
    cases w with
    | uint n' => exact h
    | _ => cases h
  float x w h hf := by
    cases w with
    | float y => exact congrArg Value.float (List.singleton_inj.mp hf)
    | _ => cases h
  string s w h _ := by
    cases w with
    | string t => exact h
    | _ => cases h
  bytes bs w h _ := by
    cases w with
    | bytes bs' => exact h
    | _ => cases h
  list vs ih w h hf := by
    cases w with
    | list ws => exact congrArg Value.list (Value.eq_of_lists ih (Value.list.inj h) hf)
    | _ => cases h
  expr e ih w h hf := by
    cases w with
    | expr f => exact congrArg Value.expr (ih f (Value.expr.inj h) hf)
    | _ => cases h
  ident i hl he f h hf := by
    cases f with
    | ident j =>
      obtain ⟨schema, table, column⟩ := i
      obtain ⟨schema', table', column'⟩ := j
      obtain ⟨rfl, rfl, hcolumn⟩ := Identifier.mk.inj (Expr.ident.inj h)
      cases column with
      | none =>
        cases column' with
        | none => rfl
        | _ => cases hcolumn
      | name s =>
        cases column' with
        | name t => rw [Column.name.inj hcolumn]
        | _ => cases hcolumn
      | literal l =>
        cases column' with
        | literal l' =>
          have hlit := congrArg Expr.literal (Column.literal.inj hcolumn)
          rw [Expr.literal.inj (hl l rfl (.literal l') hlit hf)]
        | _ => cases hcolumn
      | other e =>
        cases column' with
        | other e' => rw [he e rfl e' (Column.other.inj hcolumn) hf]
        | _ => cases hcolumn
    | _ => cases h
  literal l ih f h hf := by
    cases f with
    | literal m =>
      obtain ⟨sql, args⟩ := l
      obtain ⟨sql', args'⟩ := m
      obtain ⟨rfl, hargs⟩ := Literal.mk.inj (Expr.literal.inj h)
      obtain rfl : args = args' := Value.eq_of_lists ih hargs hf
      rfl
    | _ => cases h
  compare op lhs rhs hl hr f h hf := by
    cases f with
    | compare op' lhs' rhs' =>
      obtain ⟨rfl, hlhs, hrhs⟩ := Expr.compare.inj h
      obtain ⟨hfl, hfr⟩ := append_inj_of_change_eq (Expr.floats_mapFloats g) hlhs hf
      rw [hl lhs' hlhs hfl, hr rhs' hrhs hfr]
    | _ => cases h
  compute op lhs rhs hl hr f h hf := by
    cases f with
    | compute op' lhs' rhs' =>
      obtain ⟨rfl, hlhs, hrhs⟩ := Expr.compute.inj h
      obtain ⟨hfl, hfr⟩ := append_inj_of_change_eq (Expr.floats_mapFloats g) hlhs hf
      rw [hl lhs' hlhs hfl, hr rhs' hrhs hfr]
    | _ => cases h
  range test lhs start stop hl ha hb f h hf := by
    cases f with
    | range test' lhs' start' stop' =>
      obtain ⟨rfl, hlhs, hstart, hstop⟩ := Expr.range.inj h
      obtain ⟨hfl, hf⟩ := append_inj_of_change_eq (Expr.floats_mapFloats g) hlhs hf
      obtain ⟨hfa, hfb⟩ := append_inj_of_change_eq (Value.floats_mapFloats g) hstart hf
      rw [hl lhs' hlhs hfl, ha start' hstart hfa, hb stop' hstop hfb]
    | _ => cases h
  ordered e dir ih f h hf := by
    cases f with
    | ordered e' dir' =>
      obtain ⟨he, rfl⟩ := Expr.ordered.inj h
      rw [ih e' he hf]
    | _ => cases h
  aliased e name ih ihname f h hf := by
    cases f with
    | aliased e' name' =>
      obtain ⟨he, hname⟩ := Expr.aliased.inj h
      obtain ⟨hfe, hfname⟩ := append_inj_of_change_eq (Expr.floats_mapFloats g) he hf
      have hident := ihname (.ident name') (congrArg Expr.ident hname) hfname
      rw [ih e' he hfe, Expr.ident.inj hident]
    | _ => cases h
  call function args ih f h hf := by
    cases f with
    | call function' args' =>
      obtain ⟨rfl, hargs⟩ := Expr.call.inj h
      rw [Value.eq_of_lists ih hargs hf]
    | _ => cases h
  junction op items ih f h hf := by
    cases f with
    | junction op' items' =>
      obtain ⟨rfl, hitems⟩ := Expr.junction.inj h
      rw [Expr.eq_of_lists ih hitems hf]
    | _ => cases h
  columns cols ih f h hf := by
    cases f with
    | columns cols' => rw [Expr.eq_of_lists ih (Expr.columns.inj h) hf]
    | _ => cases h
  conditions op entries ih f h hf := by
    cases f with
    | conditions op' entries' =>
      obtain ⟨rfl, hentries⟩ := Expr.conditions.inj h
      rw [Condition.mapFloatsAll_eq_map, Condition.mapFloatsAll_eq_map] at hentries
      rw [Expr.floats, Expr.floats, Condition.floatsAll_eq_flatMap,
        Condition.floatsAll_eq_flatMap] at hf
      have hchange (entry : String × Condition) := entry.2.floats_mapFloats g
      refine congrArg (Expr.conditions op) (eq_of_change_eq hchange ?_ hentries hf)
      rintro ⟨column, c⟩ hmem ⟨column', c'⟩ hentry hfloats
      obtain ⟨rfl, hc⟩ := Prod.mk.inj hentry
      exact congrArg (Prod.mk column) (Condition.eq_of_mapFloats_eq (ih _ hmem) hc hfloats)
    | _ => cases h

theorem Value.eq_of_mapFloats_eq {v w : Value} (h : v.mapFloats g = w.mapFloats g)
    (hfloats : v.floats = w.floats) : v = w :=
  (compositional_eq_of_mapFloats_eq g).all_values v w h hfloats

theorem Fill.eq_of_mapFloats_eq {fill fill' : Fill} (h : fill.mapFloats g = fill'.mapFloats g)
    (hfloats : fill.floats = fill'.floats) : fill = fill' := by
  cases fill with
  | text s =>
    cases fill' with
    | text t => exact h
    | _ => cases h
  | int n =>
    cases fill' with
    | int n' => exact h
    | _ => cases h
  | float x =>
    cases fill' with
    | float y => exact congrArg Fill.float (List.singleton_inj.mp hfloats)
    | _ => cases h
  | value v =>
    cases fill' with
    | value w => exact congrArg Fill.value (Value.eq_of_mapFloats_eq (Fill.value.inj h) hfloats)
    | _ => cases h

theorem Fill.eq_of_options {fill fill' : Option Fill}
    (h : fill.map (mapFloats g) = fill'.map (mapFloats g))
    (hfloats : fill.toList.flatMap floats = fill'.toList.flatMap floats) : fill = fill' := by
  cases fill with
  | none => exact (Option.map_eq_none_iff.mp h.symm).symm
  | some f =>
    obtain ⟨f', rfl, hf⟩ := Option.map_eq_some_iff.mp h.symm
    have hfloats : f.floats = f'.floats := by simpa using hfloats
    rw [eq_of_mapFloats_eq hf.symm hfloats]

theorem Expr.eq_of_mapFloats_eq {e f : Expr} (h : e.mapFloats g = f.mapFloats g)
    (hfloats : e.floats = f.floats) : e = f :=
  (compositional_eq_of_mapFloats_eq g).all_exprs e f h hfloats

/-- A statement is known from its numbers and from what is left of it without them. -/
theorem Clauses.eq_of_mapFloats_eq {c c' : Clauses} (h : c.mapFloats g = c'.mapFloats g)
    (hfloats : c.floats = c'.floats) : c = c' := by
  have hmap : c.lists.map (Expr.mapFloatsAll g) = c'.lists.map (Expr.mapFloatsAll g) :=
    congrArg lists h
  have hchange (lists : List (List Expr)) : (lists.map (Expr.mapFloatsAll g)).flatMap
      Expr.floatsAll = (lists.flatMap Expr.floatsAll).map g :=
    flatMap_map_of_forall fun es _ => Expr.floatsAll_mapFloatsAll g es
  obtain ⟨hlists, hfills⟩ := append_inj_of_change_eq hchange hmap hfloats
  have hfill : c.fill = c'.fill := Fill.eq_of_options (congrArg fill h) hfills
  have hlists : c.lists = c'.lists :=
    eq_of_change_eq (Expr.floatsAll_mapFloatsAll g)
      (fun es _ fs => Expr.eq_of_lists fun e _ f => Expr.eq_of_mapFloats_eq) hmap hlists
  obtain ⟨-, -, -, -, -, -, -, -, hlimit, hinterval, htimezone, hoffset⟩ := Clauses.mk.inj h
  simp only [lists, List.cons.injEq, and_true] at hlists
  obtain ⟨hselect, hdistinct, hsource, hconditions, horder, hpartition, hgroup⟩ := hlists
  cases c
  cases c'
  simp_all

end SeriesQuery
