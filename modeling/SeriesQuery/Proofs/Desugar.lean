import SeriesQuery.Proofs.Induction

/-! Expressions without maps. The maps are expanded from the inside out, and those that have no
expansion stay. Nothing else is written for it, nor does anything else go wrong. -/

namespace SeriesQuery

mutual

/-- The value with the maps in it expanded. -/
def Value.desugar : Value → Value
  | .list vs => .list (Value.desugarAll vs)
  | .expr e => .expr e.desugar
  | .null => .null
  | .bool b => .bool b
  | .int n => .int n
  | .uint n => .uint n
  | .float x => .float x
  | .string s => .string s
  | .bytes bs => .bytes bs

def Value.desugarAll : List Value → List Value
  | [] => []
  | v :: vs => v.desugar :: Value.desugarAll vs

/-- The expression with the maps in it expanded. -/
def Expr.desugar : Expr → Expr
  | .ident i => .ident i.desugar
  | .literal l => .literal l.desugar
  | .compare op lhs rhs => .compare op lhs.desugar rhs.desugar
  | .compute op lhs rhs => .compute op lhs.desugar rhs.desugar
  | .range test lhs start stop => .range test lhs.desugar start.desugar stop.desugar
  | .ordered e dir => .ordered e.desugar dir
  | .aliased e name => .aliased e.desugar name.desugar
  | .call function args => .call function (Value.desugarAll args)
  | .junction op items => .junction op (Expr.desugarAll items)
  | .columns cols => .columns (Expr.desugarAll cols)
  | .conditions op entries =>
    match Expr.ofEntries op (Condition.desugarAll entries) with
    | .ok e => e
    | .error _ => .conditions op (Condition.desugarAll entries)

def Expr.desugarAll : List Expr → List Expr
  | [] => []
  | e :: es => e.desugar :: Expr.desugarAll es

def Identifier.desugar : Identifier → Identifier
  | ⟨schema, table, column⟩ => ⟨schema, table, column.desugar⟩

/-- A column that is given as another expression is refused by the kind of it, so it stays as it
is. -/
def Column.desugar : Column → Column
  | .literal l => .literal l.desugar
  | c => c

def Literal.desugar : Literal → Literal
  | ⟨sql, args⟩ => ⟨sql, Value.desugarAll args⟩

def Condition.desugar : Condition → Condition
  | .equals v => .equals v.desugar
  | .tests comparands => .tests (Condition.desugarTests comparands)

def Condition.desugarTests : List (String × Value) → List (String × Value)
  | [] => []
  | (name, v) :: rest => (name, v.desugar) :: Condition.desugarTests rest

def Condition.desugarAll : List (String × Condition) → List (String × Condition)
  | [] => []
  | (column, c) :: rest => (column, c.desugar) :: Condition.desugarAll rest

end

mutual

/-- The maps in a value, each with its connective. -/
def Value.maps : Value → List (Connective × List (String × Condition))
  | .list vs => Value.mapsAll vs
  | .expr e => e.maps
  | .null | .bool _ | .int _ | .uint _ | .float _ | .string _ | .bytes _ => []

def Value.mapsAll : List Value → List (Connective × List (String × Condition))
  | [] => []
  | v :: vs => v.maps ++ Value.mapsAll vs

/-- The maps in an expression, each with its connective. -/
def Expr.maps : Expr → List (Connective × List (String × Condition))
  | .ident i => i.maps
  | .literal l => l.maps
  | .compare _ lhs rhs => lhs.maps ++ rhs.maps
  | .compute _ lhs rhs => lhs.maps ++ rhs.maps
  | .range _ lhs start stop => lhs.maps ++ start.maps ++ stop.maps
  | .ordered e _ => e.maps
  | .aliased e name => e.maps ++ name.maps
  | .call _ args => Value.mapsAll args
  | .junction _ items => Expr.mapsAll items
  | .columns cols => Expr.mapsAll cols
  | .conditions op entries => (op, entries) :: Condition.mapsAll entries

def Expr.mapsAll : List Expr → List (Connective × List (String × Condition))
  | [] => []
  | e :: es => e.maps ++ Expr.mapsAll es

def Identifier.maps : Identifier → List (Connective × List (String × Condition))
  | ⟨_, _, column⟩ => column.maps

def Column.maps : Column → List (Connective × List (String × Condition))
  | .literal l => l.maps
  | _ => []

def Literal.maps : Literal → List (Connective × List (String × Condition))
  | ⟨_, args⟩ => Value.mapsAll args

def Condition.maps : Condition → List (Connective × List (String × Condition))
  | .equals v => v.maps
  | .tests comparands => Condition.mapsTests comparands

def Condition.mapsTests : List (String × Value) → List (Connective × List (String × Condition))
  | [] => []
  | (_, v) :: rest => v.maps ++ Condition.mapsTests rest

def Condition.mapsAll : List (String × Condition) → List (Connective × List (String × Condition))
  | [] => []
  | (_, c) :: rest => c.maps ++ Condition.mapsAll rest

end

theorem Value.desugarAll_eq_map (vs : List Value) : desugarAll vs = vs.map desugar :=
  eq_map_of_cons rfl (fun _ _ => rfl) vs

theorem Expr.desugarAll_eq_map (es : List Expr) : desugarAll es = es.map desugar :=
  eq_map_of_cons rfl (fun _ _ => rfl) es

theorem Identifier.desugar_eq (i : Identifier) :
    i.desugar = ⟨i.schema, i.table, i.column.desugar⟩ := by
  cases i
  rfl

theorem Identifier.desugar_eq_self {i : Identifier} (h : i.column.desugar = i.column) :
    i.desugar = i := by
  cases i
  exact congrArg (Identifier.mk _ _) h

theorem Identifier.maps_eq (i : Identifier) : i.maps = i.column.maps := by
  cases i
  rfl

theorem Value.mapsAll_eq_flatMap (vs : List Value) : mapsAll vs = vs.flatMap maps :=
  eq_flatMap_of_cons rfl (fun _ _ => rfl) vs

theorem Expr.mapsAll_eq_flatMap (es : List Expr) : mapsAll es = es.flatMap maps :=
  eq_flatMap_of_cons rfl (fun _ _ => rfl) es

theorem Condition.maps_eq_flatMap (c : Condition) : c.maps = c.values.flatMap Value.maps := by
  cases c with
  | equals v => simp [maps, values]
  | tests comparands =>
    rw [maps, values, List.flatMap_map]
    exact eq_flatMap_of_cons rfl (fun _ _ => rfl) comparands

theorem Condition.mapsAll_eq_flatMap (entries : List (String × Condition)) :
    mapsAll entries = entries.flatMap fun entry => entry.2.values.flatMap Value.maps := by
  apply eq_flatMap_of_cons rfl
  rintro ⟨column, c⟩ rest
  rw [mapsAll, maps_eq_flatMap]

theorem Condition.desugar_eq_mapValues (c : Condition) : c.desugar = c.mapValues Value.desugar := by
  cases c with
  | equals v => rfl
  | tests comparands => exact congrArg tests (eq_map_of_cons rfl (fun _ _ => rfl) comparands)

theorem Condition.desugarAll_eq_map (entries : List (String × Condition)) :
    desugarAll entries = entries.map fun (column, c) => (column, c.mapValues Value.desugar) := by
  apply eq_map_of_cons rfl
  rintro ⟨column, c⟩ rest
  rw [desugarAll, desugar_eq_mapValues]

/-- Desugaring keeps a value null, or a list, or neither. -/
theorem Comparison.equalityWith_desugar (v : Value) :
    equalityWith v.desugar = equalityWith v := by
  cases v <;> rfl

namespace Expr

/-- An empty list is left out of a junction, so it must not come about or go away. -/
theorem isEmptyList_desugar (e : Expr) : e.desugar.isEmptyList = e.isEmptyList := by
  cases e with
  | junction op items => cases items <;> rfl
  | conditions op entries =>
    have hentries : (conditions op (Condition.desugarAll entries)).isEmptyList =
        (conditions op entries).isEmptyList := by
      simp [isEmptyList, Condition.desugarAll_eq_map, Function.comp_def,
        Condition.isEmpty_mapValues]
    rw [desugar, ← hentries]
    cases he : ofEntries op (Condition.desugarAll entries) with
    | error err => rfl
    | ok e => exact isEmptyList_ofEntries he
  | _ => rfl

/-- There is nothing to desugar in a name. -/
theorem desugar_ofName (name : String) : (ofName name).desugar = ofName name := by
  have hcolumn : (Identifier.parse name).column.desugar = (Identifier.parse name).column := by
    rcases Identifier.column_parse name with ⟨s, h⟩ | h <;> rw [h] <;> rfl
  rw [ofName, desugar, Identifier.desugar_eq_self hcolumn]

/-- What a list of conditions leaves out is the same before and after. -/
theorem desugar_join (op : Connective) (es : List Expr) :
    (join op es).desugar = join op (es.map desugar) := by
  simp [join, desugar, desugarAll_eq_map, dropEmpty, List.filter_map, Function.comp_def,
    isEmptyList_desugar]

/-- To desugar the values of a map and then expand it is to expand it and then desugar. -/
theorem distributes_desugar : Distributes Value.desugar desugar where
  equalityWith := Comparison.equalityWith_desugar
  compare op column v := by rw [desugar, desugar_ofName]
  join := desugar_join

/-- The values of a map can be seen to before it is expanded or after. -/
theorem ofEntries_desugarAll (op : Connective) (entries : List (String × Condition)) :
    ofEntries op (Condition.desugarAll entries) = (ofEntries op entries).map desugar := by
  rw [Condition.desugarAll_eq_map, distributes_desugar.ofEntries]

end Expr

theorem Value.renderAll_desugarAll {d : Dialect} {vs : List Value}
    (h : ∀ v ∈ vs, v.desugar.render d = v.render d) :
    renderAll d (desugarAll vs) = renderAll d vs := by
  rw [renderAll_eq_map, renderAll_eq_map, desugarAll_eq_map, List.map_map]
  exact List.map_congr_left h

theorem Expr.renderAll_desugarAll {d : Dialect} {es : List Expr}
    (h : ∀ e ∈ es, e.desugar.render d = e.render d) :
    renderAll d (desugarAll es) = renderAll d es := by
  rw [renderAll_eq_map, renderAll_eq_map, desugarAll_eq_map, List.map_map]
  exact List.map_congr_left h

/-- What is written does not tell whether maps were expanded before or only on the way. -/
theorem hereditary_render_desugar (d : Dialect) :
    Hereditary (fun v => v.desugar.render d = v.render d)
      (fun e => e.desugar.render d = e.render d) where
  null := rfl
  bool _ := rfl
  int _ := rfl
  uint _ := rfl
  float _ := rfl
  string _ := rfl
  bytes _ := rfl
  list vs h := by rw [Value.desugar, Value.render, Value.render, Value.renderAll_desugarAll h]
  expr e h := h
  ident i h _ := by
    obtain ⟨schema, table, column⟩ := i
    cases column with
    | literal l =>
      obtain ⟨sql, args⟩ := l
      have hargs : Step.substitute sql.toList (Value.renderAll d (Value.desugarAll args)) =
          Step.substitute sql.toList (Value.renderAll d args) := h _ rfl
      change Step.identifier d ⟨schema, table, .literal ⟨sql, Value.desugarAll args⟩⟩
          (Value.renderAll d (Value.desugarAll args)) =
        Step.identifier d ⟨schema, table, .literal ⟨sql, args⟩⟩ (Value.renderAll d args)
      simp only [Step.identifier, hargs]
      rfl
    -- Any other column is left alone.
    | _ => rfl
  literal l h := by
    obtain ⟨sql, args⟩ := l
    rw [Expr.desugar, Literal.desugar, Expr.render, Expr.render, Literal.render, Literal.render,
      Value.renderAll_desugarAll h]
  compare op lhs rhs hl hr := by rw [Expr.desugar, Expr.render, Expr.render, hl, hr]
  compute op lhs rhs hl hr := by rw [Expr.desugar, Expr.render, Expr.render, hl, hr]
  range test lhs start stop hl ha hb := by
    rw [Expr.desugar, Expr.render, Expr.render, hl, ha, hb]
  ordered e dir h := by rw [Expr.desugar, Expr.render, Expr.render, h]
  aliased e name h hname := by
    have hname : name.desugar.render d = name.render d := hname
    rw [Expr.desugar, Expr.render, Expr.render, h, hname]
  call function args h := by
    rw [Expr.desugar, Expr.render, Expr.render, Value.renderAll_desugarAll h]
  junction op items h := by
    rw [Expr.desugar, Expr.render, Expr.render, Expr.renderAll_desugarAll h]
  columns cols h := by
    rw [Expr.desugar, Expr.render, Expr.render, Expr.renderAll_desugarAll h]
  conditions op entries h := by
    -- The part that the induction goes to is the expansion, which has the values of the map in it.
    have hentries := Expr.ofEntries_desugarAll op entries
    rw [Expr.render_conditions, Expr.desugar]
    cases he : Expr.ofEntries op entries with
    | error err =>
      rw [he] at hentries
      rw [hentries]
      change (Expr.conditions op (Condition.desugarAll entries)).render d = _
      rw [Expr.render_conditions, hentries]
      rfl
    | ok e =>
      rw [hentries, he]
      exact h e he

/-- All of the maps fail to expand. -/
def AllFail (maps : List (Connective × List (String × Condition))) : Prop :=
  ∀ m ∈ maps, ∃ err, Expr.ofEntries m.1 m.2 = .error err

namespace AllFail

variable {maps maps' : List (Connective × List (String × Condition))}

@[simp] theorem nil : AllFail [] := List.forall_mem_nil _

@[simp] theorem append : AllFail (maps ++ maps') ↔ AllFail maps ∧ AllFail maps' :=
  List.forall_mem_append

@[simp] theorem flatMap {α : Type} {as : List α}
    {f : α → List (Connective × List (String × Condition))} :
    AllFail (as.flatMap f) ↔ ∀ a ∈ as, AllFail (f a) :=
  List.forall_mem_flatMap

end AllFail

theorem Expr.maps_ofName (name : String) : (ofName name).maps = [] := by
  have hcolumn : (Identifier.parse name).column.maps = [] := by
    rcases Identifier.column_parse name with ⟨s, h⟩ | h <;> rw [h] <;> rfl
  rw [ofName, maps, Identifier.maps_eq, hcolumn]

/-- An expansion has no maps in it but those in the values. -/
theorem allFail_maps_ofEntries {op : Connective} {entries : List (String × Condition)} {e : Expr}
    (h : ∀ entry ∈ entries, ∀ v ∈ entry.2.values, AllFail v.maps)
    (he : Expr.ofEntries op entries = .ok e) : AllFail e.maps := by
  apply Condition.ofEntries_of_forall (Q := fun e => AllFail e.maps) _ _ he
  · intro entry hentry v hv o
    rw [Expr.maps, Expr.maps_ofName]
    exact h entry hentry v hv
  · intro o es hes
    rw [Expr.join, Expr.maps, Expr.mapsAll_eq_flatMap, AllFail.flatMap]
    exact fun e he => hes e (List.mem_filter.mp he).1

/-- The maps that desugaring leaves are those that cannot be expanded. -/
theorem compositional_allFail :
    Compositional (fun v => AllFail v.desugar.maps) (fun e => AllFail e.desugar.maps) where
  null := .nil
  bool _ := .nil
  int _ := .nil
  uint _ := .nil
  float _ := .nil
  string _ := .nil
  bytes _ := .nil
  list vs h := by
    simpa [Value.desugar, Value.maps, Value.mapsAll_eq_flatMap, Value.desugarAll_eq_map] using h
  expr e h := h
  ident i h _ := by
    rw [Expr.desugar, Expr.maps, Identifier.maps_eq, Identifier.desugar_eq]
    cases hcolumn : i.column with
    | literal l => exact h l hcolumn
    | _ => exact .nil
  literal l h := by
    obtain ⟨sql, args⟩ := l
    simpa [Expr.desugar, Literal.desugar, Expr.maps, Literal.maps, Value.mapsAll_eq_flatMap,
      Value.desugarAll_eq_map] using h
  compare op lhs rhs hl hr := AllFail.append.mpr ⟨hl, hr⟩
  compute op lhs rhs hl hr := AllFail.append.mpr ⟨hl, hr⟩
  range test lhs start stop hl ha hb :=
    AllFail.append.mpr ⟨AllFail.append.mpr ⟨hl, ha⟩, hb⟩
  ordered e dir h := h
  aliased e name h hname := AllFail.append.mpr ⟨h, hname⟩
  call function args h := by
    simpa [Expr.desugar, Expr.maps, Value.mapsAll_eq_flatMap, Value.desugarAll_eq_map] using h
  junction op items h := by
    simpa [Expr.desugar, Expr.maps, Expr.mapsAll_eq_flatMap, Expr.desugarAll_eq_map] using h
  columns cols h := by
    simpa [Expr.desugar, Expr.maps, Expr.mapsAll_eq_flatMap, Expr.desugarAll_eq_map] using h
  conditions op entries h := by
    have hvalues : ∀ entry ∈ Condition.desugarAll entries,
        ∀ v ∈ entry.2.values, AllFail v.maps := by
      rw [Condition.desugarAll_eq_map, List.forall_mem_map]
      intro entry hentry
      rw [Condition.values_mapValues, List.forall_mem_map]
      exact h entry hentry
    rw [Expr.desugar]
    cases he : Expr.ofEntries op (Condition.desugarAll entries) with
    | error err =>
      refine List.forall_mem_cons.mpr ⟨⟨err, he⟩, ?_⟩
      change AllFail (Condition.mapsAll _)
      simpa [Condition.mapsAll_eq_flatMap] using hvalues
    | ok e => exact allFail_maps_ofEntries hvalues he

/-- Expanding the maps of an expression does not change what it is written as, be it a text or an
error, and only those maps are left that have no expansion. -/
theorem Expr.sql_desugar (e : Expr) :
    (∀ d : Dialect, e.desugar.sql d = e.sql d) ∧ AllFail e.desugar.maps := by
  refine ⟨fun d => ?_, compositional_allFail.all_exprs e⟩
  rw [sql, (hereditary_render_desugar d).all_exprs e, sql]

end SeriesQuery
