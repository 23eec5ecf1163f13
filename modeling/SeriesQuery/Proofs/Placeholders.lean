import SeriesQuery.Proofs.Identifiers

/-! Literals by their pieces. The arguments stand between the pieces as they are written alone, and
those for which there is no place play no part. -/

namespace SeriesQuery

open Step

/-- The first piece, and then for each further one the text that goes before it, or a `?` where
there is none left. -/
def Literal.filled (pieces texts : List String) : String :=
  pieces.headD "" ++
    String.join (pieces.tail.zipIdx.map fun (piece, i) => texts.getD i "?" ++ piece)

mutual

/-- The text of a literal by its pieces, where the literals among its arguments are taken by their
pieces in turn. -/
def Literal.piecewise (d : Dialect) : Literal → Except Error String
  | ⟨sql, args⟩ =>
    (((Value.piecewiseEach d args).take (sql.toList.count '?')).mapM id).map
      (Literal.filled (Text.pieces '?' sql))

def Value.piecewise (d : Dialect) : Value → Except Error String
  | .expr (.literal l) => l.piecewise d
  | .expr (.ident ⟨schema, table, .literal l⟩) =>
    (l.piecewise d).map fun t =>
      (String.singleton d.period).intercalate ([schema, table].filter (· ≠ "") ++ [t])
  | v => v.sql d

def Value.piecewiseEach (d : Dialect) : List Value → List (Except Error String)
  | [] => []
  | v :: vs => v.piecewise d :: Value.piecewiseEach d vs

end

variable {d : Dialect} {pieces texts : List String} {args : List Step}

namespace Literal

theorem filled_question (h : pieces ≠ []) :
    filled ("" :: pieces) [] = "?" ++ filled pieces [] := by
  cases pieces with
  | nil => exact absurd rfl h
  | cons piece pieces =>
    simp [filled, List.zipIdx_cons, List.zipIdx_succ, Function.comp_def, String.append_assoc]

theorem filled_cons (h : pieces ≠ []) (text : String) :
    filled ("" :: pieces) (text :: texts) = text ++ filled pieces texts := by
  cases pieces with
  | nil => exact absurd rfl h
  | cons piece pieces =>
    simp [filled, List.zipIdx_cons, List.zipIdx_succ, Function.comp_def, String.append_assoc]

theorem filled_modifyHead (h : pieces ≠ []) (s : String) :
    filled (pieces.modifyHead (s ++ ·)) texts = s ++ filled pieces texts := by
  cases pieces with
  | nil => exact absurd rfl h
  | cons piece pieces => simp [filled, String.append_assoc]

end Literal

namespace Step

theorem substitute_cons_of_ne {c : Char} (hc : c ≠ '?') (cs : List Char) (args : List Step) :
    substitute (c :: cs) args = seq [writeChar c, substitute cs args] := by
  cases args with
  | nil => rfl
  | cons arg args => exact if_neg hc

theorem substitute_question (cs : List Char) (arg : Step) (args : List Step) :
    substitute ('?' :: cs) (arg :: args) = seq [arg, substitute cs args] :=
  if_pos rfl

/-- An argument for which there is no place is not called for. -/
theorem substitute_take (cs : List Char) (args : List Step) :
    substitute cs (args.take (cs.count '?')) = substitute cs args := by
  induction cs generalizing args with
  | nil => simp [substitute]
  | cons c cs ih =>
    by_cases hc : c = '?'
    · subst hc
      cases args with
      | nil => simp
      | cons arg args =>
        rw [List.count_cons_self, List.take_succ_cons, substitute_question, substitute_question, ih]
    · rw [List.count_cons_of_ne hc, substitute_cons_of_ne hc, substitute_cons_of_ne hc, ih]

theorem contextFree_substitute (cs : List Char) (h : ∀ arg ∈ args, arg.ContextFree) :
    (substitute cs args).ContextFree := by
  induction cs generalizing args with
  | nil => simp [substitute]
  | cons c cs ih =>
    by_cases hc : c = '?'
    · subst hc
      cases args with
      | nil => exact contextFree_seq (by simp [ih h])
      | cons arg args =>
        obtain ⟨harg, hargs⟩ := List.forall_mem_cons.mp h
        rw [substitute_question]
        exact contextFree_seq (by simp [harg, ih hargs])
    · rw [substitute_cons_of_ne hc]
      exact contextFree_seq (by simp [ih h])

/-- The text of the arguments that have a place, between the pieces, or the error of the first of
them that fails. -/
theorem result_substitute (cs : List Char) (h : ∀ arg ∈ args, arg.ContextFree) :
    result (substitute cs args) =
      ((args.take (cs.count '?')).mapM result).map
        (Literal.filled ((Text.splitAt '?' cs).map String.ofList)) := by
  induction cs generalizing args with
  | nil => rfl
  | cons c cs ih =>
    have hpieces : (Text.splitAt '?' cs).map String.ofList ≠ [] := by
      simp [Text.splitAt_ne_nil]
    by_cases hc : c = '?'
    · subst hc
      cases args with
      | nil =>
        have hrest := contextFree_substitute cs h
        have ih := ih h
        rw [List.take_nil] at ih
        rw [substitute, result_seq_cons _ (by simpa using hrest), result_writeChar,
          result_seq_singleton, ih]
        simp [Text.splitAt_cons, Literal.filled_question hpieces, Except.bind, Except.map, pure,
          Except.pure]
      | cons arg args =>
        obtain ⟨-, hargs⟩ := List.forall_mem_cons.mp h
        have hrest := contextFree_substitute cs hargs
        rw [substitute_question, result_seq_cons _ (by simpa using hrest), result_seq_singleton,
          ih hargs, List.count_cons_self, List.take_succ_cons, exceptMapM_cons]
        cases arg.result <;> cases (args.take (cs.count '?')).mapM result <;>
          simp [Text.splitAt_cons, Literal.filled_cons hpieces, Except.bind, Except.map]
    · have hrest := contextFree_substitute cs h
      have hhead : (Text.splitAt '?' (c :: cs)).map String.ofList =
          ((Text.splitAt '?' cs).map String.ofList).modifyHead (String.singleton c ++ ·) := by
        rw [Text.splitAt_cons, if_neg hc]
        cases Text.splitAt '?' cs <;> simp [String.ofList_cons]
      rw [substitute_cons_of_ne hc, result_seq_cons _ (by simpa using hrest), result_writeChar,
        result_seq_singleton, ih h, List.count_cons_of_ne hc, hhead]
      cases (args.take (cs.count '?')).mapM result <;>
        simp [Literal.filled_modifyHead hpieces, Except.bind, Except.map]

end Step

namespace Expr

/-- A literal is rendered with the arguments that have a place in it, whatever others it has. -/
theorem render_literal_take (d : Dialect) (l : Literal) :
    (literal ⟨l.sql, l.args.take (l.sql.toList.count '?')⟩).render d = (literal l).render d := by
  obtain ⟨sql, args⟩ := l
  rw [render, render, Literal.render, Literal.render, Value.renderAll_eq_map,
    Value.renderAll_eq_map, List.map_take, substitute_take]

/-- The arguments are written alone and put between the pieces, and those without a place are left
out. -/
theorem sql_literal (d : Dialect) (l : Literal) :
    (literal l).sql d =
      ((l.args.take (l.sql.toList.count '?')).mapM (Value.sql d)).map
        (Literal.filled (Text.pieces '?' l.sql)) := by
  obtain ⟨sql, args⟩ := l
  have hargs : ∀ step ∈ args.map (Value.render d), step.ContextFree :=
    List.forall_mem_map.mpr fun v _ => v.contextFree_render d
  rw [Expr.sql, render, Literal.render, Value.renderAll_eq_map, result_substitute _ hargs,
    ← List.map_take, List.mapM_map]
  rfl

end Expr

theorem Value.piecewiseEach_eq_map (d : Dialect) (vs : List Value) :
    Value.piecewiseEach d vs = vs.map (Value.piecewise d) :=
  eq_map_of_cons rfl (fun _ _ => rfl) vs

/-- A literal is written by its pieces as soon as each of its arguments is. -/
theorem Literal.piecewise_eq {l : Literal} (h : ∀ v ∈ l.args, v.piecewise d = v.sql d) :
    l.piecewise d = (Expr.literal l).sql d := by
  obtain ⟨sql, args⟩ := l
  have hargs : args.map (Value.piecewise d) = args.map (Value.sql d) := List.map_congr_left h
  rw [piecewise, Value.piecewiseEach_eq_map, hargs, ← List.map_take, List.mapM_map,
    Expr.sql_literal]
  rfl

/-- Taking literals by their pieces at any depth gives what is written. -/
theorem compositional_piecewise (d : Dialect) :
    Compositional (fun v => v.piecewise d = v.sql d)
      (fun e => (Value.expr e).piecewise d = e.sql d) where
  null := rfl
  bool _ := rfl
  int _ := rfl
  uint _ := rfl
  float _ := rfl
  string _ := rfl
  bytes _ := rfl
  list _ _ := rfl
  expr _ h := h
  ident i h _ := by
    obtain ⟨schema, table, column⟩ := i
    cases column with
    | literal l =>
      have hl : l.piecewise d = (Expr.literal l).sql d := h _ rfl
      rw [Value.piecewise, hl, Expr.sql_ident_literal]
    | _ => rfl
  literal _ h := Literal.piecewise_eq h
  compare _ _ _ _ _ := rfl
  compute _ _ _ _ _ := rfl
  range _ _ _ _ _ _ _ := rfl
  ordered _ _ _ := rfl
  aliased _ _ _ _ := rfl
  call _ _ _ := rfl
  junction _ _ _ := rfl
  columns _ _ := rfl
  conditions _ _ _ := rfl

/-- A literal is written as its pieces with the texts of its arguments between them, each as it is
written alone, or as the error of the first argument that fails. An argument that has no place in it
is not written, and a `?` for which there is no argument stays. The same holds of a literal in the
place of a column, and of literals among the arguments at any depth. -/
theorem Literal.sql_by_pieces (d : Dialect) (l : Literal) :
    let placed := l.args.take (l.sql.toList.count '?')
    (∀ t, (Expr.literal l).sql d = .ok t ↔ ∃ texts,
      List.Forall₂ (fun v t => v.sql d = .ok t) placed texts ∧
        filled (Text.pieces '?' l.sql) texts = t) ∧
    (∀ e, (Expr.literal l).sql d = .error e ↔ ∃ pre v post, placed = pre ++ v :: post ∧
      (∀ x ∈ pre, ∃ t, x.sql d = .ok t) ∧ v.sql d = .error e) ∧
    (Expr.literal ⟨l.sql, placed⟩).render d = (Expr.literal l).render d ∧
    (∀ schema table, (Expr.ident ⟨schema, table, .literal l⟩).sql d =
      ((Expr.literal l).sql d).map fun t =>
        (String.singleton d.period).intercalate ([schema, table].filter (· ≠ "") ++ [t])) ∧
    l.piecewise d = (Expr.literal l).sql d := by
  intro placed
  refine ⟨fun t => ?_, fun e => ?_, Expr.render_literal_take d l, fun schema table => ?_, ?_⟩
  · rw [Expr.sql_literal]
    exact exceptMap_mapM_eq_ok_iff
  · rw [Expr.sql_literal]
    exact exceptMap_mapM_eq_error_iff
  · exact Expr.sql_ident_literal d schema table l
  · exact (compositional_piecewise d).all_exprs (.literal l)

-- The second argument fails where there is a place for it.
example :
    let args : List Value := [.expr (.literal ⟨"? or ?", [.string "?"]⟩), .expr (.ofName "")]
    (Expr.literal ⟨"a = ?", args⟩).sql .timeSeries = .ok "a = '?' or ?" ∧
      (Expr.literal ⟨"? ? ?", args⟩).sql .timeSeries = .error .emptyIdentifier := by
  decide +kernel

end SeriesQuery
