import SeriesQuery.Proofs.Result
import SeriesQuery.Proofs.Splitting

/-! Identifiers by their parts. A name with one period or two is written as the parts between them
that are not empty, and any other name as it is. -/

namespace SeriesQuery

open Step

/-- The parts that are not empty, with periods between them. Without any there is no identifier. -/
def Dialect.dotted (d : Dialect) (parts : List String) : Except Error String :=
  let present := parts.filter (· ≠ "")
  if present = [] then .error .emptyIdentifier
  else .ok ((String.singleton d.period).intercalate present)

variable {d : Dialect} {step : Step} {name r : String} {parts : List String}

/-- A column stands behind the other parts as it is written alone. -/
theorem Step.result_qualified (d : Dialect) (schema table : String) (h : step.ContextFree) :
    result (seq [write schema,
      if schema.isEmpty || table.isEmpty then skip else writeChar d.period,
      write table,
      seq [if !(schema.isEmpty && table.isEmpty) then writeChar d.period else skip, step]]) =
      step.result.map fun t =>
        (String.singleton d.period).intercalate ([schema, table].filter (· ≠ "") ++ [t]) := by
  have hwrite (s : String) : result (seq [write s, step]) = step.result.map (s ++ ·) := by
    rw [result_seq_cons _ (by simpa using h), result_write, result_seq_singleton]
    rfl
  have hseq {steps : List Step} (s : String) (heq : ∀ b, seq steps b = seq [write s, step] b) :
      result (seq steps) = step.result.map (s ++ ·) := by
    rw [funext heq, hwrite]
  by_cases hs : schema = "" <;> by_cases ht : table = ""
  · refine (hseq "" fun b => ?_).trans ?_
    · simp [hs, ht, skip, write_write]
    · simp [hs, ht]
  · refine (hseq (table ++ String.singleton d.period) fun b => ?_).trans ?_
    · simp [hs, ht, skip, write_write, writeChar_eq_write]
    · simp [hs, ht]
  · refine (hseq (schema ++ String.singleton d.period) fun b => ?_).trans ?_
    · simp [hs, ht, skip, write_write, writeChar_eq_write]
    · simp [hs, ht]
  · let s := schema ++ String.singleton d.period ++ table ++ String.singleton d.period
    refine (hseq s fun b => ?_).trans ?_
    · simp [s, hs, ht, write_write, writeChar_eq_write]
    · simp [s, hs, ht, String.append_assoc, -String.append_singleton]

theorem Dialect.dotted_concat {s : String} (hs : s ≠ "") (d : Dialect) (parts : List String) :
    d.dotted (parts ++ [s]) =
      .ok ((String.singleton d.period).intercalate (parts.filter (· ≠ "") ++ [s])) := by
  simp [dotted, hs]

namespace Expr

/-- In the place of a column a literal is written as it is alone. -/
theorem sql_ident_literal (d : Dialect) (schema table : String) (l : Literal) :
    (ident ⟨schema, table, .literal l⟩).sql d = ((literal l).sql d).map fun t =>
      (String.singleton d.period).intercalate ([schema, table].filter (· ≠ "") ++ [t]) := by
  have hempty : Identifier.isEmpty ⟨schema, table, .literal l⟩ = false := by
    simp [Identifier.isEmpty, Column.isEmpty]
  obtain ⟨sql, args⟩ := l
  have hfree := (literal ⟨sql, args⟩).contextFree_render d
  refine Eq.trans ?_ (result_qualified d schema table hfree)
  rw [Expr.sql, render, Identifier.render, Step.identifier, hempty]
  rfl

/-- Any other expression in the place of a column is refused by its kind, before it is looked
into. -/
theorem sql_ident_other (d : Dialect) (schema table : String) (e : Expr) :
    (ident ⟨schema, table, .other e⟩).sql d = .error (.unsupportedColumn e.kindName) := by
  have hempty : Identifier.isEmpty ⟨schema, table, .other e⟩ = false := by
    simp [Identifier.isEmpty, Column.isEmpty]
  have hmeets := (hereditary_meets d).all_exprs (ident ⟨schema, table, .other e⟩)
  rw [Expr.sql, Step.result, Buffer.result_eq_error_iff, hmeets.error_eq, faults,
    Identifier.faults, Identifier.emptyFault, hempty]
  rfl

/-- A name in the place of the column counts as a part when it is not empty. -/
theorem sql_ident_name (d : Dialect) (schema table s : String) :
    (ident ⟨schema, table, .name s⟩).sql d = d.dotted [schema, table, s] := by
  by_cases hs : s = ""
  · rw [Expr.sql, render, Identifier.render, Step.identifier]
    by_cases hschema : schema = "" <;> by_cases htable : table = "" <;>
      simp [hs, hschema, htable, Identifier.isEmpty, Column.isEmpty, Dialect.dotted, skip,
        Step.result, Buffer.result, write, writeChar, fail]
  · have hempty : Identifier.isEmpty ⟨schema, table, .name s⟩ = false := by
      simp [Identifier.isEmpty, Column.isEmpty, hs]
    have hqualified := result_qualified d schema table (contextFree_write s)
    rw [result_write] at hqualified
    have hdotted := d.dotted_concat hs [schema, table]
    rw [List.cons_append, List.singleton_append] at hdotted
    rw [hdotted, Expr.sql, render, Identifier.render, Step.identifier, hempty]
    refine Eq.trans ?_ hqualified
    simp [hs]

theorem sql_ident_ofName (d : Dialect) (schema table s : String) :
    (ident ⟨schema, table, .ofName s⟩).sql d = d.dotted [schema, table, s] := by
  rw [Column.ofName]
  split
  · rename_i hs
    subst hs
    have hstar : "*" ≠ "" := by decide
    exact (sql_ident_literal d schema table .star).trans
      (d.dotted_concat hstar [schema, table]).symm
  · exact sql_ident_name d schema table s

/-- A name of two parts or three is written as these, and any other one as a whole. -/
theorem sql_ofName (d : Dialect) (name : String) :
    (ofName name).sql d = d.dotted
      (if (Text.pieces '.' name).length = 2 ∨ (Text.pieces '.' name).length = 3 then
        Text.pieces '.' name
      else [name]) := by
  have hempty (parts : List String) : d.dotted ("" :: parts) = d.dotted parts := by
    simp [Dialect.dotted]
  rw [ofName, Identifier.parse, ← Text.pieces]
  split
  · rename_i table column h
    simp [sql_ident_ofName, h, hempty]
  · rename_i schema table column h
    simp [sql_ident_ofName, h]
  · rename_i htwo hthree
    have hnot : ¬ ((Text.pieces '.' name).length = 2 ∨ (Text.pieces '.' name).length = 3) := by
      rintro (h | h)
      · obtain ⟨table, column, h⟩ := List.length_eq_two.mp h
        exact htwo table column h
      · obtain ⟨schema, table, column, h⟩ := List.length_eq_three.mp h
        exact hthree schema table column h
    rw [if_neg hnot, Identifier.ofColumn, sql_ident_ofName, hempty, hempty]

end Expr

/-- Parts of which none is empty are written with periods between them. -/
theorem Dialect.dotted_of_not_mem (hne : parts ≠ []) (h : "" ∉ parts) :
    d.dotted parts = .ok ((String.singleton d.period).intercalate parts) := by
  have hpresent : parts.filter (· ≠ "") = parts := by
    rw [List.filter_eq_self]
    intro part hpart
    have hne : part ≠ "" := by
      rintro rfl
      exact h hpart
    simpa using hne
  rw [dotted, hpresent, if_neg hne]

/-- Parts without periods make up a name that is written as it is, when none of them is empty. -/
theorem Expr.sql_ofName_of_not_mem (hd : d.period = '.') (h : "" ∉ Text.pieces '.' name) :
    (ofName name).sql d = .ok name := by
  have hname : name ≠ "" := by
    rintro rfl
    exact h List.mem_cons_self
  rw [sql_ofName]
  split
  · rw [Dialect.dotted_of_not_mem Text.pieces_ne_nil h, hd, Text.intercalate_pieces]
  · simp [Dialect.dotted, hname]

/-- What a name is written as is written as it is. -/
theorem Expr.sql_ofName_of_sql (hd : d.period = '.') (h : (ofName name).sql d = .ok r) :
    (ofName r).sql d = .ok r := by
  have hname := h
  rw [sql_ofName] at h
  split at h
  · -- The parts that are left are the pieces of what is written, and none of them is empty.
    simp only [Dialect.dotted] at h
    split at h
    · cases h
    · rename_i hpresent
      obtain rfl := Except.ok.inj h
      refine sql_ofName_of_not_mem hd ?_
      rw [hd, Text.pieces_intercalate hpresent]
      · simp
      · intro part hpart
        exact Text.not_mem_of_mem_pieces part (List.mem_filter.mp hpart).1
  · obtain rfl : name = r := by
      by_cases hempty : name = ""
      · simp [Dialect.dotted, hempty] at h
      · simpa [Dialect.dotted, hempty] using h
    exact hname

/-- A name of one part or of more than three is written as it is, and one of two parts or three as
those that are not empty. Without a part that is not empty there is no identifier. So a name is
changed only where a part is empty, and what it is written as is not changed again. -/
theorem Expr.sql_ofName_by_parts (name : String) :
    let d := Dialect.timeSeries
    let parts := Text.pieces '.' name
    (parts.length = 1 ∨ 4 ≤ parts.length →
      (ofName name).sql d = if name = "" then .error .emptyIdentifier else .ok name) ∧
    (parts.length = 2 ∨ parts.length = 3 →
      (ofName name).sql d =
        if ∀ part ∈ parts, part = "" then .error .emptyIdentifier
        else .ok (".".intercalate (parts.filter (· ≠ "")))) ∧
    (∀ r, (ofName name).sql d = .ok r → (ofName r).sql d = .ok r) ∧
    ("" ∉ parts → (ofName name).sql d = .ok name) := by
  intro d parts
  refine ⟨fun h => ?_, fun h => ?_, fun r => sql_ofName_of_sql rfl, sql_ofName_of_not_mem rfl⟩
  · have hnot : ¬ (parts.length = 2 ∨ parts.length = 3) := by omega
    rw [sql_ofName, if_neg hnot]
    by_cases hname : name = "" <;> simp [Dialect.dotted, hname]
  · have hnone : parts.filter (· ≠ "") = [] ↔ ∀ part ∈ parts, part = "" := by
      simp [List.filter_eq_nil_iff]
    rw [sql_ofName, if_pos h]
    exact if_congr hnone rfl rfl

/-- Names with periods at the ends and in a row. -/
theorem Expr.sql_ofName_by_parts_periods :
    let d := Dialect.timeSeries
    (ofName "..cpu").sql d = .ok "cpu" ∧ (ofName "..").sql d = .error .emptyIdentifier ∧
      (ofName "db..*").sql d = .ok "db.*" ∧ (ofName "db.*").sql d = .ok "db.*" ∧
      (ofName "...").sql d = .ok "..." ∧ (ofName "db.cpu.host").sql d = .ok "db.cpu.host" := by
  intro d
  have hparts := sql_ofName_by_parts
  refine ⟨?_, ?_, ?_, ?_, ?_, ?_⟩
  · exact (hparts "..cpu").2.1 (by decide +kernel)
  · exact (hparts "..").2.1 (by decide +kernel)
  · exact (hparts "db..*").2.1 (by decide +kernel)
  · exact (hparts "db..*").2.2.1 "db.*" ((hparts "db..*").2.1 (by decide +kernel))
  · exact (hparts "...").1 (by decide +kernel)
  · exact (hparts "db.cpu.host").2.2.2 (by decide +kernel)

end SeriesQuery
