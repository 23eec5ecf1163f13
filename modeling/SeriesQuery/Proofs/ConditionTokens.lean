import SeriesQuery.Proofs.NormalForm
import SeriesQuery.Proofs.Splitting
import SeriesQuery.Proofs.Token

/-! The tokens that a condition in normal form is written with in the time series dialect. -/

namespace SeriesQuery

/-- The name of a column that is compared. -/
def Expr.columnName : Expr → String
  | .ident ⟨_, _, .name s⟩ => s
  | _ => ""

/-- The text of a comparison in the time series dialect. -/
def Comparison.text (op : Comparison) : String := (Dialect.timeSeries.comparison op).getD ""

def Connective.text : Connective → String
  | .and => "AND"
  | .or => "OR"

mutual

/-- The tokens of an operand. -/
def Value.tokens : Value → List Token
  | .null => [.bare "NULL"]
  | .int n => [.bare (toString n.toInt)]
  | .uint n => [.bare (toString n.toNat)]
  | .string s => [.quoted s]
  | .list [] => [.mark '(', .mark ')']
  | .list (v :: vs) => .mark '(' :: v.tokens ++ Value.tokensAfter vs ++ [.mark ')']
  | _ => []

/-- The tokens of the members of a list after the first one. -/
def Value.tokensAfter : List Value → List Token
  | [] => []
  | v :: vs => .mark ',' :: .mark ' ' :: v.tokens ++ Value.tokensAfter vs

end

/-- The tokens of a comparison without the parentheses. -/
def comparing (column : String) (op : Comparison) (v : Value) : List Token :=
  .bare column :: .mark ' ' :: .bare op.text :: .mark ' ' :: v.tokens

/-- A connective between two conditions. -/
def Connective.tokens (op : Connective) : List Token := [.mark ' ', .bare op.text, .mark ' ']

mutual

/-- The tokens of a condition in normal form. -/
def Expr.tokens : Expr → List Token
  | .compare op lhs v => .mark '(' :: comparing lhs.columnName op v ++ [.mark ')']
  | .range test lhs start stop =>
    .mark '(' :: comparing lhs.columnName test.comparisons.1 start ++ Connective.and.tokens ++
      comparing lhs.columnName test.comparisons.2 stop ++ [.mark ')']
  | .junction op (e :: es) => .mark '(' :: e.tokens ++ Expr.tokensAfter op es ++ [.mark ')']
  | _ => []

/-- The tokens of the conditions of a list after the first one. -/
def Expr.tokensAfter (op : Connective) : List Expr → List Token
  | [] => []
  | e :: es => op.tokens ++ e.tokens ++ Expr.tokensAfter op es

end

theorem Value.tokensAfter_eq_flatMap (vs : List Value) :
    tokensAfter vs = vs.flatMap fun v => [.mark ',', .mark ' '] ++ v.tokens :=
  eq_flatMap_of_cons rfl (fun _ _ => rfl) vs

theorem Expr.tokensAfter_eq_flatMap (op : Connective) (es : List Expr) :
    tokensAfter op es = es.flatMap fun e => op.tokens ++ e.tokens :=
  eq_flatMap_of_cons rfl (fun _ _ => rfl) es

theorem flatten_intersperse_cons {α : Type} (separator t : List α) (ts : List (List α)) :
    ((t :: ts).intersperse separator).flatten = t ++ ts.flatMap (separator ++ ·) := by
  induction ts generalizing t with
  | nil => simp
  | cons u ts ih =>
    rw [List.intersperse_cons_cons, List.flatten_cons, List.flatten_cons, ih, List.flatMap_cons,
      List.append_assoc]

/-- A class of characters without the marks and the quote. -/
theorem isBare_of_class {p : Char → Bool} (hp : ['(', ')', ',', ' ', '\''].all (!p ·)) {c : Char}
    (h : p c) : isBare c := by
  by_contra hbare
  have hc : c ∈ ['(', ')', ',', ' ', '\''] := by
    simpa [isBare, isMark, not_or, imp_iff_not_or, or_assoc] using hbare
  have hnot := List.all_eq_true.mp hp c hc
  simp [h] at hnot

theorem isBare_of_isWordChar {c : Char} : isWordChar c → isBare c := isBare_of_class (by decide)

theorem isBare_of_isNumeric {c : Char} : isNumeric c → isBare c := isBare_of_class (by decide)

/-- A word names a column and nothing else. -/
theorem parse_of_isWord {w : String} (h : IsWord w) : Identifier.parse w = ⟨"", "", .name w⟩ := by
  have hnot {c : Char} (hc : isWordChar c = false) : c ∉ w.toList := by
    intro hmem
    rw [h.2 c hmem] at hc
    cases hc
  have hsplit := Text.splitAt_of_not_mem (hnot (c := '.') (by decide))
  have hstar : w ≠ "*" := by
    rintro rfl
    exact hnot (c := '*') (by decide) (by simp)
  rw [Identifier.parse, hsplit]
  simp [Identifier.ofColumn, Column.ofName, hstar]

/-- A word has no periods and is no star, so it is parsed as the name of a column alone. -/
theorem columnName_ofName {w : String} (h : IsWord w) : (Expr.ofName w).columnName = w := by
  rw [Expr.ofName, parse_of_isWord h]
  rfl

namespace Step

theorem writes_column {w : String} (h : IsWord w) :
    ((Expr.ofName w).render .timeSeries).Writes [.bare w] := by
  have hempty : w.isEmpty = false := by simpa using h.1
  rw [Expr.render_ofName, named, parse_of_isWord h, Writes, tokenText]
  funext b
  simp [identifier, Identifier.isEmpty, Column.isEmpty, hempty, write_write, skip, Token.chars]

theorem writes_separated {separator : Step} {t : List Token} {items : List Step}
    {tss : List (List Token)} (hs : separator.Writes t) (h : List.Forall₂ Writes items tss) :
    (separated separator items).Writes (tss.intersperse t).flatten :=
  writes_seq (forall₂_intersperse hs h) rfl

/-- Steps between parentheses. -/
theorem writes_parenthesized {steps : List Step} {tss : List (List Token)} {ts : List Token}
    (h : List.Forall₂ Writes steps tss) (hts : tss.flatten = ts) :
    (seq (writeChar Dialect.timeSeries.leftParen :: steps ++
      [writeChar Dialect.timeSeries.rightParen])).Writes (.mark '(' :: ts ++ [.mark ')']) :=
  writes_seq
    (List.rel_append (.cons (writes_writeChar '(') h) (.cons (writes_writeChar ')') .nil))
    (by simp [hts])

theorem writes_tuple {items : List Step} {tss : List (List Token)}
    (h : List.Forall₂ Writes items tss) :
    (tuple .timeSeries items).Writes
      (.mark '(' :: (tss.intersperse [.mark ',', .mark ' ']).flatten ++ [.mark ')']) := by
  have hcomma : (seq [writeChar Dialect.timeSeries.comma,
      writeChar Dialect.timeSeries.space]).Writes [.mark ',', .mark ' '] :=
    writes_seq (.cons (writes_writeChar ',') (.cons (writes_writeChar ' ') .nil)) rfl
  have hitems : (commaSeparated .timeSeries items).Writes _ := writes_separated hcomma h
  exact writes_parenthesized (.cons hitems .nil) (List.append_nil _)

/-- Operands are written as their tokens, with a comma and a space between the elements of lists. -/
theorem writes_value {v : Value} (h : v.IsOperand) : (v.render .timeSeries).Writes v.tokens := by
  induction h with
  | null => exact writes_write "NULL"
  | negative _ => exact writes_write _
  | natural n => exact writes_write _
  | string s => exact writes_quoted s
  | @list vs _ ih =>
    have htuple := writes_tuple (forall₂_map_of_forall (R := Writes) ih)
    rw [Value.render, Value.renderAll_eq_map]
    cases vs with
    | nil => exact htuple
    | cons v vs =>
      rw [Value.tokens, Value.tokensAfter_eq_flatMap]
      rw [List.map_cons (f := Value.tokens), flatten_intersperse_cons, List.flatMap_map] at htuple
      simpa using htuple

/-- A column, a comparison that has a text, and an operand. -/
theorem writes_comparing {column text : String} {op : Comparison} {v : Value}
    (hc : IsWord column) (ho : Dialect.timeSeries.comparison op = some text) (hv : v.IsOperand) :
    List.Forall₂ Writes
      [(Expr.ofName column).render .timeSeries, writeChar ' ', write text, writeChar ' ',
        v.render .timeSeries]
      [[.bare column], [.mark ' '], [.bare op.text], [.mark ' '], v.tokens] := by
  have htext : op.text = text := by rw [Comparison.text, ho, Option.getD_some]
  rw [htext]
  exact .cons (writes_column hc) (.cons (writes_writeChar ' ')
    (.cons (writes_write text) (.cons (writes_writeChar ' ') (.cons (writes_value hv) .nil))))

theorem writes_connective (op : Connective) :
    (write (Dialect.timeSeries.connective op)).Writes op.tokens := by
  cases op <;> rfl

/-- Normal conditions are written as their tokens, down to every space and parenthesis. -/
theorem writes_condition {e : Expr} (h : e.IsNormal .timeSeries) :
    (e.render .timeSeries).Writes e.tokens := by
  induction h with
  | compare hc ho hv =>
    obtain ⟨text, ho⟩ := Option.isSome_iff_exists.mp ho
    rw [Expr.render, compare, ho, Expr.tokens, columnName_ofName hc]
    exact writes_parenthesized (writes_comparing hc ho hv) (by simp [comparing])
  | range hc hlower hupper ha hb =>
    obtain ⟨lower, hlower⟩ := Option.isSome_iff_exists.mp hlower
    obtain ⟨upper, hupper⟩ := Option.isSome_iff_exists.mp hupper
    have hparts := List.rel_append (writes_comparing hc hlower ha)
      (.cons (writes_connective .and) (writes_comparing hc hupper hb))
    rw [Expr.render, range, hlower, hupper, Expr.tokens, columnName_ofName hc]
    exact writes_parenthesized hparts (by simp [comparing])
  | @junction op e e' es h ih =>
    have hitems := writes_separated (writes_connective op)
      (forall₂_map_of_forall (R := Writes) ih)
    have hparts := writes_parenthesized (.cons hitems .nil) (List.append_nil _)
    rw [List.map_cons (f := Expr.tokens), flatten_intersperse_cons, List.flatMap_map] at hparts
    rw [Expr.render, Expr.renderAll_eq_map, Expr.tokens, Expr.tokensAfter_eq_flatMap]
    exact hparts

end Step

end SeriesQuery
