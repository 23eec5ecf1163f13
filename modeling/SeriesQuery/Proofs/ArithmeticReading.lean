import SeriesQuery.Proofs.ArithmeticTree
import SeriesQuery.Proofs.ConditionTokens

/-! The texts of arithmetic in the time series dialect, and what they are read as. -/

namespace SeriesQuery

/-- A word that is not a numeral. -/
def IsName (w : String) : Prop := IsWord w ∧ ∃ c ∈ w.toList, ¬ c.isDigit

theorem isName_of_all {w : String} (hne : w ≠ "") (h : w.toList.all isWordChar)
    (hd : w.toList.any (!·.isDigit)) : IsName w :=
  ⟨⟨hne, List.all_eq_true.mp h⟩, by simpa using hd⟩

def Arithmetic.symbol : Arithmetic → Char
  | add => '+'
  | sub => '-'
  | mul => '*'

inductive Operand
  | name (w : String)
  | number (n : Nat)

namespace Operand

def chars : Operand → List Char
  | name w => w.toList
  | number n => Nat.toDigits 10 n

def value (σ : String → Int) : Operand → Int
  | name w => σ w
  | number n => n

end Operand

namespace ArithmeticTree

/-- The operands and operators of the tree from left to right. -/
def chars : ArithmeticTree Operand → List Char
  | leaf o => o.chars
  | node op lhs rhs => lhs.chars ++ op.symbol :: rhs.chars

/-- The numbers that the operands stand for. -/
def values (σ : String → Int) (t : ArithmeticTree Operand) : ArithmeticTree Int :=
  t.map (Operand.value σ)

end ArithmeticTree

/-- Names and natural numbers, and what operators make of them. -/
inductive Value.IsArithmetic : Value → Prop
  | name {w : String} (h : IsName w) : IsArithmetic (.expr (.ofName w))
  | int {n : Int64} (h : 0 ≤ n.toInt) : IsArithmetic (.int n)
  | uint (n : UInt64) : IsArithmetic (.uint n)
  | compute {op : Arithmetic} {lhs : Expr} {rhs : Value} (hl : IsArithmetic (.expr lhs))
      (hr : IsArithmetic rhs) : IsArithmetic (.expr (.compute op lhs rhs))

def Expr.IsArithmetic (e : Expr) : Prop := (Value.expr e).IsArithmetic

mutual

def Value.tree : Value → ArithmeticTree Operand
  | .int n => .leaf (.number n.toInt.toNat)
  | .uint n => .leaf (.number n.toNat)
  | .expr e => e.tree
  | _ => .leaf (.number 0)

def Expr.tree : Expr → ArithmeticTree Operand
  | .compute op lhs rhs => .node op lhs.tree rhs.tree
  | e => .leaf (.name e.columnName)

end

/-- The value of the expression as it is nested. -/
def Expr.eval (σ : String → Int) (e : Expr) : Int := (e.tree.values σ).eval

variable {σ : String → Int} {cs : List Char} {a b : Int} {s : PartialSum} {v : Value} {w : String}

/-- How a text is read that is a numeral or a name. -/
inductive ReadsFactor (σ : String → Int) : List Char → Int → Prop
  | numeral {cs : List Char} (hne : cs ≠ []) (h : ∀ c ∈ cs, c.isDigit) :
      ReadsFactor σ cs (Nat.ofDigitChars 10 cs 0)
  | name {w : String} (h : IsName w) : ReadsFactor σ w.toList (σ w)

/-- Factors, from the left. -/
inductive ReadsProduct (σ : String → Int) : List Char → Int → Prop
  | factor {cs : List Char} {a : Int} (h : ReadsFactor σ cs a) : ReadsProduct σ cs a
  | mul {cs ds : List Char} {a b : Int} (h : ReadsProduct σ cs a) (hb : ReadsFactor σ ds b) :
      ReadsProduct σ (cs ++ '*' :: ds) (a * b)

/-- Products that are added and subtracted, from the left. -/
inductive Reads (σ : String → Int) : List Char → Int → Prop
  | product {cs : List Char} {a : Int} (h : ReadsProduct σ cs a) : Reads σ cs a
  | operator {op : Arithmetic} {cs ds : List Char} {a b : Int} (hop : op ≠ .mul)
      (h : Reads σ cs a) (hb : ReadsProduct σ ds b) :
      Reads σ (cs ++ op.symbol :: ds) (op.apply a b)

/-! No text is read in two ways. -/

theorem Arithmetic.symbol_inj {op op' : Arithmetic} (h : op.symbol = op'.symbol) : op = op' := by
  cases op <;> cases op' <;> first | rfl | cases h

theorem Arithmetic.isWordChar_symbol (op : Arithmetic) : isWordChar op.symbol = false := by
  cases op <;> decide

namespace ReadsFactor

theorem isWordChar (h : ReadsFactor σ cs a) : ∀ c ∈ cs, isWordChar c := by
  cases h with
  | numeral _ h =>
    intro c hc
    simp [SeriesQuery.isWordChar, Char.isAlphanum, h c hc]
  | name h => exact h.1.2

/-- An operator in a text is never part of a factor. -/
theorem ne_symbol (h : ReadsFactor σ cs a) (op : Arithmetic) : ∀ c ∈ cs, c ≠ op.symbol := by
  rintro c hc rfl
  cases op.isWordChar_symbol.symm.trans (h.isWordChar _ hc)

/-- A factor is a numeral or a name but not both, since a name has a character that is no digit. -/
theorem unique (ha : ReadsFactor σ cs a) (hb : ReadsFactor σ cs b) : a = b := by
  cases ha with
  | numeral hne h =>
    cases hb with
    | numeral => rfl
    | name hw =>
      obtain ⟨-, c, hc, hnot⟩ := hw
      exact absurd (h c hc) hnot
  | name hw =>
    generalize htext : String.toList _ = text at hb
    cases hb with
    | numeral _ h =>
      obtain ⟨-, c, hc, hnot⟩ := hw
      exact absurd (h c (htext ▸ hc)) hnot
    | name => rw [String.toList_inj.mp htext]

end ReadsFactor

namespace ReadsProduct

/-- Within a product there is no operator but the star. -/
theorem ne_symbol (h : ReadsProduct σ cs a) {op : Arithmetic} (hop : op ≠ .mul) :
    ∀ c ∈ cs, c ≠ op.symbol := by
  induction h with
  | factor h => exact h.ne_symbol op
  | mul _ hb ih =>
    have hstar : '*' ≠ op.symbol := fun h => hop (Arithmetic.symbol_inj h.symm)
    exact List.forall_mem_append.mpr ⟨ih, List.forall_mem_cons.mpr ⟨hstar, hb.ne_symbol op⟩⟩

/-- The last star of a product ends all factors but the last. -/
theorem unique (ha : ReadsProduct σ cs a) (hb : ReadsProduct σ cs b) : a = b := by
  induction ha generalizing b with
  | factor ha =>
    cases hb with
    | factor hb => exact ha.unique hb
    | mul => exact absurd rfl (ha.ne_symbol .mul '*' (by simp))
  | @mul cs ds a a' ha ha' ih =>
    generalize htext : cs ++ '*' :: ds = text at hb
    cases hb with
    | factor hb => exact absurd rfl (hb.ne_symbol .mul '*' (by simp [← htext]))
    | mul hb hb' =>
      obtain ⟨rfl, -, rfl⟩ := append_cons_inj_of_last (p := (· = '*')) rfl rfl
        (ha'.ne_symbol .mul) (hb'.ne_symbol .mul) htext
      rw [ih hb, ha'.unique hb']

end ReadsProduct

/-- The last plus or minus of a text ends all products but the last, so there is one way to read
it. -/
theorem Reads.unique (ha : Reads σ cs a) (hb : Reads σ cs b) : a = b := by
  induction ha generalizing b with
  | product ha =>
    cases hb with
    | product hb => exact ha.unique hb
    | operator hop => exact absurd rfl (ha.ne_symbol hop _ (by simp))
  | @operator op cs ds a a' hop ha ha' ih =>
    generalize htext : cs ++ op.symbol :: ds = text at hb
    cases hb with
    | product hb => exact absurd rfl (hb.ne_symbol hop _ (by simp [← htext]))
    | operator hop' hb hb' =>
      have hlast {ds : List Char} {c : Int} (h : ReadsProduct σ ds c) :
          ∀ x ∈ ds, ¬ ∃ o : Arithmetic, o ≠ .mul ∧ x = o.symbol := by
        rintro x hx ⟨o, ho, heq⟩
        exact h.ne_symbol ho x hx heq
      obtain ⟨rfl, hsymbol, rfl⟩ := append_cons_inj_of_last ⟨op, hop, rfl⟩ ⟨_, hop', rfl⟩
        (hlast ha') (hlast hb') htext
      rw [Arithmetic.symbol_inj hsymbol, ih hb, ha'.unique hb']

/-! Every text of arithmetic can be read, from left to right. -/

/-- The text up to the last operand is read as a sum, the last product of which may go on. -/
inductive Ends (σ : String → Int) : List Char → PartialSum → Prop
  | product {cs : List Char} {p : Int} (h : ReadsProduct σ cs p) : Ends σ cs ⟨0, p⟩
  | operator {op : Arithmetic} {cs ds : List Char} {a p : Int} (hop : op ≠ .mul)
      (h : Reads σ cs a) (hp : ReadsProduct σ ds p) :
      Ends σ (cs ++ op.symbol :: ds) ⟨a, op.apply 0 p⟩

/-- The text is one that an operand has to follow. -/
def Awaits (σ : String → Int) (cs : List Char) (s : PartialSum) : Prop :=
  ∀ ds a, ReadsFactor σ ds a → Ends σ (cs ++ ds) (s.operand a)

/-- A text that could go on with a factor can also stop there. -/
theorem Ends.reads (h : Ends σ cs s) : Reads σ cs s.total := by
  cases h with
  | product h => simpa using Reads.product h
  | @operator op cs ds a p hop h hp =>
    have htotal : PartialSum.total ⟨a, op.apply 0 p⟩ = op.apply a p := by
      cases op <;> simp [Arithmetic.apply, Int.sub_eq_add_neg] at hop ⊢
    rw [htotal]
    exact .operator hop h hp

theorem awaits_nil : Awaits σ [] .start := by
  intro ds a h
  simpa [PartialSum.start, PartialSum.operand] using Ends.product (.factor h)

/-- A star goes on with the last product, and any other operator completes it. -/
theorem Ends.awaits (h : Ends σ cs s) (op : Arithmetic) :
    Awaits σ (cs ++ [op.symbol]) (s.operator op) := by
  intro ds a ha
  have hsum (op : Arithmetic) (hop : op ≠ .mul) :
      Ends σ (cs ++ [op.symbol] ++ ds) ⟨s.total, op.apply 0 a⟩ := by
    simpa using Ends.operator hop h.reads (.factor ha)
  cases op with
  | add =>
    have hadd := hsum .add (by decide)
    simpa [PartialSum.operator, PartialSum.operand, Arithmetic.apply] using hadd
  | sub =>
    have hsub := hsum .sub (by decide)
    simpa [PartialSum.operator, PartialSum.operand, Arithmetic.apply] using hsub
  | mul =>
    cases h with
    | product h =>
      simpa [PartialSum.operand, PartialSum.operator, Arithmetic.symbol] using
        Ends.product (.mul h ha)
    | @operator op cs ds' b p hop h hp =>
      have hproduct : op.apply 0 p * a = op.apply 0 (p * a) := by
        cases op with
        | add => simp only [Arithmetic.apply, Int.zero_add]
        | sub => simp only [Arithmetic.apply, Int.zero_sub, Int.neg_mul]
        | mul => exact absurd rfl hop
      simpa [PartialSum.operand, PartialSum.operator, hproduct, Arithmetic.symbol] using
        Ends.operator hop h (.mul hp ha)

theorem Expr.tree_ofName (h : IsWord w) : (Expr.ofName w).tree = .leaf (.name w) := by
  have hname := columnName_ofName h
  unfold Expr.ofName at hname ⊢
  simp [tree, hname]

theorem readsFactor_number (n : Nat) : ReadsFactor σ (Nat.toDigits 10 n) n := by
  have hdigits : ∀ c ∈ Nat.toDigits 10 n, c.isDigit := fun c hc =>
    Nat.isDigit_of_mem_toDigits (by decide) (by decide) hc
  simpa using ReadsFactor.numeral (σ := σ) Nat.toDigits_ne_nil hdigits

namespace Value.IsArithmetic

/-- The text goes on where it stopped for an operand. -/
theorem ends (h : v.IsArithmetic) (hs : Awaits σ cs s) :
    Ends σ (cs ++ v.tree.chars) ((v.tree.values σ).read s) := by
  induction h generalizing cs s with
  | name h =>
    rw [tree, Expr.tree_ofName h.1]
    exact hs _ _ (.name h)
  | int h => exact hs _ _ (readsFactor_number _)
  | uint n => exact hs _ _ (readsFactor_number _)
  | @compute op lhs rhs _ _ ihl ihr =>
    have hrhs := ihr ((ihl hs).awaits op)
    rw [List.append_assoc, List.append_assoc] at hrhs
    exact hrhs

theorem reads (h : v.IsArithmetic) (σ : String → Int) :
    Reads σ v.tree.chars ((v.tree.values σ).read .start).total :=
  (h.ends awaits_nil).reads

open Step

/-- It is written as its operands and operators stand in the tree. -/
theorem render_eq (h : v.IsArithmetic) :
    v.render .timeSeries = write (String.ofList v.tree.chars) := by
  induction h with
  | @name w h =>
    have hrender := writes_column h.1
    rw [tree, Expr.tree_ofName h.1, render, hrender]
    simp [tokenText, Token.chars, ArithmeticTree.chars, Operand.chars]
  | @int n h =>
    have htext : (toString n.toInt).toList = Nat.toDigits 10 n.toInt.toNat := by
      rw [← toList_toString_ofNat, Int.ofNat_eq_natCast, Int.toNat_of_nonneg h]
    rw [render, tree, ArithmeticTree.chars, Operand.chars, ← htext, String.ofList_toList]
  | uint n =>
    rw [render, tree, ArithmeticTree.chars, Operand.chars, Nat.toString_eq_ofList_toDigits]
  | @compute op lhs rhs _ _ ihl ihr =>
    have hop : Dialect.timeSeries.arithmetic op = some (String.singleton op.symbol) := by
      cases op <;> rfl
    have htext : String.ofList (expr (.compute op lhs rhs)).tree.chars =
        String.ofList (expr lhs).tree.chars ++ String.singleton op.symbol ++
          String.ofList rhs.tree.chars := by
      apply String.toList_inj.mp
      simp [tree, Expr.tree, ArithmeticTree.chars]
    rw [render] at ihl
    rw [render, Expr.render, Step.compute, hop, ihl, ihr, htext]
    funext b
    simp [write_write]

end Value.IsArithmetic

namespace ArithmeticTree

/-- An expression over two columns, the one for the ones of the tree and the other for the zeros. -/
def named : ArithmeticTree Bool → Expr
  | leaf b => .ofName (if b then "x" else "y")
  | node op lhs rhs => .compute op lhs.named (.expr rhs.named)

theorem isName_bit (b : Bool) : IsName (if b then "x" else "y") := by
  cases b with
  | false => exact isName_of_all (by decide) (by decide) (by decide)
  | true => exact isName_of_all (by decide) (by decide) (by decide)

theorem isArithmetic_named (u : ArithmeticTree Bool) : u.named.IsArithmetic := by
  induction u with
  | leaf b => exact .name (isName_bit b)
  | node op lhs rhs ihl ihr => exact .compute ihl ihr

theorem tree_named (u : ArithmeticTree Bool) :
    u.named.tree = u.map fun b => .name (if b then "x" else "y") := by
  induction u with
  | leaf b => exact Expr.tree_ofName (isName_bit b).1
  | node op lhs rhs ihl ihr => exact congrArg₂ (node op) ihl ihr

/-- The columns are given the values that the tree has for them. -/
theorem values_named (u : ArithmeticTree Bool) :
    u.named.tree.values (fun w => if w = "x" then 1 else 0) = u.bits := by
  rw [tree_named]
  induction u with
  | leaf b => cases b <;> rfl
  | node op lhs rhs ihl ihr => exact congrArg₂ (node op) ihl ihr

theorem shape_named (u : ArithmeticTree Bool) : u.named.tree.shape = u.shape := by
  rw [tree_named]
  induction u with
  | leaf b => rfl
  | node op lhs rhs ihl ihr => exact congrArg₂ (node op) ihl ihr

end ArithmeticTree

namespace Expr

variable {e : Expr}

theorem sql_of_isArithmetic (h : e.IsArithmetic) :
    e.sql .timeSeries = .ok (String.ofList e.tree.chars) := by
  have hrender : e.render .timeSeries = Step.write (String.ofList e.tree.chars) := h.render_eq
  simp [sql, Step.result, hrender, Step.write, Buffer.result]

theorem reads_of_sql (h : e.IsArithmetic) {t : String} (ht : e.sql .timeSeries = .ok t)
    (σ : String → Int) : Reads σ t.toList ((e.tree.values σ).read .start).total := by
  obtain rfl : String.ofList e.tree.chars = t := by
    simpa [sql_of_isArithmetic h] using ht
  rw [String.toList_ofList]
  exact Value.IsArithmetic.reads h σ

/-- Arithmetic is written as a text that is read in one way. It is read as the value of the
expression, for all expressions of the same shape, exactly when the shape is grouped: when no sum
and no difference is a factor, or is taken away. -/
theorem reads_eval_iff_grouped (e : Expr) (h : e.IsArithmetic) :
    (∃ t, e.sql .timeSeries = .ok t ∧ ∀ σ, ∃! a, Reads σ t.toList a) ∧
    ((∀ e' : Expr, e'.IsArithmetic → e'.tree.shape = e.tree.shape →
        ∀ t, e'.sql .timeSeries = .ok t → ∀ σ, Reads σ t.toList (e'.eval σ)) ↔
      e.tree.Grouped) := by
  refine ⟨⟨_, sql_of_isArithmetic h, fun σ => ?_⟩, fun hall => ?_, fun hgrouped => ?_⟩
  · exact ⟨_, reads_of_sql h (sql_of_isArithmetic h) σ, fun a ha =>
      ha.unique (reads_of_sql h (sql_of_isArithmetic h) σ)⟩
  · by_contra hnot
    obtain ⟨u, hshape, hne⟩ := ArithmeticTree.exists_total_read_ne hnot
    have harith := u.isArithmetic_named
    have hsql := sql_of_isArithmetic harith
    have heval := hall _ harith (u.shape_named.trans hshape) _ hsql
      fun w => if w = "x" then 1 else 0
    have htotal := (reads_of_sql harith hsql _).unique heval
    rw [Expr.eval, u.values_named] at htotal
    exact hne htotal
  · intro e' he' hshape t ht σ
    have hgrouped' : (e'.tree.values σ).Grouped :=
      ArithmeticTree.grouped_map.mpr (ArithmeticTree.grouped_of_shape_eq hshape hgrouped)
    have htotal : ((e'.tree.values σ).read .start).total = 0 + e'.eval σ :=
      ArithmeticTree.total_read_of_grouped hgrouped' 0
    rw [Int.zero_add] at htotal
    exact htotal ▸ reads_of_sql he' ht σ

/-- A product may be subtracted, and a product of products needs no parentheses either. -/
theorem reads_eval_iff_grouped_products :
    let e : Expr := .compute .add (.compute .sub (.compute .mul (.ofName "a") (.uint 2))
      (.expr (.ofName "b"))) (.expr (.compute .mul (.ofName "c")
      (.expr (.compute .mul (.ofName "d") (.int 3)))))
    let t := "a*2-b+c*d*3"
    e.IsArithmetic ∧ e.sql .timeSeries = .ok t ∧ (∀ σ, ∃! a, Reads σ t.toList a) ∧
      ∀ σ, Reads σ t.toList (e.eval σ) := by
  intro e t
  have ha := isName_of_all (w := "a") (by decide) (by decide) (by decide)
  have hb := isName_of_all (w := "b") (by decide) (by decide) (by decide)
  have hc := isName_of_all (w := "c") (by decide) (by decide) (by decide)
  have hd := isName_of_all (w := "d") (by decide) (by decide) (by decide)
  have he : e.IsArithmetic :=
    .compute (.compute (.compute (.name ha) (.uint 2)) (.name hb))
      (.compute (.name hc) (.compute (.name hd) (.int (n := 3) (by decide))))
  have ht : e.sql .timeSeries = .ok t := by decide +kernel
  obtain ⟨⟨t', ht', hread⟩, hgrouped⟩ := reads_eval_iff_grouped e he
  obtain rfl : t = t' := Except.ok.inj (ht.symm.trans ht')
  exact ⟨he, ht, hread, hgrouped.mpr (by decide +kernel) e he rfl t ht⟩

/-- A sum is not read as the factor that it is. -/
theorem sum_as_factor_misread :
    let e : Expr := .compute .mul (.compute .add (.ofName "a") (.int 1)) (.int 2)
    let σ : String → Int := fun _ => 1
    e.IsArithmetic ∧ e.sql .timeSeries = .ok "a+1*2" ∧ e.eval σ = 4 ∧
      Reads σ "a+1*2".toList 3 ∧ ¬ Reads σ "a+1*2".toList (e.eval σ) := by
  intro e σ
  have ha := isName_of_all (w := "a") (by decide) (by decide) (by decide)
  have he : e.IsArithmetic :=
    .compute (.compute (.name ha) (.int (n := 1) (by decide))) (.int (n := 2) (by decide))
  have ht : e.sql .timeSeries = .ok "a+1*2" := by decide +kernel
  have heval : e.eval σ = 4 := by decide +kernel
  have htotal : ((e.tree.values σ).read .start).total = 3 := by decide +kernel
  have hread := reads_of_sql he ht σ
  rw [htotal] at hread
  refine ⟨he, ht, heval, hread, fun h => ?_⟩
  rw [heval] at h
  exact absurd (hread.unique h) (by decide)

end Expr

end SeriesQuery
