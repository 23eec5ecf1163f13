import Mathlib.Logic.Basic
import SeriesQuery.Operator

/-! Trees of arithmetic, and what their operands and operators come to when they are read from left
to right without parentheses, products before sums and differences. -/

namespace SeriesQuery

def Arithmetic.apply : Arithmetic → Int → Int → Int
  | add, a, b => a + b
  | sub, a, b => a - b
  | mul, a, b => a * b

/-- Operators over operands. -/
inductive ArithmeticTree (α : Type)
  | leaf (a : α)
  | node (op : Arithmetic) (lhs rhs : ArithmeticTree α)

/-- What has been read of a sum: the products that are complete, and the one that is not, with its
sign. -/
structure PartialSum where
  sum : Int
  product : Int

namespace PartialSum

variable {s : PartialSum}

def start : PartialSum := ⟨0, 1⟩

def total (s : PartialSum) : Int := s.sum + s.product

/-- Reads an operand. -/
def operand (s : PartialSum) (a : Int) : PartialSum := ⟨s.sum, s.product * a⟩

/-- Reads an operator. A sum or a difference completes the product before it. -/
def operator (s : PartialSum) : Arithmetic → PartialSum
  | .add => ⟨s.total, 1⟩
  | .sub => ⟨s.total, -1⟩
  | .mul => s

@[simp] theorem total_mk (a p : Int) : total ⟨a, p⟩ = a + p := rfl

@[simp] theorem operand_one : s.operand 1 = s := by
  simp [operand]

/-- Factors that come one after the other are read as their product. -/
theorem operand_operand (a b : Int) : (s.operand a).operand b = s.operand (a * b) := by
  simp [operand, Int.mul_assoc]

end PartialSum

namespace ArithmeticTree

open PartialSum

variable {α β : Type} {s : PartialSum}

def map (f : α → β) : ArithmeticTree α → ArithmeticTree β
  | leaf a => leaf (f a)
  | node op lhs rhs => node op (lhs.map f) (rhs.map f)

/-- The tree without its operands. -/
def shape (t : ArithmeticTree α) : ArithmeticTree Unit := t.map fun _ => ()

/-- There is no sum and no difference in the tree. -/
def IsProduct : ArithmeticTree α → Prop
  | leaf _ => True
  | node .add _ _ => False
  | node .sub _ _ => False
  | node .mul lhs rhs => lhs.IsProduct ∧ rhs.IsProduct

/-- The factors of products are products, and so is all that is taken away from something. -/
def Grouped : ArithmeticTree α → Prop
  | leaf _ => True
  | node .add lhs rhs => lhs.Grouped ∧ rhs.Grouped
  | node .sub lhs rhs => lhs.Grouped ∧ rhs.IsProduct
  | node .mul lhs rhs => lhs.IsProduct ∧ rhs.IsProduct

instance decidableIsProduct : (t : ArithmeticTree α) → Decidable t.IsProduct
  | leaf _ => .isTrue trivial
  | node .add _ _ => .isFalse id
  | node .sub _ _ => .isFalse id
  | node .mul lhs rhs => @instDecidableAnd _ _ lhs.decidableIsProduct rhs.decidableIsProduct

instance decidableGrouped : (t : ArithmeticTree α) → Decidable t.Grouped
  | leaf _ => .isTrue trivial
  | node .add lhs rhs => @instDecidableAnd _ _ lhs.decidableGrouped rhs.decidableGrouped
  | node .sub lhs rhs => @instDecidableAnd _ _ lhs.decidableGrouped rhs.decidableIsProduct
  | node .mul lhs rhs => @instDecidableAnd _ _ lhs.decidableIsProduct rhs.decidableIsProduct

/-- The value of the tree as it is nested. -/
def eval : ArithmeticTree Int → Int
  | leaf a => a
  | node op lhs rhs => op.apply lhs.eval rhs.eval

/-- Reads the operands and operators of the tree from left to right. -/
def read : ArithmeticTree Int → PartialSum → PartialSum
  | leaf a, s => s.operand a
  | node op lhs rhs, s => rhs.read ((lhs.read s).operator op)

theorem isProduct_map {f : α → β} {t : ArithmeticTree α} : (t.map f).IsProduct ↔ t.IsProduct := by
  induction t with
  | leaf a => rfl
  | node op lhs rhs ihl ihr => cases op <;> simp [map, IsProduct, ihl, ihr]

theorem grouped_map {f : α → β} {t : ArithmeticTree α} : (t.map f).Grouped ↔ t.Grouped := by
  induction t with
  | leaf a => rfl
  | node op lhs rhs ihl ihr => cases op <;> simp [map, Grouped, isProduct_map, ihl, ihr]

/-- Whether a tree is a product does not depend on its operands. -/
theorem isProduct_of_shape_eq {t : ArithmeticTree α} {u : ArithmeticTree β}
    (h : u.shape = t.shape) (ht : t.IsProduct) : u.IsProduct := by
  have hshape : t.shape.IsProduct := isProduct_map.mpr ht
  exact isProduct_map.mp (h ▸ hshape : u.shape.IsProduct)

/-- Whether a tree is grouped does not depend on its operands, so one choice of them can refute
it. -/
theorem grouped_of_shape_eq {t : ArithmeticTree α} {u : ArithmeticTree β}
    (h : u.shape = t.shape) (ht : t.Grouped) : u.Grouped := by
  have hshape : t.shape.Grouped := grouped_map.mpr ht
  exact grouped_map.mp (h ▸ hshape : u.shape.Grouped)

/-- A product is read as one operand, whatever was read before. -/
theorem read_of_isProduct {t : ArithmeticTree Int} (h : t.IsProduct) :
    t.read s = s.operand t.eval := by
  induction t generalizing s with
  | leaf a => rfl
  | node op lhs rhs ihl ihr =>
    cases op with
    | add | sub => exact h.elim
    | mul => exact (congrArg rhs.read (ihl h.1)).trans ((ihr h.2).trans (operand_operand _ _))

/-- What a grouped tree is read as is its value. -/
theorem total_read_of_grouped {t : ArithmeticTree Int} (h : t.Grouped) (a : Int) :
    (t.read ⟨a, 1⟩).total = a + t.eval := by
  induction t generalizing a with
  | leaf b => simp [read, operand, total, eval]
  | node op lhs rhs ihl ihr =>
    cases op with
    | add =>
      have hl := ihl h.1 a
      have hr := ihr h.2 (lhs.read ⟨a, 1⟩).total
      calc (rhs.read ⟨(lhs.read ⟨a, 1⟩).total, 1⟩).total
          = a + lhs.eval + rhs.eval := by rw [hr, hl]
        _ = a + (lhs.eval + rhs.eval) := Int.add_assoc _ _ _
    | sub =>
      have hl := ihl h.1 a
      have hr := read_of_isProduct (s := ⟨(lhs.read ⟨a, 1⟩).total, -1⟩) h.2
      calc (rhs.read ⟨(lhs.read ⟨a, 1⟩).total, -1⟩).total
          = a + lhs.eval + -1 * rhs.eval := by rw [hr, hl]; rfl
        _ = a + (lhs.eval - rhs.eval) := by omega
    | mul =>
      have hproduct : (node .mul lhs rhs).IsProduct := h
      rw [read_of_isProduct hproduct]
      simp [operand, total]

section

/-! The operands zero and one are enough to tell how a tree is read. -/

/-- The tree of zeros and ones. -/
def bits (u : ArithmeticTree Bool) : ArithmeticTree Int := u.map Bool.toInt

/-- Zeros for all operands. -/
def zero (t : ArithmeticTree α) : ArithmeticTree Bool := t.map fun _ => false

/-- Ones for the operands of products, and for the first of sums and differences. -/
def one : ArithmeticTree α → ArithmeticTree Bool
  | leaf _ => leaf true
  | node .add lhs rhs => node .add lhs.one rhs.zero
  | node .sub lhs rhs => node .sub lhs.one rhs.zero
  | node .mul lhs rhs => node .mul lhs.one rhs.one

variable {t : ArithmeticTree α}

@[simp] theorem shape_node (op : Arithmetic) (lhs rhs : ArithmeticTree α) :
    (node op lhs rhs).shape = node op lhs.shape rhs.shape := rfl

@[simp] theorem bits_node (op : Arithmetic) (lhs rhs : ArithmeticTree Bool) :
    (node op lhs rhs).bits = node op lhs.bits rhs.bits := rfl

@[simp] theorem shape_zero (t : ArithmeticTree α) : t.zero.shape = t.shape := by
  induction t with
  | leaf a => rfl
  | node op lhs rhs ihl ihr => exact congrArg₂ (node op) ihl ihr

@[simp] theorem shape_one (t : ArithmeticTree α) : t.one.shape = t.shape := by
  induction t with
  | leaf a => rfl
  | node op lhs rhs ihl ihr => cases op <;> simp [one, ihl, ihr]

@[simp] theorem eval_zero (t : ArithmeticTree α) : t.zero.bits.eval = 0 := by
  induction t with
  | leaf a => rfl
  | node op lhs rhs ihl ihr =>
    cases op <;> simp_all [zero, map, eval, Arithmetic.apply]

/-- As it is nested, the tree is worth one: what is added to it and taken away is zero. -/
@[simp] theorem eval_one (t : ArithmeticTree α) : t.one.bits.eval = 1 := by
  induction t with
  | leaf a => rfl
  | node op lhs rhs ihl ihr => cases op <;> simp [one, eval, Arithmetic.apply, ihl, ihr]

/-- Zeros take the open product with them and leave the sum as it is. -/
@[simp] theorem read_zero (t : ArithmeticTree α) : t.zero.bits.read s = ⟨s.sum, 0⟩ := by
  induction t generalizing s with
  | leaf a => simp [zero, map, bits, read, operand]
  | node op lhs rhs ihl ihr =>
    have hread : (node op lhs rhs).zero.bits.read s =
        rhs.zero.bits.read ((lhs.zero.bits.read s).operator op) := rfl
    cases op <;> simp [hread, ihl, ihr, operator, total]

/-- A product of ones is read as if it were not there. -/
theorem read_one_of_isProduct (h : t.IsProduct) : t.one.bits.read s = s := by
  have hbits : t.one.bits.IsProduct := isProduct_map.mpr (isProduct_of_shape_eq (shape_one t) h)
  rw [read_of_isProduct hbits, eval_one, operand_one]

/-- Behind a sum or a difference only zeros follow. -/
theorem read_one_of_not_isProduct (h : ¬ t.IsProduct) : t.one.bits.read s = ⟨s.total, 0⟩ := by
  induction t generalizing s with
  | leaf a => exact absurd trivial h
  | node op lhs rhs ihl ihr =>
    by_cases hl : lhs.IsProduct
    · have hlhs : lhs.one.bits.read s = s := read_one_of_isProduct hl
      cases op with
      | add | sub => simp [one, read, hlhs, operator]
      | mul =>
        have hr : ¬ rhs.IsProduct := fun hr => h ⟨hl, hr⟩
        exact (congrArg rhs.one.bits.read hlhs).trans (ihr hr)
    · have hlhs : lhs.one.bits.read s = ⟨s.total, 0⟩ := ihl hl
      cases op with
      | add | sub => simp [one, read, hlhs, operator, total]
      | mul =>
        by_cases hr : rhs.IsProduct
        · exact (congrArg rhs.one.bits.read hlhs).trans (read_one_of_isProduct hr)
        · simpa [one, read, hlhs, operator, total] using ihr hr (s := ⟨s.total, 0⟩)

/-- To read the ones from left to right leaves the total as it was. -/
theorem total_read_one (t : ArithmeticTree α) : (t.one.bits.read s).total = s.total := by
  by_cases h : t.IsProduct
  · rw [read_one_of_isProduct h]
  · simp [read_one_of_not_isProduct h, total]

/-- A factor that is not one stands before the first product only. -/
theorem exists_total_read_ne_mul (h : ¬ t.IsProduct) {c : Int} (hc : c ≠ 1) :
    ∃ u : ArithmeticTree Bool, u.shape = t.shape ∧
      (u.bits.read ⟨0, c⟩).total ≠ c * u.bits.eval := by
  induction t with
  | leaf a => exact absurd trivial h
  | node op lhs rhs ihl ihr =>
    cases op with
    | add =>
      have hne : c + 1 ≠ c * 2 := by omega
      refine ⟨.node .add lhs.one rhs.one, by simp, ?_⟩
      simpa [read, operator, total_read_one, eval, Arithmetic.apply] using hne
    | sub =>
      have hne : c + -1 ≠ 0 := by omega
      refine ⟨.node .sub lhs.one rhs.one, by simp, ?_⟩
      simpa [read, operator, total_read_one, eval, Arithmetic.apply] using hne
    | mul =>
      by_cases hl : lhs.IsProduct
      · obtain ⟨u, hu, hne⟩ := ihr fun hr => h ⟨hl, hr⟩
        refine ⟨.node .mul lhs.one u, by simp [hu], ?_⟩
        simpa [read, operator, read_one_of_isProduct hl, eval, Arithmetic.apply] using hne
      · obtain ⟨u, hu, hne⟩ := ihl hl
        refine ⟨.node .mul u rhs.one, by simp [hu], ?_⟩
        simpa [read, operator, total_read_one, eval, Arithmetic.apply] using hne

/-- A tree that is not grouped is read as another number for some of its operands. -/
theorem exists_total_read_ne (h : ¬ t.Grouped) :
    ∃ u : ArithmeticTree Bool, u.shape = t.shape ∧ (u.bits.read start).total ≠ u.bits.eval := by
  induction t with
  | leaf a => exact absurd trivial h
  | node op lhs rhs ihl ihr =>
    cases op with
    | add =>
      by_cases hl : lhs.Grouped
      · obtain ⟨u, hu, hne⟩ := ihr fun hr => h ⟨hl, hr⟩
        refine ⟨.node .add lhs.zero u, by simp [hu], ?_⟩
        simpa [read, operator, eval, Arithmetic.apply, start] using hne
      · obtain ⟨u, hu, hne⟩ := ihl hl
        refine ⟨.node .add u rhs.zero, by simp [hu], ?_⟩
        simpa [read, operator, eval, Arithmetic.apply] using hne
    | sub =>
      by_cases hl : lhs.Grouped
      · have hr : ¬ rhs.IsProduct := fun hr => h ⟨hl, hr⟩
        obtain ⟨u, hu, hne⟩ := exists_total_read_ne_mul hr (c := -1) (by decide)
        refine ⟨.node .sub lhs.zero u, by simp [hu], ?_⟩
        simpa [read, operator, eval, Arithmetic.apply, start] using hne
      · obtain ⟨u, hu, hne⟩ := ihl hl
        refine ⟨.node .sub u rhs.zero, by simp [hu], ?_⟩
        simpa [read, operator, eval, Arithmetic.apply] using hne
    | mul =>
      by_cases hl : lhs.IsProduct
      · have hr : ¬ rhs.IsProduct := fun hr => h ⟨hl, hr⟩
        obtain ⟨u, hu, hne⟩ := exists_total_read_ne_mul hr (c := 0) (by decide)
        refine ⟨.node .mul lhs.zero u, by simp [hu], ?_⟩
        simpa [read, operator, eval, Arithmetic.apply, start] using hne
      · refine ⟨.node .mul lhs.one rhs.zero, by simp, ?_⟩
        simp [read, operator, read_one_of_not_isProduct hl, eval, Arithmetic.apply, start]

end

end ArithmeticTree

end SeriesQuery
