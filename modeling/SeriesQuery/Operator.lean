/-!
The operators of a query: comparisons and their inverses, arithmetic, range tests, connectives
and sort directions.
-/

namespace SeriesQuery

/-- The last four are the regular expression matches, the `Fold` ones without regard to case. -/
inductive Comparison
  | eq | ne | is | isNot | gt | ge | lt | le | isIn | notIn | like | notLike
  | regex | notRegex | regexFold | notRegexFold
  deriving DecidableEq

namespace Comparison

/-- Every comparison, in the order in which they are listed to a reader. -/
def all : List Comparison :=
  [.eq, .ne, .is, .isNot, .gt, .ge, .lt, .le, .isIn, .notIn, .like, .notLike,
    .regex, .notRegex, .regexFold, .notRegexFold]

def name : Comparison → String
  | .eq => "eq"
  | .ne => "neq"
  | .is => "is"
  | .isNot => "isnot"
  | .gt => "gt"
  | .ge => "gte"
  | .lt => "lt"
  | .le => "lte"
  | .isIn => "in"
  | .notIn => "notin"
  | .like => "like"
  | .notLike => "notlike"
  | .regex => "regexplike"
  | .notRegex => "regexpnotlike"
  | .regexFold => "regexpilike"
  | .notRegexFold => "regexpnotilike"

def ofName? (name : String) : Option Comparison :=
  all.find? (·.name == name)

/-- The comparison that holds exactly when this one does not. -/
def inverse : Comparison → Comparison
  | .eq => .ne
  | .ne => .eq
  | .is => .isNot
  | .isNot => .is
  | .gt => .le
  | .le => .gt
  | .ge => .lt
  | .lt => .ge
  | .isIn => .notIn
  | .notIn => .isIn
  | .like => .notLike
  | .notLike => .like
  | .regex => .notRegex
  | .notRegex => .regex
  | .regexFold => .notRegexFold
  | .notRegexFold => .regexFold

@[simp] theorem inverse_inverse (c : Comparison) : c.inverse.inverse = c := by
  cases c <;> rfl

theorem mem_all (c : Comparison) : c ∈ all := by
  cases c <;> simp [all]

end Comparison

inductive Arithmetic
  | add | sub | mul
  deriving DecidableEq

namespace Arithmetic

def all : List Arithmetic := [.add, .sub, .mul]

def name : Arithmetic → String
  | .add => "add"
  | .sub => "sub"
  | .mul => "multiply"

def ofName? (name : String) : Option Arithmetic :=
  all.find? (·.name == name)

end Arithmetic

inductive RangeTest
  | between | notBetween
  deriving DecidableEq

namespace RangeTest

def all : List RangeTest := [.between, .notBetween]

def name : RangeTest → String
  | .between => "between"
  | .notBetween => "notbetween"

def ofName? (name : String) : Option RangeTest :=
  all.find? (·.name == name)

/-- The comparisons with the lower and with the upper bound, in the order they are written. -/
def comparisons : RangeTest → Comparison × Comparison
  | .between => (.ge, .le)
  | .notBetween => (.lt, .gt)

end RangeTest

/-- What joins the conditions of a list. -/
inductive Connective
  | and | or
  deriving DecidableEq

inductive Direction
  | asc | desc
  deriving DecidableEq

end SeriesQuery
