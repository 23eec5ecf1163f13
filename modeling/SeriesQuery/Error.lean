import SeriesQuery.Dialect

/-!
What can keep a query from being written, or from being run.
-/

namespace SeriesQuery

inductive Error
  | emptyIdentifier
  /-- A condition map asks for an operator that there is none of. -/
  | unsupportedTest (operator : String)
  /-- The kind of an expression that stands in the place of a column. -/
  | unsupportedColumn (kind : String)
  | unsupportedComparison (op : Comparison)
  | unsupportedArithmetic (op : Arithmetic)
  | unsupportedRange (test : RangeTest)
  | unsupportedFragment (fragment : Fragment)
  /-- The value has no written form. -/
  | unwritable (value : String)
  | invalidConfig (reason : String)
  | noData
  | execution (reason : String)
  deriving DecidableEq

namespace Error

def message : Error → String
  | emptyIdentifier =>
    "an empty identifier was encountered, please specify a \"schema\", \"table\" or \"column\""
  | unsupportedTest operator => "unsupported expression type " ++ operator
  | unsupportedColumn kind =>
    "unexpected col type must be string or LiteralExpression received " ++ kind
  | unsupportedComparison op => "boolean operator '" ++ op.name ++ "' not supported"
  | unsupportedArithmetic op => "operator '" ++ op.name ++ "' not supported"
  | unsupportedRange test => "range operator " ++ test.name ++ " not supported"
  | unsupportedFragment fragment => "unsupported SELECT SQL fragment " ++ fragment.name
  | unwritable value => "encode error: Unable to encode value " ++ value
  | invalidConfig reason => "invalid config: " ++ reason
  | noData => "no data found"
  | execution reason => "Execution error: " ++ reason

/-- Whether the error arises in writing a query and not in running it. -/
def isGeneration : Error → Bool
  | noData | execution _ | invalidConfig _ => false
  | _ => true

end Error

end SeriesQuery
