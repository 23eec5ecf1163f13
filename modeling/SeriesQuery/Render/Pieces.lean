import SeriesQuery.Buffer
import SeriesQuery.Expr.Build
import SeriesQuery.Number.Shortest

/-!
How each kind of expression is written, given the steps that write its parts.
-/

namespace SeriesQuery.Step

/-- A string between quotes, with the escapes of the dialect. -/
def quoted (d : Dialect) (s : String) : Step :=
  seq [writeChar d.quote,
    seq (s.toList.map fun c =>
      match d.escape c with
      | some text => write text
      | none => writeChar c),
    writeChar d.quote]

/-- A finite number. The others have no written form. -/
def float (x : Binary64) : Step :=
  if x.isFinite then write x.decimalText else fail (.unwritable x.nonFiniteName)

/-- Takes the place of each `?` in turn by one of the arguments, as long as there are any. -/
def substitute : List Char → List Step → Step
  | [], _ => skip
  | c :: cs, [] => seq [writeChar c, substitute cs []]
  | c :: cs, arg :: args =>
    if c = '?' then seq [arg, substitute cs args] else seq [writeChar c, substitute cs (arg :: args)]

def commaSeparated (d : Dialect) (items : List Step) : Step :=
  separated (seq [writeChar d.comma, writeChar d.space]) items

def tuple (d : Dialect) (items : List Step) : Step :=
  seq [writeChar d.leftParen, commaSeparated d items, writeChar d.rightParen]

/-- The parts of an identifier that are there, with periods between them. The arguments are those
of a literal in the place of the column. -/
def identifier (d : Dialect) (i : Identifier) (args : List Step) : Step :=
  let qualified := !(i.schema.isEmpty && i.table.isEmpty)
  let period := if qualified then writeChar d.period else skip
  if i.isEmpty then fail .emptyIdentifier
  else
    seq [write i.schema,
      if i.schema.isEmpty || i.table.isEmpty then skip else writeChar d.period,
      write i.table,
      match i.column with
      | .none => skip
      | .name s => if s.isEmpty then skip else seq [period, write s]
      | .literal l => seq [period, substitute l.sql.toList args]
      | .other e => fail (.unsupportedColumn e.kindName)]

/-- The identifier that a piece of text names. -/
def named (d : Dialect) (name : String) : Step := identifier d (.parse name) []

def compare (d : Dialect) (op : Comparison) (lhs rhs : Step) : Step :=
  match d.comparison op with
  | none => fail (.unsupportedComparison op)
  | some text =>
    seq [writeChar d.leftParen, lhs, writeChar d.space, write text, writeChar d.space, rhs,
      writeChar d.rightParen]

def compute (d : Dialect) (op : Arithmetic) (lhs rhs : Step) : Step :=
  match d.arithmetic op with
  | none => fail (.unsupportedArithmetic op)
  | some text => seq [lhs, write text, rhs]

/-- A comparison with each of the two bounds, both of which have to hold. -/
def range (d : Dialect) (test : RangeTest) (lhs start stop : Step) : Step :=
  match d.comparison test.comparisons.1, d.comparison test.comparisons.2 with
  | some lower, some upper =>
    seq [writeChar d.leftParen,
      lhs, writeChar d.space, write lower, writeChar d.space, start,
      write d.conjunction,
      lhs, writeChar d.space, write upper, writeChar d.space, stop,
      writeChar d.rightParen]
  | _, _ => fail (.unsupportedRange test)

/-- Only a list of two conditions or more is put between parentheses. -/
def junction (d : Dialect) (op : Connective) : List Step → Step
  | [] => skip
  | [item] => item
  | items =>
    seq [writeChar d.leftParen, separated (write (d.connective op)) items, writeChar d.rightParen]

end SeriesQuery.Step
