import SeriesQuery.Clauses
import SeriesQuery.Render.Expr

/-!
Writing a select statement, fragment by fragment in the order of the dialect. A clause that is
not set writes nothing.
-/

namespace SeriesQuery

/-- A number to fill with is written after the keyword for it. -/
def Fill.render (d : Dialect) : Fill → Step
  | .text s => Step.write s
  | .int n => Step.write ("VALUE, " ++ toString n.toInt)
  | .float x => Step.seq [Step.write "VALUE, ", Step.float x]
  | .value v => v.render d

namespace Clauses

/-- Columns after a keyword. -/
def renderColumns (d : Dialect) (keyword : Step) (cols : List Expr) : Step :=
  if cols.isEmpty then Step.skip
  else Step.seq [keyword, Step.commaSeparated d (Expr.renderAll d cols)]

def renderSelect (d : Dialect) (c : Clauses) : Step :=
  Step.seq [Step.write d.select, Step.writeChar d.space,
    if c.selectsAll || c.select.isEmpty then Step.writeChar d.star
    else Step.commaSeparated d (Expr.renderAll d c.select)]

def renderConditions (d : Dialect) (conditions : List Expr) : Step :=
  if conditions.isEmpty then Step.skip
  else Step.seq [Step.write d.filter, Step.junction d .and (Expr.renderAll d conditions)]

/-- A keyword and what follows it between parentheses. -/
def renderArgument (d : Dialect) (keyword : String) (argument : Step) : Step :=
  Step.seq [Step.write keyword, Step.writeChar d.leftParen, argument, Step.writeChar d.rightParen]

def renderFill (d : Dialect) : Option Fill → Step
  | none => Step.skip
  | some fill => renderArgument d d.fill (fill.render d)

def renderLimit (d : Dialect) : Option UInt64 → Step
  | none => Step.skip
  | some limit => Step.seq [Step.write d.limit, (Value.uint limit).render d]

def renderOffset (d : Dialect) (offset : UInt64) : Step :=
  if offset = 0 then Step.skip
  else Step.seq [Step.write d.offset, (Value.uint offset).render d]

def renderTimezone (d : Dialect) (timezone : String) : Step :=
  match d.timezone with
  | none => Step.skip
  | some keyword =>
    if timezone.isEmpty then Step.skip
    else renderArgument d keyword (Step.quoted d timezone)

def renderFragment (d : Dialect) (c : Clauses) : Fragment → Step
  | .select => c.renderSelect d
  | .source => renderColumns d (Step.seq [Step.write d.source, Step.writeChar d.space]) c.source
  | .filter => renderConditions d c.conditions
  | .partitionBy => renderColumns d (Step.write d.partitionBy) c.partitionBy
  | .groupBy => renderColumns d (Step.write d.groupBy) c.groupBy
  | .interval =>
    if c.interval.isEmpty then Step.skip
    else renderArgument d d.interval (Step.write c.interval)
  | .fill => renderFill d c.fill
  | .order => renderColumns d (Step.write d.orderBy) c.order
  | .limit => renderLimit d c.limit
  | .offset => renderOffset d c.offset
  | .timezone => renderTimezone d c.timezone
  | fragment => Step.fail (.unsupportedFragment fragment)

def render (d : Dialect) (c : Clauses) : Step :=
  Step.seq (d.selectOrder.map (c.renderFragment d))

/-- The text of the statement in a dialect. -/
def sql (d : Dialect) (c : Clauses) : Except Error String := Step.result (c.render d)

end Clauses

end SeriesQuery
