import SeriesQuery.Operator

/-!
A dialect: the keywords, punctuation and operator texts that a query is written with, and the
order of the pieces of a statement.
-/

namespace SeriesQuery

/-- A piece of a statement. The last five belong to other statements than a select. -/
inductive Fragment
  | select | source | filter | partitionBy | groupBy | interval | fill | order | limit | offset
  | timezone | commonTable | join | having | compounds | locking
  deriving DecidableEq

namespace Fragment

def all : List Fragment :=
  [.select, .source, .filter, .partitionBy, .groupBy, .interval, .fill, .order, .limit, .offset,
    .timezone, .commonTable, .join, .having, .compounds, .locking]

def name : Fragment → String
  | .select => "Select"
  | .source => "From"
  | .filter => "Where"
  | .partitionBy => "PartitionBy"
  | .groupBy => "GroupBy"
  | .interval => "Interval"
  | .fill => "Fill"
  | .order => "Order"
  | .limit => "Limit"
  | .offset => "Offset"
  | .timezone => "Timezone"
  | .commonTable => "CommonTable"
  | .join => "Join"
  | .having => "Having"
  | .compounds => "Compounds"
  | .locking => "For"

def ofName? (name : String) : Option Fragment :=
  all.find? (·.name == name)

/-- The fragments of a select statement, in the usual order. -/
def ofSelect : List Fragment :=
  [.select, .source, .filter, .partitionBy, .groupBy, .interval, .fill, .order, .limit, .offset,
    .timezone]

end Fragment

/-- The field values are those of the time series dialect. A keyword brings the spaces around it
along, except that `select` and `source` are followed by a `space` of their own. -/
structure Dialect where
  select : String := "SELECT"
  source : String := " FROM"
  filter : String := " WHERE "
  partitionBy : String := " PARTITION BY "
  groupBy : String := " GROUP BY "
  interval : String := " INTERVAL"
  fill : String := " FILL"
  orderBy : String := " ORDER BY "
  limit : String := " LIMIT "
  offset : String := " OFFSET "
  /-- Without this keyword the time zone is left out of the text. -/
  timezone : Option String := none
  aliasing : String := " AS "
  ascending : String := " ASC"
  descending : String := " DESC"
  conjunction : String := " AND "
  disjunction : String := " OR "
  null : String := "NULL"
  unionAll : String := " UNION ALL "
  leftParen : Char := '('
  rightParen : Char := ')'
  star : Char := '*'
  period : Char := '.'
  space : Char := ' '
  comma : Char := ','
  quote : Char := '\''
  /-- What is written for a character inside a quoted string, if not the character itself. -/
  escape : Char → Option String := fun c => if c = '\'' then some "''" else none
  /-- A comparison without a text cannot be written. -/
  comparison : Comparison → Option String := fun
    | .eq => some "="
    | .ne => some "!="
    | .gt => some ">"
    | .ge => some ">="
    | .lt => some "<"
    | .le => some "<="
    | .regex => some "~"
    | .notRegex => some "!~"
    | .regexFold => some "~*"
    | .notRegexFold => some "!~*"
    | .isIn => some "IN"
    | _ => none
  arithmetic : Arithmetic → Option String := fun
    | .add => some "+"
    | .sub => some "-"
    | .mul => some "*"
  selectOrder : List Fragment := Fragment.ofSelect
  /-- The most bytes of a statement that are logged. -/
  logLimit : Nat := 200

namespace Dialect

/-- The dialect in which every builder starts. -/
def timeSeries : Dialect := {}

def withTimezone (d : Dialect) (keyword : String) : Dialect :=
  { d with timezone := some keyword }

def withSelectOrder (d : Dialect) (order : List Fragment) : Dialect :=
  { d with selectOrder := order }

def withComparison (d : Dialect) (op : Comparison) (text : String) : Dialect :=
  { d with comparison := fun o => if o = op then some text else d.comparison o }

def withoutComparison (d : Dialect) (op : Comparison) : Dialect :=
  { d with comparison := fun o => if o = op then none else d.comparison o }

def withArithmetic (d : Dialect) (op : Arithmetic) (text : String) : Dialect :=
  { d with arithmetic := fun o => if o = op then some text else d.arithmetic o }

def withoutArithmetic (d : Dialect) (op : Arithmetic) : Dialect :=
  { d with arithmetic := fun o => if o = op then none else d.arithmetic o }

def withEscape (d : Dialect) (c : Char) (text : String) : Dialect :=
  { d with escape := fun o => if o = c then some text else d.escape o }

def withoutEscape (d : Dialect) (c : Char) : Dialect :=
  { d with escape := fun o => if o = c then none else d.escape o }

def withLogLimit (d : Dialect) (limit : Nat) : Dialect :=
  { d with logLimit := limit }

def connective (d : Dialect) : Connective → String
  | .and => d.conjunction
  | .or => d.disjunction

def direction (d : Dialect) : Direction → String
  | .asc => d.ascending
  | .desc => d.descending

end Dialect

end SeriesQuery
