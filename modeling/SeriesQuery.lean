import SeriesQuery.Operator
import SeriesQuery.Number.Nearest
import SeriesQuery.Text.Quoted
import SeriesQuery.Text.Utf8
import SeriesQuery.KeyMap
import SeriesQuery.Expr.Basic
import SeriesQuery.Expr.Build
import SeriesQuery.Render.Expr
import SeriesQuery.Json.Reader
import SeriesQuery.Render.Select
import SeriesQuery.Zone.Year2024
import SeriesQuery.Executor
import SeriesQuery.Connection
import SeriesQuery.Proofs.Induction
import SeriesQuery.Proofs.Buffer
import SeriesQuery.Proofs.Generation
import SeriesQuery.Proofs.Fault
import SeriesQuery.Proofs.Written
import SeriesQuery.Proofs.QuoteSafe
import SeriesQuery.Proofs.Contents
import SeriesQuery.Proofs.Injection
import SeriesQuery.Proofs.Statement
import SeriesQuery.Proofs.Token
import SeriesQuery.Proofs.NormalForm
import SeriesQuery.Proofs.Readability
import SeriesQuery.Proofs.Nesting
import SeriesQuery.Proofs.Balance
import SeriesQuery.Proofs.Junction
import SeriesQuery.Proofs.KeyMap
import SeriesQuery.Proofs.Shorthand
import SeriesQuery.Proofs.Desugar
import SeriesQuery.Proofs.EditChain
import SeriesQuery.Proofs.Fragments
import SeriesQuery.Proofs.PoolHistory
import SeriesQuery.Proofs.SelfDelimiting
import SeriesQuery.Proofs.Alignment
import SeriesQuery.Proofs.Extension
import SeriesQuery.Proofs.ArithmeticReading
import SeriesQuery.Proofs.Comments
import SeriesQuery.Proofs.Subtraction
import SeriesQuery.Proofs.UnionMembers
import SeriesQuery.Proofs.Calls
import SeriesQuery.Proofs.EventLog
import SeriesQuery.Proofs.RangeReading
import SeriesQuery.Proofs.QuotedReading
import SeriesQuery.Proofs.Placeholders
import SeriesQuery.Proofs.ColumnLists
import SeriesQuery.Proofs.ByteDecoding
import SeriesQuery.Proofs.FormEncoding
import SeriesQuery.Proofs.WriteEndpoint
import SeriesQuery.Proofs.Rounding
import SeriesQuery.Proofs.ShortestDecimal
import SeriesQuery.Proofs.DecimalText
import SeriesQuery.Proofs.FloatLiterals
import SeriesQuery.Proofs.NearestRounding
import SeriesQuery.Proofs.JsonNumbers
import SeriesQuery.Proofs.JsonReading
import SeriesQuery.Proofs.ConnectionJson
import SeriesQuery.Proofs.BucketHours
import SeriesQuery.Proofs.ByteBoundary
import SeriesQuery.Proofs.FloatPlaces
import SeriesQuery.Proofs.StatementFault
import SeriesQuery.Proofs.Equality
import SeriesQuery.Proofs.Congruence
