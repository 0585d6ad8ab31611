import SkySql.Command.Run
import SkySql.Decimal.Layout
import SkySql.Decimal.Spelling
import SkySql.Dialect.Compile
import SkySql.Json.Decoder
import SkySql.Json.Printer
import SkySql.Json.Reader
import SkySql.Main
import SkySql.Pass.Session
import SkySql.Proofs.Scope
import SkySql.Proofs.Tree
import SkySql.Rotation
import SkySql.Statement.Decoder
import SkySql.Statement.Encoder
import SkySql.Statement.Select
import SkySql.Statement.Shape
import SkySql.Stcs.Reader
import SkySql.Text.Alphanumeric
import SkySql.Text.Blank
import SkySql.Text.Digit
import SkySql.Text.Letter
import SkySql.Text.Listing
import SkySql.Text.Quoted
import SkySql.Text.Ranges
import SkySql.Text.Uppercase
import SkySql.Proofs.Condition
import SkySql.Proofs.Acceptance
import SkySql.Proofs.Stcs.Grammar
import SkySql.Proofs.Stcs.Header
import SkySql.Proofs.Stcs.Literal
import SkySql.Proofs.Stcs.Pattern
import SkySql.Proofs.Stcs.LiteralPattern
import SkySql.Proofs.Stcs.Region
import SkySql.Proofs.Stcs.Nesting
import SkySql.Proofs.Stcs.Rereading
import SkySql.Proofs.Stcs.Faults
import SkySql.Proofs.Stcs.Reading
import SkySql.Proofs.Stcs.Guard
import SkySql.Proofs.Stcs.Printing
import SkySql.Proofs.Rendering
import SkySql.Proofs.Walk
import SkySql.Proofs.Exposure
import SkySql.Proofs.Warnings
import SkySql.Proofs.Index.Refinement
import SkySql.Proofs.Index.Eligibility
import SkySql.Proofs.Observation
import SkySql.Proofs.Finality
import SkySql.Proofs.Refusal
import SkySql.Proofs.Index.Spelling
import SkySql.Proofs.CoordinateSystem
import SkySql.Proofs.Codec.Statement
import SkySql.Proofs.Precedence.Lexer
import SkySql.Proofs.Precedence.Parser
import SkySql.Proofs.Precedence.Reading
import SkySql.Proofs.Lexical.Quoting
import SkySql.Proofs.Lexical.Scanner
import SkySql.Proofs.Lexical.Spelling
import SkySql.Proofs.Lexical.Soundness
import SkySql.Proofs.Index.Idempotence
import SkySql.Proofs.Polygon
import SkySql.Proofs.Joins
import SkySql.Proofs.Arithmetic.Reader
import SkySql.Proofs.Arithmetic.Grouping
import SkySql.Proofs.Reporting
import SkySql.Proofs.Verbatim.Containment
import SkySql.Proofs.Verbatim.Survival
import SkySql.Proofs.BoxCorners
import SkySql.Proofs.Session
import SkySql.Proofs.FrameName
