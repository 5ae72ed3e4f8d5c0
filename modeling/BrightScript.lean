import BrightScript.Arithmetic
import BrightScript.Builtin
import BrightScript.Callable
import BrightScript.Chunk
import BrightScript.Chunk.Reader
import BrightScript.Chunk.Selection
import BrightScript.Coercion
import BrightScript.CommandLine
import BrightScript.Fault
import BrightScript.Heap
import BrightScript.Kind
import BrightScript.Location
import BrightScript.Machine.Call
import BrightScript.Machine.Evaluate
import BrightScript.Machine.Execute
import BrightScript.Machine.Flow
import BrightScript.Machine.State
import BrightScript.Main
import BrightScript.Manifest
import BrightScript.Number.Decimal
import BrightScript.Number.Dyadic
import BrightScript.Number.General
import BrightScript.Number.Radix
import BrightScript.Object.Access
import BrightScript.Object.Method
import BrightScript.Operator
import BrightScript.Output
import BrightScript.Proofs.Agreement
import BrightScript.Proofs.Associative
import BrightScript.Proofs.Bases
import BrightScript.Proofs.Binding
import BrightScript.Proofs.Calls
import BrightScript.Proofs.Canonical
import BrightScript.Proofs.Casing
import BrightScript.Proofs.Cleaning
import BrightScript.Proofs.Comparing
import BrightScript.Proofs.Composition
import BrightScript.Proofs.Compounds
import BrightScript.Proofs.Confinement
import BrightScript.Proofs.Construction
import BrightScript.Proofs.Contents
import BrightScript.Proofs.Conversion
import BrightScript.Proofs.Counting
import BrightScript.Proofs.Cursor
import BrightScript.Proofs.Decimals
import BrightScript.Proofs.Designators
import BrightScript.Proofs.Dimensions
import BrightScript.Proofs.Directives
import BrightScript.Proofs.Doubles
import BrightScript.Proofs.EditedHeap
import BrightScript.Proofs.EditedSteps
import BrightScript.Proofs.Edits
import BrightScript.Proofs.Ending
import BrightScript.Proofs.Evaluation
import BrightScript.Proofs.Execution
import BrightScript.Proofs.Extents
import BrightScript.Proofs.Frames
import BrightScript.Proofs.FunctionOrigins
import BrightScript.Proofs.Functions
import BrightScript.Proofs.GrammarOwnTokens
import BrightScript.Proofs.GrammarRuns
import BrightScript.Proofs.Grids
import BrightScript.Proofs.Handling
import BrightScript.Proofs.Hoisting
import BrightScript.Proofs.Indexing
import BrightScript.Proofs.Integers
import BrightScript.Proofs.Lines
import BrightScript.Proofs.Locations
import BrightScript.Proofs.Manifests
import BrightScript.Proofs.Naming
import BrightScript.Proofs.NearestDouble
import BrightScript.Proofs.Numerals
import BrightScript.Proofs.Overloads
import BrightScript.Proofs.OwnTokens
import BrightScript.Proofs.ParserRuns
import BrightScript.Proofs.Partition
import BrightScript.Proofs.Passages
import BrightScript.Proofs.Precedence
import BrightScript.Proofs.Prefixes
import BrightScript.Proofs.Progress
import BrightScript.Proofs.Quoting
import BrightScript.Proofs.Reading
import BrightScript.Proofs.Recovery
import BrightScript.Proofs.Rendering
import BrightScript.Proofs.RestyledHeap
import BrightScript.Proofs.Rounding
import BrightScript.Proofs.Scoping
import BrightScript.Proofs.Selection
import BrightScript.Proofs.Sessions
import BrightScript.Proofs.Simulation
import BrightScript.Proofs.Spelling
import BrightScript.Proofs.Stores
import BrightScript.Proofs.Streaming
import BrightScript.Proofs.Termination
import BrightScript.Proofs.TokensRead
import BrightScript.Proofs.Trimming
import BrightScript.Proofs.Unplaced
import BrightScript.Proofs.Untaken
import BrightScript.Proofs.Vetted
import BrightScript.Proofs.WellFormed
import BrightScript.Scalar
import BrightScript.Session
import BrightScript.Source
import BrightScript.Table
import BrightScript.Text.Blank
import BrightScript.Text.Case
import BrightScript.Text.CaseTable
import BrightScript.Text.Escape
import BrightScript.Text.Fold
import BrightScript.Text.Printable
import BrightScript.Text.Quoted
import BrightScript.Text.Ranges
import BrightScript.Text.Split
import BrightScript.Token
import BrightScript.Token.Lexer
import BrightScript.Tree
import BrightScript.Tree.Cursor
import BrightScript.Tree.Expression
import BrightScript.Tree.Statement
import BrightScript.Value
