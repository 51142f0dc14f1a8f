import Descent.Failure.Json
import Descent.Grammar.Arithmetic
import Descent.Grammar.Continuation
import Descent.Report
import Descent.Session
import Descent.Proofs.Boundary
import Descent.Proofs.Parts
import Descent.Proofs.Watch
import Descent.Proofs.Coupling
import Descent.Proofs.Similar
import Descent.Proofs.Contract
import Descent.Proofs.Success
import Descent.Proofs.Forward
import Descent.Proofs.Restore
import Descent.Proofs.Finish
import Descent.Proofs.Guarded
import Descent.Proofs.Depth
import Descent.Proofs.Passing
import Descent.Proofs.Termination
import Descent.Proofs.Position
import Descent.Proofs.Offset
import Descent.Proofs.Whole
import Descent.Proofs.Label
import Descent.Proofs.Rounds
import Descent.Proofs.Munch
import Descent.Proofs.Calculation
import Descent.Proofs.Arithmetic
import Descent.Proofs.Lossless
import Descent.Proofs.Spans
import Descent.Proofs.Locating
import Descent.Proofs.Safety
import Descent.Proofs.Limit
import Descent.Proofs.Unrolling
import Descent.Proofs.Tokens
import Descent.Proofs.Documents
import Descent.Proofs.Exchange
import Descent.Proofs.Choice
import Descent.Proofs.Counting
import Descent.Proofs.Pairs
import Descent.Proofs.Lexing
import Descent.Proofs.Integers
import Descent.Proofs.Decimals
import Descent.Proofs.Replies
import Descent.Proofs.Splitting
import Descent.Proofs.Loops
import Descent.Proofs.Recursion
import Descent.Proofs.Fields
import Descent.Proofs.Diagnostics
import Descent.Proofs.Nesting
import Descent.Proofs.Binding
import Descent.Proofs.Sequencing
import Descent.Proofs.Branches
import Descent.Proofs.Order
