import Stepwise.Main
import Stepwise.Proofs.Agreement
import Stepwise.Proofs.Assigned
import Stepwise.Proofs.Balance
import Stepwise.Proofs.Binding
import Stepwise.Proofs.Branch
import Stepwise.Proofs.Caught
import Stepwise.Proofs.Chain
import Stepwise.Proofs.Circular
import Stepwise.Proofs.Consistent
import Stepwise.Proofs.Contained
import Stepwise.Proofs.Depth
import Stepwise.Proofs.Descent
import Stepwise.Proofs.Divisor
import Stepwise.Proofs.Drawn
import Stepwise.Proofs.Endless
import Stepwise.Proofs.Equality
import Stepwise.Proofs.Equivalence
import Stepwise.Proofs.Escaping
import Stepwise.Proofs.Fetched
import Stepwise.Proofs.Handling
import Stepwise.Proofs.Header
import Stepwise.Proofs.Highlighting
import Stepwise.Proofs.Jump
import Stepwise.Proofs.Label
import Stepwise.Proofs.Layout
import Stepwise.Proofs.Lexicographic
import Stepwise.Proofs.LineEnds
import Stepwise.Proofs.Loops
import Stepwise.Proofs.Members
import Stepwise.Proofs.Normal
import Stepwise.Proofs.OneLine
import Stepwise.Proofs.Placing
import Stepwise.Proofs.Precedence
import Stepwise.Proofs.Radix
import Stepwise.Proofs.Range
import Stepwise.Proofs.Removal
import Stepwise.Proofs.Renaming
import Stepwise.Proofs.Residue
import Stepwise.Proofs.Resolution
import Stepwise.Proofs.RoundTrip
import Stepwise.Proofs.Selection
import Stepwise.Proofs.SetAlgebra
import Stepwise.Proofs.Sorting
import Stepwise.Proofs.Span
import Stepwise.Proofs.Splice
import Stepwise.Proofs.Tables
import Stepwise.Proofs.Transparent
import Stepwise.Proofs.Viewing
import Stepwise.Trace.Read
import Stepwise.Trace.Request
