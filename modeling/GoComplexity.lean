import GoComplexity.Main
import GoComplexity.Proofs.Shape
import GoComplexity.Proofs.Traversal
import GoComplexity.Proofs.Expression
import GoComplexity.Proofs.Increment
import GoComplexity.Proofs.Conversion
import GoComplexity.Proofs.Numbering
import GoComplexity.Proofs.Address
import GoComplexity.Proofs.Scoping
import GoComplexity.Proofs.Binding
import GoComplexity.Proofs.Visibility
import GoComplexity.Proofs.Declaring
import GoComplexity.Proofs.Blanking
import GoComplexity.Proofs.Operand
import GoComplexity.Proofs.Decisions
import GoComplexity.Proofs.Locality
import GoComplexity.Proofs.Relabelling
import GoComplexity.Proofs.Variation
import GoComplexity.Proofs.VariedOutline
import GoComplexity.Proofs.VariedUnits
import GoComplexity.Proofs.Renaming
import GoComplexity.Proofs.Respacing
import GoComplexity.Proofs.Attachment
import GoComplexity.Proofs.Reading
import GoComplexity.Proofs.Agreement
import GoComplexity.Proofs.Independence
import GoComplexity.Proofs.Literal
import GoComplexity.Proofs.Reported
import GoComplexity.Proofs.Outcome
import GoComplexity.Proofs.Pool
import GoComplexity.Proofs.Workers
import GoComplexity.Proofs.Trailing
import GoComplexity.Proofs.Merging
import GoComplexity.Proofs.Precedence
import GoComplexity.Proofs.Scanning
import GoComplexity.Proofs.Accounting
import GoComplexity.Proofs.Typing
import GoComplexity.Proofs.Recursion
import GoComplexity.Proofs.Placement
import GoComplexity.Proofs.Frame
import GoComplexity.Proofs.Surrounding
import GoComplexity.Proofs.Grouping
import GoComplexity.Proofs.Unresolved
import GoComplexity.Proofs.Sorting
import GoComplexity.Proofs.Selection
import GoComplexity.Proofs.ExitCode
import GoComplexity.Proofs.Nesting
import GoComplexity.Proofs.SelfCalls
import GoComplexity.Proofs.Succession
import GoComplexity.Proofs.Documentation
import GoComplexity.Proofs.Faults
import GoComplexity.Proofs.Listing
import GoComplexity.Proofs.Relisting
import GoComplexity.Proofs.Handlers
import GoComplexity.Proofs.PlainLines
import GoComplexity.Proofs.JsonReport
import GoComplexity.Proofs.DisplayName
