import StepTrace.Main
import StepTrace.Service
import StepTrace.Session
import StepTrace.Proofs.Effect
import StepTrace.Proofs.Machine
import StepTrace.Proofs.Machine.Simulation
import StepTrace.Proofs.Machine.Invariant
import StepTrace.Proofs.Trace.Explanation
import StepTrace.Proofs.Trace.Failure
import StepTrace.Proofs.Statement
import StepTrace.Proofs.Literal
import StepTrace.Proofs.Machine.Abort
import StepTrace.Proofs.Conversation.Chain
import StepTrace.Proofs.Conversation.Status
import StepTrace.Proofs.Grammar
import StepTrace.Proofs.Outline.Parts
import StepTrace.Proofs.Run.Mirror
import StepTrace.Proofs.Run.Pause
import StepTrace.Proofs.Text.Blank
import StepTrace.Proofs.Name
import StepTrace.Proofs.Numeral
import StepTrace.Proofs.Conversation.Transparency
import StepTrace.Proofs.Assignment
import StepTrace.Proofs.Run.Unrolling
import StepTrace.Proofs.Run.Expansion
import StepTrace.Proofs.Machine.Agreement
import StepTrace.Proofs.Trace.WellFormed
import StepTrace.Proofs.Service.Budget
import StepTrace.Proofs.Trace.Limits
import StepTrace.Proofs.Trace.Conservation
import StepTrace.Proofs.Machine.Relocation
import StepTrace.Proofs.Run.Composition
import StepTrace.Proofs.Presentable
import StepTrace.Proofs.Trace.Places
import StepTrace.Proofs.Trace.Presentable
import StepTrace.Proofs.Conversation.Order
import StepTrace.Proofs.Service.Protocol
import StepTrace.Proofs.Token.Extent
import StepTrace.Proofs.Grammar.Columns
import StepTrace.Proofs.Token.Parts
import StepTrace.Proofs.Grammar.Phrase
import StepTrace.Proofs.Statement.Shapes
import StepTrace.Proofs.Run.Correspondence
import StepTrace.Proofs.Run.Insertion
import StepTrace.Proofs.Statement.Places
import StepTrace.Proofs.Run.Layout
import StepTrace.Proofs.Run.Foreign
import StepTrace.Proofs.Typing
import StepTrace.Proofs.Binary64.Shortest
import StepTrace.Proofs.Answer.Printed
import StepTrace.Proofs.Answer.Pattern
import StepTrace.Proofs.Assignment.Restated
import StepTrace.Proofs.Token.Pattern
import StepTrace.Proofs.Token.Coverage
import StepTrace.Proofs.Grammar.Turns
import StepTrace.Proofs.Grammar.Refusal
import StepTrace.Proofs.Command.Modes
import StepTrace.Proofs.Outline.Extraction
import StepTrace.Proofs.Grammar.Descent
import StepTrace.Proofs.Grammar.Descent.Chains
import StepTrace.Proofs.Grammar.Descent.Operands
import StepTrace.Proofs.Statement.Descent
