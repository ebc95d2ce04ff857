import OperandStack.Error
import OperandStack.Stack.Basic
import OperandStack.Stack.Lemmas
import OperandStack.Stack.Drain
import OperandStack.Stack.Text
import OperandStack.Stack.Allocation
import OperandStack.Op
import OperandStack.Traversal.Basic
import OperandStack.Traversal.Lemmas
import OperandStack.Call
import OperandStack.Program
import OperandStack.Text.Visibility
import OperandStack.Text.Quoted
import OperandStack.Text.Layout
import OperandStack.Text.Inspect
import OperandStack.Decimal.Basic
import OperandStack.Decimal.Text
import OperandStack.Double.Rounding
import OperandStack.Double.Basic
import OperandStack.Double.Shortest
import OperandStack.Double.Text
import OperandStack.Double.Scale
import OperandStack.Value
import OperandStack.Literal
import OperandStack.Config.Basic
import OperandStack.Config.Reading
import OperandStack.Config.Source
import OperandStack.Toml.Token
import OperandStack.Toml.Number
import OperandStack.Toml.Statement
import OperandStack.Toml.Document
import OperandStack.Session
import OperandStack.Proofs.StackEffect
import OperandStack.Proofs.Run
import OperandStack.Proofs.Spelling
import OperandStack.Proofs.Refusal
import OperandStack.Proofs.Locality
import OperandStack.Proofs.Matching
import OperandStack.Proofs.StaticDepth
import OperandStack.Proofs.Conservation
import OperandStack.Proofs.Dispatch
import OperandStack.Proofs.Relabelling
import OperandStack.Proofs.Quotation
import OperandStack.Proofs.NearestRank
import OperandStack.Proofs.FewestDigits
import OperandStack.Proofs.DigitText
import OperandStack.Proofs.Description
import OperandStack.Proofs.FirstOffence
import OperandStack.Proofs.Rearrangement
import OperandStack.Proofs.Application
import OperandStack.Proofs.Scanning
import OperandStack.Proofs.WrittenLine
import OperandStack.Proofs.WrittenDocument
import OperandStack.Proofs.Routes
import OperandStack.Proofs.Embedding
import OperandStack.Proofs.Observation
import OperandStack.Proofs.Rewriting
import OperandStack.Proofs.Turns
import OperandStack.Proofs.Chunks
import OperandStack.Proofs.Window
import OperandStack.Proofs.Readout
import OperandStack.Proofs.Shapes
import OperandStack.Proofs.PlainText
import OperandStack.Proofs.Inspection
import OperandStack.Proofs.FailureText
import OperandStack.Proofs.WordArithmetic
import OperandStack.Proofs.Peephole
