import Repricing.Action
import Repricing.Binary64.Basic
import Repricing.Binary64.Shortest
import Repricing.CommandLine.Arguments
import Repricing.CommandLine.Run
import Repricing.CommandLine.Summary
import Repricing.Condition.Basic
import Repricing.Condition.Holds
import Repricing.Condition.Reader
import Repricing.Context
import Repricing.Decimal.Arithmetic
import Repricing.Decimal.Basic
import Repricing.Decimal.Quotient
import Repricing.Decimal.Text
import Repricing.Decimal.Wire
import Repricing.Document.Decoder
import Repricing.Document.Error
import Repricing.Document.Record
import Repricing.Event
import Repricing.Files
import Repricing.Guardrail.Band
import Repricing.Guardrail.Enforce
import Repricing.Guardrail.Result
import Repricing.Json.Basic
import Repricing.Json.Printer
import Repricing.Json.Reader
import Repricing.Log.Basic
import Repricing.Log.Reader
import Repricing.Main
import Repricing.Matching
import Repricing.Policy
import Repricing.Policy.Resolve
import Repricing.Policy.Settings
import Repricing.Proofs.Binary64.Shortest
import Repricing.Proofs.Binary64.Text
import Repricing.Proofs.Condition.Grammar
import Repricing.Proofs.Condition.Holds
import Repricing.Proofs.Condition.Pruning
import Repricing.Proofs.Condition.Reader
import Repricing.Proofs.Condition.RoundTrip
import Repricing.Proofs.Context
import Repricing.Proofs.Decimal.Arithmetic
import Repricing.Proofs.Decimal.Cents
import Repricing.Proofs.Decimal.Quotient
import Repricing.Proofs.Decimal.Reading
import Repricing.Proofs.Decimal.Rounded
import Repricing.Proofs.Decimal.Scale
import Repricing.Proofs.Decimal.Shown
import Repricing.Proofs.Decimal.Text
import Repricing.Proofs.Decimal.Value
import Repricing.Proofs.Decimal.Wire
import Repricing.Proofs.Document.Action
import Repricing.Proofs.Document.Arrangement
import Repricing.Proofs.Document.Legible
import Repricing.Proofs.Document.Parts
import Repricing.Proofs.Document.Record
import Repricing.Proofs.Document.RoundTrip
import Repricing.Proofs.Evaluation.Basic
import Repricing.Proofs.Evaluation.Direction
import Repricing.Proofs.Evaluation.Errors
import Repricing.Proofs.Evaluation.Independence
import Repricing.Proofs.Evaluation.PriceMatch
import Repricing.Proofs.Evaluation.Relevance
import Repricing.Proofs.Guardrail.Band
import Repricing.Proofs.Guardrail.Blocked
import Repricing.Proofs.Guardrail.Bounds
import Repricing.Proofs.Guardrail.Chain
import Repricing.Proofs.Guardrail.ClosedForm
import Repricing.Proofs.Guardrail.Direction
import Repricing.Proofs.Guardrail.Idempotence
import Repricing.Proofs.Guardrail.Limits
import Repricing.Proofs.Guardrail.Line
import Repricing.Proofs.Guardrail.Margin
import Repricing.Proofs.Guardrail.Monotone
import Repricing.Proofs.Guardrail.Nearest
import Repricing.Proofs.Guardrail.Reapproval
import Repricing.Proofs.Guardrail.Reasons
import Repricing.Proofs.Guardrail.Run
import Repricing.Proofs.Guardrail.Scale
import Repricing.Proofs.Guardrail.Steps
import Repricing.Proofs.Guardrail.Unguarded
import Repricing.Proofs.Guardrail.Widening
import Repricing.Proofs.Json.Distinct
import Repricing.Proofs.Json.Number
import Repricing.Proofs.Json.Sorted
import Repricing.Proofs.Json.Spelling
import Repricing.Proofs.Json.Token
import Repricing.Proofs.Json.Written
import Repricing.Proofs.Margin
import Repricing.Proofs.Multiple
import Repricing.Proofs.Percent
import Repricing.Proofs.Policy.Resolve
import Repricing.Proofs.Rounding
import Repricing.Proofs.RuleSet.Check
import Repricing.Proofs.RuleSet.Schema
import Repricing.Proofs.Snap
import Repricing.Proofs.Snap.Accuracy
import Repricing.Proofs.Snap.Order
import Repricing.Proofs.Traversal
import Repricing.Recommendation
import Repricing.Rounding
import Repricing.RoundingMode
import Repricing.Rule
import Repricing.RuleSet.Check
import Repricing.RuleSet.Schema
import Repricing.Session
import Repricing.Synthesis
import Repricing.Text.Character
import Repricing.Text.Pattern
import Repricing.Text.Printable
import Repricing.Toml.Moment
import Repricing.Toml.Number
import Repricing.Toml.Quoted
import Repricing.Toml.Reader
import Repricing.Value
