import FieldRules.Batch.Environment
import FieldRules.Codec.Fields
import FieldRules.Json.Writer
import FieldRules.Proofs.Batch.Validation
import FieldRules.Proofs.Batch.Order
import FieldRules.Proofs.Field.Validation
import FieldRules.Proofs.Field.Notation
import FieldRules.Proofs.Field.Order
import FieldRules.Proofs.Check.Parameter
import FieldRules.Proofs.Json.Document
import FieldRules.Proofs.Rule.Token
import FieldRules.Proofs.Codec.Record
import FieldRules.Proofs.Codec.Rules
import FieldRules.Proofs.Codec.Fields
import FieldRules.Proofs.Codec.Config
import FieldRules.Proofs.Codec.RoundTrip
import FieldRules.Proofs.Number.Reading
import FieldRules.Proofs.Number.ReadBack
import FieldRules.Proofs.Check.Agreement
import FieldRules.Proofs.Field.Verdict
import FieldRules.Proofs.Batch.Verdict
import FieldRules.Proofs.Field.Message
import FieldRules.Proofs.Number.Nearest
import FieldRules.Proofs.Number.Integer
import FieldRules.Proofs.Check.Magnitude
import FieldRules.Proofs.Json.Reader
import FieldRules.Proofs.Check.Membership
import FieldRules.Proofs.Message.Segmentation
import FieldRules.Proofs.Message.Scan
import FieldRules.Proofs.Field.Nullable
import FieldRules.Proofs.Check.Digits
import FieldRules.Proofs.Check.Timing
import FieldRules.Proofs.Calendar.Ambiguity
import FieldRules.Proofs.Rule.Printing
import FieldRules.Proofs.Rule.Form
import FieldRules.Proofs.Check.TextList
import FieldRules.Proofs.Check.Places
import FieldRules.Proofs.Check.Literal
import FieldRules.Proofs.Check.Interval
import FieldRules.Proofs.Codec.Setup
import FieldRules.Proofs.Batch.Word
import FieldRules.Proofs.Batch.Variable
import FieldRules.Proofs.Batch.Environment
import FieldRules.Proofs.Check.Wording
import FieldRules.Proofs.Check.Identifier
import FieldRules.Proofs.Check.Whole
