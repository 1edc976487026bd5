import Criteria.Bytes
import Criteria.Calendar
import Criteria.Evaluation
import Criteria.ExtendedJson
import Criteria.Failure
import Criteria.Host
import Criteria.Json
import Criteria.Json.Numeral
import Criteria.Json.Reader
import Criteria.Log
import Criteria.Log.Files
import Criteria.Log.Routing
import Criteria.Log.Variables
import Criteria.Number.Binary64
import Criteria.Number.Decimal128
import Criteria.Number.Numeral
import Criteria.Number.Rounding
import Criteria.Number.Shortest
import Criteria.Operator
import Criteria.Operator.Builtin
import Criteria.Operator.Library
import Criteria.Pattern
import Criteria.Pattern.Bracket
import Criteria.Pattern.Escape
import Criteria.Pattern.Footprint
import Criteria.Pattern.Form
import Criteria.Pattern.Matching
import Criteria.Pattern.Parser
import Criteria.Pattern.Syntax
import Criteria.Proofs.AbsentFields
import Criteria.Proofs.Accounting
import Criteria.Proofs.ByteOrder
import Criteria.Proofs.CanonicalForm
import Criteria.Proofs.CaptureNesting
import Criteria.Proofs.Comparisons
import Criteria.Proofs.Completions
import Criteria.Proofs.Connectives
import Criteria.Proofs.CopiedCounters
import Criteria.Proofs.DeepEquality
import Criteria.Proofs.DocumentLookup
import Criteria.Proofs.ExactOrder
import Criteria.Proofs.FieldClauses
import Criteria.Proofs.HostEffects
import Criteria.Proofs.Limits
import Criteria.Proofs.LogFiles
import Criteria.Proofs.LogJournal
import Criteria.Proofs.LogRouting
import Criteria.Proofs.LogSettings
import Criteria.Proofs.MeaningInvariance
import Criteria.Proofs.MixedOrder
import Criteria.Proofs.NamedKeys
import Criteria.Proofs.PatternCache
import Criteria.Proofs.Reconfiguration
import Criteria.Proofs.RegistryLineage
import Criteria.Proofs.Renaming
import Criteria.Proofs.SelfEquality
import Criteria.Proofs.TraceOrder
import Criteria.Proofs.TwoPhase
import Criteria.Proofs.WholePart
import Criteria.Registry
import Criteria.Session
import Criteria.Telemetry
import Criteria.Text.Quoted
import Criteria.Unicode.Age
import Criteria.Unicode.CaseFolding
import Criteria.Unicode.Category
import Criteria.Unicode.CharSet
import Criteria.Unicode.Encoding
import Criteria.Unicode.Lookup
import Criteria.Unicode.Property
import Criteria.Unicode.Script
import Criteria.Unicode.Segmentation
import Criteria.Value
import Criteria.Value.Comparison
import Criteria.Value.Text
