import QueryGate.Gate.Answers
import QueryGate.Limits.Json
import QueryGate.Plugin.Builtin
import QueryGate.Proofs.Declaration
import QueryGate.Proofs.Resolution
import QueryGate.Proofs.Session
import QueryGate.Proofs.Consistency
import QueryGate.Proofs.Judgement
import QueryGate.Proofs.Filtering
import QueryGate.Proofs.Agreement
import QueryGate.Proofs.ByteQuery
import QueryGate.Proofs.Refusal
import QueryGate.Proofs.Registration
import QueryGate.Proofs.Closing
import QueryGate.Proofs.Governing
import QueryGate.Proofs.DeclarationOrder
import QueryGate.Proofs.Locality
import QueryGate.Proofs.AcceptAll
import QueryGate.Proofs.Reset
import QueryGate.Proofs.Brackets
import QueryGate.Proofs.RuleText
import QueryGate.Proofs.UnbalancedText
import QueryGate.Proofs.Keyed
import QueryGate.Proofs.Merging
import QueryGate.Proofs.ParsedPolicy
import QueryGate.Proofs.Loading
import QueryGate.Proofs.Concatenation
import QueryGate.Proofs.Numeral
import QueryGate.Proofs.RenderedConstraint
import QueryGate.Proofs.Rendering
import QueryGate.Proofs.Anchoring
import QueryGate.Proofs.NestedPatterns
import QueryGate.Proofs.Coverage
import QueryGate.Proofs.Decoding
import QueryGate.Proofs.KeptExpressions
import QueryGate.Proofs.Dispatch
import QueryGate.Proofs.BoundsShape
import QueryGate.Proofs.BoundsExpression
import QueryGate.Proofs.Ranges
import QueryGate.Proofs.Excess
import QueryGate.Proofs.GlobValues
import QueryGate.Proofs.BoundedStores
import QueryGate.Proofs.CanonicalPaths
import QueryGate.Proofs.SlotSets
import QueryGate.Proofs.LengthBounds
import QueryGate.Proofs.Cutting
import QueryGate.Proofs.OffsetReading
import QueryGate.Proofs.SegmentScan
import QueryGate.Proofs.Interning
