import RecordQuery.Main
import RecordQuery.Proofs.Agreement
import RecordQuery.Proofs.Faults
import RecordQuery.Proofs.Permission
import RecordQuery.Proofs.Confinement
import RecordQuery.Proofs.FilterPolicy
import RecordQuery.Proofs.Acceptance
import RecordQuery.Proofs.Blanks
import RecordQuery.Proofs.Shape
import RecordQuery.Proofs.Expressions
import RecordQuery.Proofs.Rendering
import RecordQuery.Proofs.Columns
import RecordQuery.Proofs.Requirements
import RecordQuery.Proofs.Spelling
import RecordQuery.Proofs.Refusals
import RecordQuery.Proofs.Denials
import RecordQuery.Proofs.ProjectedFields
import RecordQuery.Proofs.RequestDocuments
import RecordQuery.Proofs.SchemaDocuments
import RecordQuery.Proofs.LiteralPatterns
import RecordQuery.Proofs.TypedPredicates
import RecordQuery.Proofs.Walks
import RecordQuery.Proofs.IntegerLiterals
import RecordQuery.Proofs.CanonicalNames
import RecordQuery.Proofs.RequestNames
import RecordQuery.Proofs.LeafEnumeration
import RecordQuery.Proofs.LetterCase
import RecordQuery.Proofs.Negations
import RecordQuery.Proofs.DepthLimit
import RecordQuery.Proofs.FilterPlans
import RecordQuery.Proofs.RenamedKeys
import RecordQuery.Proofs.TimestampTexts
import RecordQuery.Proofs.CanonicalTexts
import RecordQuery.Proofs.Identifiers
import RecordQuery.Proofs.Variants
import RecordQuery.Proofs.NameReader
import RecordQuery.Proofs.QuotedNames
import RecordQuery.Proofs.PathIdentity
