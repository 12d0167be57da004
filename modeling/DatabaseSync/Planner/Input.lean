import DatabaseSync.ChangeEvent.Plan
import DatabaseSync.ChangeEvent.Validate
import DatabaseSync.Planner.LogicalType

/-! # Inputs and results of the compatibility planner

What a source says about a field, what a sink says about its capabilities, the options of a
route, and the plan that joins them. Serialization and SHA-256 are parameters, given as functions
of what is serialized.
-/

namespace DatabaseSync.Planner

open ChangeEvent Text

def compatibilityFormat : String := "cdc.change-event-compatibility.v0.1"

/-! ## Fields -/

structure FieldDefinition where
  reference : DefinitionReference
  ordinal : ℕ
  name : String
  nativeType : String
  logicalType : LogicalType
  nullable : Bool
  collation : Option String
  generated : Bool
  primaryKeyOrdinal : Option ℕ
  unique : Bool
  rowLocator : Bool
deriving DecidableEq

def FieldDefinition.isKeyLike (field : FieldDefinition) : Bool :=
  field.primaryKeyOrdinal.isSome || field.unique || field.rowLocator

structure SourceRepresentationTypeEvidence where
  sourceTypeIdentity : String
  protocol : String
  format : SourceRepresentationFormat
  typeMetadata : List (String × String)
  allowedContextMetadataKeys : List String
deriving DecidableEq, Repr

/-- A source connector's mapping of one native type. -/
structure SourceTypeMapping where
  connector : ConnectorIdentity
  nativeType : String
  logicalType : LogicalType
  mappingId : String
  mappingVersion : String
  evidenceDigest : Option String
  sourceDefinitionFingerprint : Option String
  sourceBuild : Option ServerBuildIdentity
  environmentFingerprint : Option String
  sourceRepresentationEvidence : Option SourceRepresentationTypeEvidence
  valueRepresentation : List (String × String)
deriving DecidableEq

/-! ## Capabilities of a sink -/

inductive RiskLevel
  | none
  | low
  | medium
  | high
  | critical
deriving DecidableEq, Repr

def RiskLevel.rank : RiskLevel → ℕ
  | none => 0
  | low => 1
  | medium => 2
  | high => 3
  | critical => 4

protected def RiskLevel.max (a b : RiskLevel) : RiskLevel := if a.rank ≤ b.rank then b else a

def qualificationRank : QualificationLevel → ℕ
  | .exact => 0
  | .rangeChecked => 1
  | .explicitConversion => 2
  | .unsupported => 3

inductive PresenceState
  | value
  | sourceRepresentation
  | null
  | unchanged
  | unavailable
  | generatedObservation
deriving DecidableEq, Repr

inductive OptionValueKind
  | boolean
  | integer
  | string
  | enum
deriving DecidableEq, Repr

structure OptionSpec where
  name : String
  valueKind : OptionValueKind
  required : Bool
  defaultValue : Option String
  allowedValues : List String
deriving DecidableEq, Repr

structure ConversionRule where
  id : String
  version : String
  qualification : QualificationLevel
  risk : RiskLevel
  riskCode : Option String
  requiresConfirmation : Bool
  options : List OptionSpec
  supportedOperations : List Operation
  supportedPresence : List PresenceState
  allowsKey : Bool
  failurePolicy : FailurePolicy
  evidenceDigest : String
deriving DecidableEq, Repr

def ConversionRule.reference (rule : ConversionRule) : RuleReference := ⟨rule.id, rule.version⟩

structure CapabilityEntry where
  code : String
  sourceLogicalType : LogicalType
  target : TargetRepresentation
  rule : ConversionRule
  supportedOperations : List Operation
  supportedPresence : List PresenceState
deriving DecidableEq

structure TargetCapabilityManifest where
  connector : ConnectorIdentity
  targetBuild : ServerBuildIdentity
  contract : String
  requiresPrimaryKey : Bool
  capabilities : List CapabilityEntry
  digest : String
deriving DecidableEq

/-! ## Preflight evidence -/

inductive CapabilityProbeStatus
  | detected
  | available
  | installed
  | qualified
  | missing
  | permissionDenied
  | incompatible
deriving DecidableEq, Repr

structure CapabilityProbeEntry where
  identity : String
  status : CapabilityProbeStatus
  version : Option String
  evidenceDigest : Option String
deriving DecidableEq, Repr

structure TargetColumnMetadata where
  definitionFingerprint : String
  nativeType : String
  typeOid : Option ℕ
  typmod : Option ℤ
  precision : Option ℕ
  scale : Option ℤ
  length : Option ℕ
  charset : Option String
  collation : Option String
  timezone : Option String
  domain : Option String
  extension : Option String
  constraints : List String
  indexes : List String
deriving DecidableEq, Repr

structure TargetSessionProfile where
  identity : String
  settings : List (String × String)
deriving DecidableEq, Repr

structure TargetCapabilityProbe where
  targetBuild : ServerBuildIdentity
  database : String
  table : String
  column : String
  columnMetadata : TargetColumnMetadata
  capabilities : List CapabilityProbeEntry
  extensions : List CapabilityProbeEntry
  session : TargetSessionProfile
  digest : String
deriving DecidableEq, Repr

/-! ## The planners' inputs -/

structure RouteOptions where
  routeId : String
  configurationRevision : String
  selectedRule : Option RuleReference
  parameters : List (String × String)
  confirmations : List RiskConfirmation
  targetProbe : Option TargetCapabilityProbe
deriving DecidableEq, Repr

def RouteOptions.targetProbeDigest (options : RouteOptions) : Option String :=
  options.targetProbe.map (·.digest)

/-- What both planners are given. -/
structure PlanningInput where
  sourceField : FieldDefinition
  targetField : FieldDefinition
  sourceTypeMapping : SourceTypeMapping
  sourceConnector : ConnectorIdentity
  sinkConnector : ConnectorIdentity
  sourceBuild : Option ServerBuildIdentity
  targetBuild : Option ServerBuildIdentity
  manifest : TargetCapabilityManifest
  options : RouteOptions

/-- The input of the planner that sees a transaction. -/
structure CompatibilityInput (library : ValidationLibrary) extends PlanningInput where
  transaction : ValidatedTransaction library

/-- The input of the planner that sees the catalogs alone. -/
structure FieldCompatibilityInput extends PlanningInput where
  operations : List Operation
  presences : List PresenceState
  sourceHasPrimaryKey : Bool

/-! ## Plans and results -/

structure TargetTypeCandidate where
  target : TargetRepresentation
  rule : RuleReference
  capabilityCode : String
  qualification : QualificationLevel
  risk : RiskLevel
  riskCode : Option String
  requiresConfirmation : Bool
deriving DecidableEq, Repr

structure LossAssessment where
  value : Bool
  comparison : Bool
  ordering : Bool
  constraints : Bool
  explanation : String
deriving DecidableEq, Repr

structure ConversionExample where
  source : String
  target : String
deriving DecidableEq, Repr

/-- A plan with the evidence that the sinks do not read. -/
structure ColumnConversionPlan extends ChangeEvent.ColumnConversionPlan where
  format : String
  sourceConnector : ConnectorIdentity
  sourceBuild : Option ServerBuildIdentity
  sourceMappingId : String
  sourceMappingVersion : String
  ruleDigest : String
  capabilityManifestDigest : String
  risk : RiskLevel
  riskCode : Option String
  loss : LossAssessment
  examples : List ConversionExample
  inputDigest : String
deriving DecidableEq, Repr

inductive FailureClass
  | changeEventValidation
  | sourceContract
  | invalidInput
  | targetCapability
  | missingConfirmation
  | staleInput
  | transientTarget
  | commitUnknown
deriving DecidableEq, Repr

inductive FailurePhase
  | inputValidation
  | sourceContract
  | capabilityQualification
  | planConstruction
  | conversion
  | locator
  | apply
  | commit
deriving DecidableEq, Repr

structure CompatibilityFailure where
  failureClass : FailureClass
  code : String
  phase : FailurePhase
  retry : RetryClassification
  message : String
deriving DecidableEq, Repr

def CompatibilityFailure.new (failureClass : FailureClass) (code : String) (phase : FailurePhase)
    (message : String) : CompatibilityFailure :=
  ⟨failureClass, code, phase, .notRetryable, message⟩

inductive CompatibilityError
  | invalidInput (failure : CompatibilityFailure)
  | sourceContract (failure : CompatibilityFailure)
  | targetCapability (failure : TargetCapabilityFailure)
  | staleInput (failure : CompatibilityFailure)
  | planInvalidated (failure : CompatibilityFailure)
deriving DecidableEq, Repr

inductive CompatibilityStatus
  | compatible
  | needsConfirmation
  | needsConfiguration
  | unsupported
  | blocked
  | stale
deriving DecidableEq, Repr

structure PlanSummary where
  inputDigest : String
  planDigest : String
  rule : RuleReference
  capabilityCode : String
deriving DecidableEq, Repr

structure CompatibilityResult where
  sourceField : DefinitionReference
  targetField : DefinitionReference
  status : CompatibilityStatus
  qualification : QualificationLevel
  risk : RiskLevel
  reasonCode : String
  explanation : String
  requiresConfirmation : Bool
  rule : Option RuleReference
  plan : Option ColumnConversionPlan
  candidates : List TargetTypeCandidate
  failure : Option CompatibilityFailure
  summary : Option PlanSummary
deriving DecidableEq, Repr

/-! ## Digests -/

structure ProbeDigestInput where
  targetBuild : ServerBuildIdentity
  database : String
  table : String
  column : String
  columnMetadata : TargetColumnMetadata
  capabilities : List CapabilityProbeEntry
  extensions : List CapabilityProbeEntry
  session : TargetSessionProfile

structure ManifestDigestInput where
  connector : ConnectorIdentity
  targetBuild : ServerBuildIdentity
  contract : String
  requiresPrimaryKey : Bool
  capabilities : List CapabilityEntry

structure PlanDigestInput where
  format : String
  routeId : String
  configurationRevision : String
  sourceField : DefinitionReference
  targetField : DefinitionReference
  sourceConnector : ConnectorIdentity
  sinkConnector : ConnectorIdentity
  sourceBuild : Option ServerBuildIdentity
  targetBuild : Option ServerBuildIdentity
  sourceMappingId : String
  sourceMappingVersion : String
  target : TargetRepresentation
  rule : RuleReference
  ruleDigest : String
  capabilityCode : String
  capabilityManifestDigest : String
  targetProbeDigest : Option String
  qualification : QualificationLevel
  risk : RiskLevel
  riskCode : Option String
  loss : LossAssessment
  examples : List ConversionExample
  locatorImpact : LocatorImpact
  parameters : List (String × String)
  failurePolicy : FailurePolicy
  inputDigest : String

structure ChangeShape where
  operation : Operation
  database : Option String
  schema : String
  table : String
  sourceCursor : SourceCursor
  sourceTimestamp : ℕ
  schemaBasis : String

structure TransactionShape where
  source : Source
  id : String
  beginCursor : SourceCursor
  commitCursor : SourceCursor
  changes : List ChangeShape

/-- The options without the confirmations. -/
structure RouteOptionsDigest where
  routeId : String
  configurationRevision : String
  selectedRule : Option RuleReference
  parameters : List (String × String)

/-- What the digests of both planners' inputs cover. -/
structure BindingDigest where
  sourceField : FieldDefinition
  targetField : FieldDefinition
  mapping : SourceTypeMapping
  sourceConnector : ConnectorIdentity
  sinkConnector : ConnectorIdentity
  sourceBuild : Option ServerBuildIdentity
  targetBuild : Option ServerBuildIdentity
  manifestDigest : String
  targetProbeDigest : Option String
  options : RouteOptionsDigest
  candidate : TargetTypeCandidate

structure InputDigest extends BindingDigest where
  transaction : TransactionShape

structure FieldInputDigest extends BindingDigest where
  operations : List Operation
  presences : List PresenceState

inductive DigestInput
  | probe (input : ProbeDigestInput)
  | manifest (input : ManifestDigestInput)
  | rule (rule : ConversionRule)
  | plan (input : PlanDigestInput)
  | transaction (input : InputDigest)
  | field (input : FieldInputDigest)

/-- Evidence that is written into a plan's parameters. -/
inductive Evidence
  | logicalType (logicalType : LogicalType)
  | metadata (entries : List (String × String))
  | names (names : List String)

/-- `digest_of`, `stable_digest` and `serde_json::to_string`. -/
structure DigestLibrary where
  digestOf : DigestInput → String
  stableDigest : Evidence → String
  toJson : Evidence → String

variable (library : DigestLibrary)

def TargetCapabilityProbe.computedDigest (probe : TargetCapabilityProbe) : String :=
  library.digestOf (.probe ⟨probe.targetBuild, probe.database, probe.table, probe.column,
    probe.columnMetadata, probe.capabilities, probe.extensions, probe.session⟩)

def TargetCapabilityProbe.verifyDigest (probe : TargetCapabilityProbe) : Bool :=
  !probe.digest.isEmpty && probe.digest == probe.computedDigest library

def TargetCapabilityManifest.computedDigest (manifest : TargetCapabilityManifest) : String :=
  library.digestOf (.manifest ⟨manifest.connector, manifest.targetBuild, manifest.contract,
    manifest.requiresPrimaryKey, manifest.capabilities⟩)

def TargetCapabilityManifest.verifyDigest (manifest : TargetCapabilityManifest) : Bool :=
  !manifest.digest.isEmpty && manifest.digest == manifest.computedDigest library

namespace ColumnConversionPlan

variable (plan : ColumnConversionPlan)

/-- The digest does not cover the confirmation state. -/
def digestInput : PlanDigestInput where
  format := plan.format
  routeId := plan.routeId
  configurationRevision := plan.configurationRevision
  sourceField := plan.sourceField
  targetField := plan.targetField
  sourceConnector := plan.sourceConnector
  sinkConnector := plan.sinkConnector
  sourceBuild := plan.sourceBuild
  targetBuild := plan.targetBuild
  sourceMappingId := plan.sourceMappingId
  sourceMappingVersion := plan.sourceMappingVersion
  target := plan.target
  rule := plan.rule
  ruleDigest := plan.ruleDigest
  capabilityCode := plan.capabilityCode
  capabilityManifestDigest := plan.capabilityManifestDigest
  targetProbeDigest := plan.targetProbeDigest
  qualification := plan.qualification
  risk := plan.risk
  riskCode := plan.riskCode
  loss := plan.loss
  examples := plan.examples
  locatorImpact := plan.locatorImpact
  parameters := plan.parameters
  failurePolicy := plan.failurePolicy
  inputDigest := plan.inputDigest

def computedDigest : String := library.digestOf (.plan plan.digestInput)

def verifyDigest : Bool := plan.planDigest == plan.computedDigest library

def confirmationMatches (confirmation : RiskConfirmation) : Bool :=
  confirmation.sourceFieldLineage == plan.sourceField.lineageId &&
    confirmation.targetFieldLineage == plan.targetField.lineageId &&
    confirmation.rule == plan.rule && confirmation.planDigest == plan.planDigest

/-- The plan with its digest filled in. -/
def sealed : ColumnConversionPlan := { plan with planDigest := plan.computedDigest library }

theorem planDigest_sealed :
    (plan.sealed library).planDigest = (plan.sealed library).computedDigest library := rfl

end ColumnConversionPlan

end DatabaseSync.Planner
