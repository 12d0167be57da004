import DatabaseSync.ChangeEvent.Failure
import DatabaseSync.ChangeEvent.Model

/-! # Column conversion plans

The saved decision how the values of one source column are represented in its target column.
-/

namespace DatabaseSync.ChangeEvent

structure DefinitionReference where
  lineageId : String
  schemaFingerprint : String
deriving DecidableEq, Repr

structure TargetRepresentation where
  nativeType : String
  parameters : List (String × String)
deriving DecidableEq, Repr

structure RuleReference where
  id : String
  version : String
deriving DecidableEq, Repr

inductive QualificationLevel
  | exact
  | rangeChecked
  | explicitConversion
  | unsupported
deriving DecidableEq, Repr

inductive LocatorImpact
  | preserved
  | notUsed
  | valueOnly
  | blocked
deriving DecidableEq, Repr

inductive PlanConfirmationState
  | notRequired
  | required
  | confirmed
deriving DecidableEq, Repr

inductive FailurePolicy
  | reject
  | retryTransaction
  | resolveCommitUnknown
deriving DecidableEq, Repr

structure ColumnConversionPlan where
  routeId : String
  configurationRevision : String
  sourceField : DefinitionReference
  targetField : DefinitionReference
  sinkConnector : ConnectorIdentity
  targetBuild : Option ServerBuildIdentity
  target : TargetRepresentation
  rule : RuleReference
  capabilityCode : String
  targetProbeDigest : Option String
  qualification : QualificationLevel
  locatorImpact : LocatorImpact
  confirmation : PlanConfirmationState
  parameters : List (String × String)
  failurePolicy : FailurePolicy
  planDigest : String
deriving DecidableEq, Repr

/-- The user's acceptance of the risk of one plan. -/
structure RiskConfirmation where
  sourceFieldLineage : String
  targetFieldLineage : String
  rule : RuleReference
  planDigest : String
  actor : String
  confirmedAt : String
  reason : Option String
deriving DecidableEq, Repr

namespace ColumnConversionPlan

variable (plan : ColumnConversionPlan)

/-- The digest over all fields but the digest itself is a parameter. -/
def verifyDigest (computedDigest : ColumnConversionPlan → String) : Bool :=
  plan.planDigest == computedDigest plan

/-- The failure of a check on the plan. -/
def failure (code message : String) : TargetCapabilityFailure where
  code := code
  routeId := some plan.routeId
  planDigest := some plan.planDigest
  cause := sanitizeCause message

/-- `plan.parameters.get(name).or_else(|| plan.target.parameters.get(name))` -/
def parameter (name : String) : Option String :=
  plan.parameters.lookup name <|> plan.target.parameters.lookup name

/-- `target.parameters.get("conversion_kind")` -/
def conversionKind : Option String := plan.target.parameters.lookup "conversion_kind"

/-- A plan with the given parameters, for examples. -/
def sample (targetParameters parameters : List (String × String)) : ColumnConversionPlan where
  routeId := "orders"
  configurationRevision := "1"
  sourceField := ⟨"catalog:shop.orders.code", "source-field"⟩
  targetField := ⟨"catalog:shop.orders.code", "target-field"⟩
  sinkConnector := ⟨"postgresql", "15"⟩
  targetBuild := none
  target := ⟨"text", targetParameters⟩
  rule := ⟨"explicit", "1"⟩
  capabilityCode := "postgresql.explicit"
  targetProbeDigest := none
  qualification := .explicitConversion
  locatorImpact := .preserved
  confirmation := .confirmed
  parameters := parameters
  failurePolicy := .reject
  planDigest := "plan"

end ColumnConversionPlan

end DatabaseSync.ChangeEvent
