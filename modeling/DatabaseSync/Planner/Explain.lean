import DatabaseSync.Planner.Check
import Mathlib.Data.List.Sort

/-! # The compatibility planners

One planner looks at a validated transaction, the other at the catalogs alone. Both filter the
capabilities of the sink's manifest, choose one candidate, build its plan and look for a
confirmation. An early return of the source is an error with the result.
-/

namespace DatabaseSync.Planner

open ChangeEvent Text TargetRepresentation

/-! ## Candidates -/

/-- The order by qualification, risk and capability code. -/
def TargetTypeCandidate.before (a b : TargetTypeCandidate) : Bool :=
  if qualificationRank a.qualification ≠ qualificationRank b.qualification then
    qualificationRank a.qualification < qualificationRank b.qualification
  else if a.risk.rank ≠ b.risk.rank then a.risk.rank < b.risk.rank
  else a.capabilityCode ≤ b.capabilityCode

def explicitCarrierCandidate (candidate : TargetTypeCandidate) : Bool :=
  conversionKind candidate.target == some "logical_value_json" ||
    conversionKind candidate.target == some "source_representation"

/-- The only exact candidate next to carriers. -/
def preferredExactNativeCandidate (candidates : List TargetTypeCandidate) : Option ℕ := do
  let index ← candidates.findIdx? fun candidate =>
    candidate.qualification == .exact && !explicitCarrierCandidate candidate
  if candidates.zipIdx.all fun (candidate, other) =>
      other == index || explicitCarrierCandidate candidate then some index else none

namespace PlanningInput

variable (x : PlanningInput)

/-- The filters on one capability. -/
def eligible (operations : List Operation) (presences : List PresenceState)
    (capability : CapabilityEntry) : Bool :=
  x.options.selectedRule.all (fun selected =>
      selected.id == capability.rule.id && selected.version == capability.rule.version) &&
    (capabilityMatchesSource capability x.sourceField.logicalType &&
      capability.rule.qualification != .unsupported) &&
    probeQualifiesCapability x.options.targetProbe capability &&
    targetRepresentationMatchesBinding capability x.targetField &&
    supportsDeclared capability.supportedOperations capability.rule.supportedOperations
      operations &&
    supportsDeclared capability.supportedPresence capability.rule.supportedPresence presences &&
    !(x.sourceField.isKeyLike && !capability.rule.allowsKey) &&
    exactCandidateMatchesBinding capability x.sourceField x.targetField &&
    explicitTemplateMatchesBinding capability x.sourceField x.targetField x.options.selectedRule
      x.sourceTypeMapping.sourceRepresentationEvidence.isSome &&
    x.sourceField.generated == x.targetField.generated &&
    !(x.sourceField.nullable && !x.targetField.nullable) &&
    (!isRangeTemplate capability || x.sourceField.logicalType != x.targetField.logicalType)

/-- A difference of collations raises the risk and asks for a confirmation. -/
def candidate (collationMismatch : Bool) (capability : CapabilityEntry) : TargetTypeCandidate where
  target := candidateTarget capability x.targetField
  rule := capability.rule.reference
  capabilityCode := capability.code
  qualification := capability.rule.qualification
  risk := if collationMismatch then capability.rule.risk.max .high else capability.rule.risk
  riskCode :=
    if collationMismatch then some "common.collation_semantics_target" else capability.rule.riskCode
  requiresConfirmation := capability.rule.requiresConfirmation ||
    capability.rule.qualification == .explicitConversion || collationMismatch

def candidates (operations : List Operation) (presences : List PresenceState)
    (collationMismatch : Bool) : List TargetTypeCandidate :=
  ((x.manifest.capabilities.filter (x.eligible operations presences)).map
    (x.candidate collationMismatch)).insertionSort fun a b => a.before b = true

theorem mem_candidates {operations : List Operation} {presences : List PresenceState}
    {collationMismatch : Bool} {candidate : TargetTypeCandidate} :
    candidate ∈ x.candidates operations presences collationMismatch ↔
      ∃ capability ∈ x.manifest.capabilities, x.eligible operations presences capability = true ∧
        x.candidate collationMismatch capability = candidate := by
  simp [candidates, List.mem_insertionSort, and_assoc]

/-! ## Results without a plan -/

def refusal (status : CompatibilityStatus) (qualification : QualificationLevel) (risk : RiskLevel)
    (code message : String) (requiresConfirmation : Bool) (rule : Option RuleReference)
    (candidates : List TargetTypeCandidate) (failureClass : FailureClass) (phase : FailurePhase) :
    CompatibilityResult where
  sourceField := x.sourceField.reference
  targetField := x.targetField.reference
  status := status
  qualification := qualification
  risk := risk
  reasonCode := code
  explanation := message
  requiresConfirmation := requiresConfirmation
  rule := rule
  plan := none
  candidates := candidates
  failure := some (.new failureClass code phase message)
  summary := none

/-- `field_result` without a plan. -/
def fieldResult (status : CompatibilityStatus) (qualification : QualificationLevel)
    (risk : RiskLevel) (code message : String) (candidates : List TargetTypeCandidate)
    (failureClass : FailureClass) (phase : FailurePhase) : CompatibilityResult :=
  x.refusal status qualification risk code message (candidates.any (·.requiresConfirmation))
    (candidates.head?.map (·.rule)) candidates failureClass phase

/-- A check that blocks the field before any candidate is looked at. -/
def blocked (code message : String) : CompatibilityResult :=
  x.fieldResult .blocked .unsupported .critical code message [] .targetCapability
    .capabilityQualification

/-- An entry for the key would be there if it allowed keys. -/
def lossyKeyCapability : Bool :=
  x.sourceField.isKeyLike && x.manifest.capabilities.any fun capability =>
    capabilityMatchesSource capability x.sourceField.logicalType &&
      targetRepresentationMatchesBinding capability x.targetField && !capability.rule.allowsKey

/-- Why a type of the family has no representation. -/
def unsupportedReason : LogicalType → CompatibilityStatus × String × String
  | .binary _ => (.unsupported, "target_capability.binary_representation_missing",
    "no qualified raw-byte target exists; binary values are never silently encoded as text")
  | .bitString _ | .variableBitString _ =>
    (.unsupported, "target_capability.bit_string_representation_missing",
      "no qualified bit-string target declares length, padding, and bit order")
  | .spatial .. => (.blocked, "target_capability.spatial_metadata_or_capability_missing",
    "spatial conversion requires qualified SRID, CRS, geometry type, dimensions, format, and " ++
      "target capability")
  | .array _ | .struct _ | .map .. | .range _ | .multiRange _ =>
    (.unsupported, "target_capability.recursive_structure_unqualified",
      "recursive or structured values require an explicit element/field/key/range mapping rule")
  | _ => (.unsupported, "target_capability.no_qualified_representation",
    "no qualified target representation matches this source semantic")

def noCandidate (keyBlocked : Bool) : CompatibilityResult :=
  let (status, code, message) : CompatibilityStatus × String × String :=
    if keyBlocked then (.blocked, "target_capability.lossy_key_conversion",
      "a key or Row Locator field cannot use a lossy conversion")
    else if spatialNativeSemanticsMismatch x.sourceField x.targetField then
      (.blocked, "target_capability.spatial_geodetic_planar_mismatch",
        "geography uses geodetic coordinates while geometry uses planar coordinates; select a " ++
          "qualified explicit conversion or a value-preserving carrier")
    else unsupportedReason x.sourceField.logicalType
  x.fieldResult status .unsupported (if keyBlocked then .critical else .high) code message []
    .targetCapability .capabilityQualification

/-! ## The choice of a candidate -/

/-- The candidate that is taken, unless there are several or a carrier has not been selected. -/
def selectCandidate (candidates : List TargetTypeCandidate) (noCandidate : CompatibilityResult)
    (ambiguous : TargetTypeCandidate → String → String → CompatibilityResult) :
    Except CompatibilityResult { candidate // candidate ∈ candidates } :=
  match candidates with
  | [] => .error noCandidate
  | first :: rest =>
    let preferred := preferredExactNativeCandidate (first :: rest)
    if (!rest.isEmpty && preferred.isNone) || (x.options.selectedRule.isNone &&
        (first :: rest).all explicitCarrierCandidate) then
      if rest.isEmpty then
        .error (ambiguous first "target_capability.explicit_carrier_selection_required"
          "the target carrier requires an explicit selection")
      else
        .error (ambiguous first "target_capability.multiple_candidates"
          "multiple qualified target representations require an explicit rule selection")
    else
      match h : (first :: rest)[preferred.getD 0]? with
      | some candidate => .ok ⟨candidate, List.mem_of_getElem? h⟩
      | none => .ok ⟨first, List.mem_cons_self⟩

/-- The first entry with the candidate's code, which a candidate of the manifest has. -/
def capabilityOf {operations : List Operation} {presences : List PresenceState}
    {collationMismatch : Bool} (candidate : TargetTypeCandidate)
    (h : candidate ∈ x.candidates operations presences collationMismatch) : CapabilityEntry :=
  (x.manifest.capabilities.find? (·.code == candidate.capabilityCode)).get (by
    obtain ⟨capability, hcapability, -, rfl⟩ := x.mem_candidates.mp h
    exact List.find?_isSome.mpr ⟨capability, hcapability, beq_self_eq_true _⟩)

/-- The options of the rule, with the parameters of an explicit conversion checked when none is
missing. -/
def checkedOptions (capability : CapabilityEntry) : NormalizedOptions :=
  let options := normalizeOptions capability.rule x.options.parameters
  if options.missing.isEmpty then
    match validateExplicitParameters capability.target x.sourceField x.targetField
        options.parameters with
    | .ok () => options
    | .error reason => { options with invalid := options.invalid ++ [reason] }
  else options

/-- The parameters of the plan. -/
def checkParameters (candidate : TargetTypeCandidate) (capability : CapabilityEntry) :
    Except CompatibilityResult (List (String × String)) :=
  let options := x.checkedOptions capability
  if !options.invalid.isEmpty then
    .error (x.fieldResult .blocked candidate.qualification candidate.risk
      "target_capability.invalid_parameters"
      ("conversion parameters are invalid: " ++ String.intercalate ", " options.invalid)
      [candidate] .invalidInput .planConstruction)
  else if !options.missing.isEmpty then
    .error (x.fieldResult .needsConfiguration candidate.qualification candidate.risk
      "target_capability.missing_parameters"
      ("required conversion parameters are missing: " ++ String.intercalate ", " options.missing)
      [candidate] .missingConfirmation .planConstruction)
  else .ok options.parameters

/-! ## Plans -/

/-- What the digest of either input covers. -/
def bindingDigest (candidate : TargetTypeCandidate) (parameters : List (String × String)) :
    BindingDigest where
  sourceField := x.sourceField
  targetField := x.targetField
  mapping := x.sourceTypeMapping
  sourceConnector := x.sourceConnector
  sinkConnector := x.sinkConnector
  sourceBuild := x.sourceBuild
  targetBuild := x.targetBuild
  manifestDigest := x.manifest.digest
  targetProbeDigest := x.options.targetProbeDigest
  options := ⟨x.options.routeId, x.options.configurationRevision, x.options.selectedRule,
    parameters⟩
  candidate := candidate

/-- The native types of both columns are planning parameters. -/
def planTarget (library : DigestLibrary) (candidate : TargetTypeCandidate)
    (planningParameters : List (String × String)) : TargetRepresentation :=
  let planningParameters := insertEntry "target_native_type" x.targetField.nativeType
    (insertEntry "source_native_type" x.sourceField.nativeType planningParameters)
  bindCollations
    (bindSourceRepresentationEvidence library
      (planTargetRepresentation library candidate.target planningParameters
        x.sourceField.logicalType x.targetField.logicalType)
      x.sourceField x.sourceTypeMapping)
    x.sourceField x.targetField

def assemblePlan (library : DigestLibrary) (candidate : TargetTypeCandidate) (rule : ConversionRule)
    (parameters : List (String × String)) (target : TargetRepresentation) (inputDigest : String) :
    ColumnConversionPlan :=
  ColumnConversionPlan.sealed library
    { format := compatibilityFormat
      routeId := x.options.routeId
      configurationRevision := x.options.configurationRevision
      sourceField := x.sourceField.reference
      targetField := x.targetField.reference
      sourceConnector := x.sourceConnector
      sinkConnector := x.sinkConnector
      sourceBuild := x.sourceBuild
      targetBuild := x.targetBuild
      sourceMappingId := x.sourceTypeMapping.mappingId
      sourceMappingVersion := x.sourceTypeMapping.mappingVersion
      target := target
      rule := candidate.rule
      ruleDigest := library.digestOf (.rule rule)
      capabilityCode := candidate.capabilityCode
      capabilityManifestDigest := x.manifest.digest
      targetProbeDigest := x.options.targetProbeDigest
      qualification := candidate.qualification
      risk := candidate.risk
      riskCode := candidate.riskCode
      loss := representationLoss target candidate.qualification x.sourceField.isKeyLike
      examples := [⟨x.sourceField.logicalType.familyName, x.targetField.nativeType⟩]
      locatorImpact :=
        if x.sourceField.isKeyLike then .preserved
        else if rule.qualification = .explicitConversion then .valueOnly
        else .notUsed
      confirmation := if candidate.requiresConfirmation then .required else .notRequired
      parameters := parameters
      failurePolicy := rule.failurePolicy
      inputDigest := inputDigest
      planDigest := "" }

section Assembled

variable {library : DigestLibrary} {candidate : TargetTypeCandidate} {rule : ConversionRule}
  {parameters : List (String × String)} {target : TargetRepresentation} {inputDigest : String}

@[simp]
theorem parameters_assemblePlan : (x.assemblePlan library candidate rule parameters target
    inputDigest).parameters = parameters := rfl

@[simp]
theorem target_assemblePlan : (x.assemblePlan library candidate rule parameters target
    inputDigest).target = target := rfl

end Assembled

/-- The plan is confirmed when a confirmation names it. -/
def settle (candidate : TargetTypeCandidate) (plan : ColumnConversionPlan) : CompatibilityResult :=
  let confirmed := candidate.requiresConfirmation &&
    x.options.confirmations.any plan.confirmationMatches
  let needsConfirmation := candidate.requiresConfirmation && !confirmed
  let message := "this deterministic conversion requires per-field risk confirmation"
  { sourceField := x.sourceField.reference
    targetField := x.targetField.reference
    status := if needsConfirmation then .needsConfirmation else .compatible
    qualification := candidate.qualification
    risk := candidate.risk
    reasonCode :=
      if needsConfirmation then "target_capability.confirmation_required"
      else "target_capability.qualified"
    explanation :=
      if needsConfirmation then message
      else "the source and target field binding has a qualified conversion plan"
    requiresConfirmation := candidate.requiresConfirmation
    rule := some candidate.rule
    plan := some (if confirmed then { plan with confirmation := .confirmed } else plan)
    candidates := [candidate]
    failure :=
      if needsConfirmation then
        some (.new .missingConfirmation "target_capability.confirmation_required" .planConstruction
          message)
      else none
    summary := some ⟨plan.inputDigest, plan.planDigest, plan.rule, plan.capabilityCode⟩ }

end PlanningInput

/-- An early return of the result. -/
def refuseWhen (condition : Bool) (result : CompatibilityResult) :
    Except CompatibilityResult Unit :=
  if condition then .error result else .ok ()

@[simp]
theorem refuseWhen_eq_ok {condition : Bool} {result : CompatibilityResult} {u : Unit} :
    refuseWhen condition result = .ok u ↔ condition = false := by
  unfold refuseWhen
  split <;> simp_all

/-! ## The transaction planner -/

section Planners

variable (library : DigestLibrary)

def ChangeShape.of (change : RowChange) : ChangeShape :=
  ⟨change.operation, change.database, change.schema, change.table, change.sourceCursor,
    change.sourceTimestamp, change.schemaBasis⟩

def TransactionShape.of (transaction : ChangeTransaction) : TransactionShape :=
  ⟨transaction.source, transaction.id, transaction.beginCursor, transaction.commitCursor,
    transaction.changes.map .of⟩

namespace CompatibilityInput

variable {validation : ValidationLibrary} (x : CompatibilityInput validation)

def buildPlan (candidate : TargetTypeCandidate) (rule : ConversionRule)
    (parameters : List (String × String)) : ColumnConversionPlan :=
  x.assemblePlan library candidate rule parameters (x.planTarget library candidate parameters)
    (library.digestOf (.transaction
      ⟨x.bindingDigest candidate parameters, .of x.transaction.transaction⟩))

@[simp]
theorem parameters_buildPlan {candidate : TargetTypeCandidate} {rule : ConversionRule}
    {parameters : List (String × String)} :
    (x.buildPlan library candidate rule parameters).parameters = parameters := by
  rw [buildPlan, PlanningInput.parameters_assemblePlan]

@[simp]
theorem target_buildPlan {candidate : TargetTypeCandidate} {rule : ConversionRule}
    {parameters : List (String × String)} :
    (x.buildPlan library candidate rule parameters).target =
      x.planTarget library candidate parameters := by
  rw [buildPlan, PlanningInput.target_assemblePlan]

/-- From the checked input to the plan of the chosen candidate. -/
def choosePlan : Except CompatibilityResult (TargetTypeCandidate × ColumnConversionPlan) := do
  refuseWhen (x.manifest.requiresPrimaryKey && !x.transactionHasKey)
    (x.blocked "target_capability.primary_key_required"
      "the MySQL 8.0 Sink requires a primary-key Row Locator")
  let candidates := x.candidates x.operations x.presences false
  let keyBlocked := (x.manifest.requiresPrimaryKey && !x.transactionHasKey) || x.lossyKeyCapability
  let ⟨candidate, h⟩ ← x.selectCandidate candidates (x.noCandidate keyBlocked)
    fun first code message => x.refusal .needsConfiguration first.qualification first.risk code
      message false none candidates .invalidInput .planConstruction
  let capability := x.capabilityOf candidate h
  let parameters ← x.checkParameters candidate capability
  return (candidate, x.buildPlan library candidate capability.rule parameters)

end CompatibilityInput

def explainCompatibility {validation : ValidationLibrary} (x : CompatibilityInput validation) :
    Except CompatibilityError CompatibilityResult := do
  x.validateInput library
  match x.choosePlan library with
  | .error result => return result
  | .ok (candidate, plan) => return x.settle candidate plan

/-! ## The catalog planner -/

namespace FieldCompatibilityInput

variable (x : FieldCompatibilityInput)

/-- Between two databases of one kind a missing collation counts as a difference. -/
def fieldCollationMismatch : Bool :=
  if x.sourceConnector = x.sinkConnector then x.sourceField.collation != x.targetField.collation
  else x.sourceField.collation.isSome && x.targetField.collation.isSome &&
    x.sourceField.collation != x.targetField.collation

/-- The order and the padding of a bit string as the source writes them. -/
def bitParameters (parameters : List (String × String)) : List (String × String) :=
  if x.sourceField.logicalType.isBitString then
    let parameters := (x.sourceTypeMapping.valueRepresentation.lookup "bit_order").elim parameters
      fun order => insertEntry "source_bit_order" order parameters
    (x.sourceTypeMapping.valueRepresentation.lookup "bit_padding").elim parameters
      fun padding => insertEntry "source_padding" padding parameters
  else parameters

def buildFieldPlan (candidate : TargetTypeCandidate) (rule : ConversionRule)
    (parameters : List (String × String)) : ColumnConversionPlan :=
  x.assemblePlan library candidate rule parameters
    (x.planTarget library candidate (x.bitParameters parameters))
    (library.digestOf (.field
      ⟨x.bindingDigest candidate parameters, x.operations, x.presences⟩))

/-- The losses of another collation, under a new digest. -/
def addCollationLoss (plan : ColumnConversionPlan) : ColumnConversionPlan :=
  ColumnConversionPlan.sealed library
    { plan with
      loss := ⟨plan.loss.value, true, true, true, plan.loss.explanation ++
        " Source values are preserved, but the pre-created target column's collation is " ++
        "applied; equality, ordering, and unique-constraint behavior can differ from the source."⟩ }

@[simp]
theorem parameters_buildFieldPlan {candidate : TargetTypeCandidate} {rule : ConversionRule}
    {parameters : List (String × String)} :
    (x.buildFieldPlan library candidate rule parameters).parameters = parameters := by
  rw [buildFieldPlan, PlanningInput.parameters_assemblePlan]

@[simp]
theorem target_buildFieldPlan {candidate : TargetTypeCandidate} {rule : ConversionRule}
    {parameters : List (String × String)} :
    (x.buildFieldPlan library candidate rule parameters).target =
      x.planTarget library candidate (x.bitParameters parameters) := by
  rw [buildFieldPlan, PlanningInput.target_assemblePlan]

@[simp]
theorem parameters_addCollationLoss {plan : ColumnConversionPlan} :
    (addCollationLoss library plan).parameters = plan.parameters := rfl

@[simp]
theorem target_addCollationLoss {plan : ColumnConversionPlan} :
    (addCollationLoss library plan).target = plan.target := rfl

/-- From the checked input to the plan of the chosen candidate. -/
def choosePlan : Except CompatibilityResult (TargetTypeCandidate × ColumnConversionPlan) := do
  refuseWhen (x.manifest.requiresPrimaryKey && !x.sourceHasPrimaryKey)
    (x.blocked "target_capability.primary_key_required"
      "the selected Sink requires a primary-key Row Locator")
  refuseWhen (x.sourceField.primaryKeyOrdinal != x.targetField.primaryKeyOrdinal)
    (x.blocked "target_capability.primary_key_mismatch"
      "source and target Row Locator key positions are not equivalent")
  refuseWhen (x.fieldCollationMismatch && x.sourceField.isKeyLike)
    (x.blocked "target_capability.key_collation_mismatch"
      ("source and target key collations differ; key equality and row location cannot be " ++
        "proven equivalent"))
  let candidates := x.candidates x.operations x.presences x.fieldCollationMismatch
  let ⟨candidate, h⟩ ← x.selectCandidate candidates (x.noCandidate x.lossyKeyCapability)
    fun first code message => x.fieldResult .needsConfiguration first.qualification first.risk code
      message candidates .invalidInput .planConstruction
  let capability := x.capabilityOf candidate h
  let parameters ← x.checkParameters candidate capability
  let plan := x.buildFieldPlan library candidate capability.rule parameters
  return (candidate, if x.fieldCollationMismatch then addCollationLoss library plan else plan)

end FieldCompatibilityInput

def explainFieldCompatibilityInner (x : FieldCompatibilityInput) (manifestValidated : Bool) :
    Except CompatibilityError CompatibilityResult := do
  x.validateFieldInput library manifestValidated
  match x.choosePlan library with
  | .error result => return result
  | .ok (candidate, plan) => return x.settle candidate plan

def explainFieldCompatibility (x : FieldCompatibilityInput) :
    Except CompatibilityError CompatibilityResult :=
  explainFieldCompatibilityInner library x false

def planFieldCompatibilityWithValidatedManifest (x : FieldCompatibilityInput)
    (manifest : ValidatedTargetCapabilityManifest library) :
    Except CompatibilityError CompatibilityResult :=
  explainFieldCompatibilityInner library
    { x with manifest := manifest.manifest } true

/-! ## A stored plan -/

def ColumnConversionPlan.validateAgainst (plan : ColumnConversionPlan)
    {validation : ValidationLibrary} (x : CompatibilityInput validation) :
    Except CompatibilityError Unit := do
  require (plan.verifyDigest library)
    (.staleInput (.new .staleInput "compatibility.plan_digest_mismatch" .planConstruction
      "the stored ColumnConversionPlan digest is invalid"))
  require (plan.targetProbeDigest == x.options.targetProbeDigest)
    (.planInvalidated (.new .staleInput "compatibility.plan_inputs_changed" .planConstruction
      ("target capability, column, extension, or session evidence changed; requalification is " ++
        "required")))
  let result ← explainCompatibility library x
  match result.plan with
  | none => throw (.planInvalidated (.new .staleInput "compatibility.plan_no_longer_qualifies"
    .planConstruction
    "the stored ColumnConversionPlan no longer qualifies for current inputs"))
  | some current =>
    require (current.planDigest == plan.planDigest)
      (.planInvalidated (.new .staleInput "compatibility.plan_inputs_changed" .planConstruction
        "ColumnConversionPlan inputs changed; requalification is required"))

end Planners

section Sample

/-- Digests that name what they are of. -/
def sampleDigests : DigestLibrary where
  digestOf
    | .probe _ => "probe"
    | .manifest _ => "manifest"
    | .rule rule => "rule " ++ rule.id
    | .plan plan => "plan of " ++ plan.inputDigest
    | .transaction input => "transaction " ++ input.transaction.id
    | .field input => "field " ++ input.sourceField.name
  stableDigest _ := ""
  toJson _ := ""

def sampleValidation : ValidationLibrary := ⟨fun _ => "", id⟩

def sampleRule (id : String) (qualification : QualificationLevel) : ConversionRule where
  id := "mysql80.conversion." ++ id
  version := "mysql-8.0.sink-conversion.v1"
  qualification := qualification
  risk := if qualification = .exact then .none else .high
  riskCode := if qualification = .exact then none else some "mysql80.explicit_conversion"
  requiresConfirmation := qualification != .exact
  options := []
  supportedOperations := [.insert, .update, .delete]
  supportedPresence := [.value, .null, .unchanged, .unavailable, .generatedObservation]
  allowsKey := qualification == .exact
  failurePolicy := .reject
  evidenceDigest := "evidence of " ++ id

/-- A UUID is stored as text, an integer as it is. -/
def sampleManifest : TargetCapabilityManifest where
  connector := ⟨"mysql", "8.0"⟩
  targetBuild := ⟨"mysql", "community", "8.0.36", "1"⟩
  contract := compatibilityFormat
  requiresPrimaryKey := true
  capabilities := [
    ⟨"mysql80.exact.int.signed.32", .integer true 32, ⟨"int", []⟩,
      sampleRule "int.signed.32" .exact, [], []⟩,
    ⟨"mysql80.explicit.uuid.char36", .uuid, ⟨"char(36)", []⟩,
      sampleRule "uuid.char36" .explicitConversion, [], []⟩]
  digest := "manifest"

def sampleField (lineage : String) (ordinal : ℕ) (name nativeType : String)
    (logicalType : LogicalType) (primaryKeyOrdinal : Option ℕ) (unique : Bool) :
    FieldDefinition where
  reference := ⟨lineage ++ "." ++ name, "fingerprint"⟩
  ordinal := ordinal
  name := name
  nativeType := nativeType
  logicalType := logicalType
  nullable := false
  collation := none
  generated := false
  primaryKeyOrdinal := primaryKeyOrdinal
  unique := unique
  rowLocator := false

def sampleBinding (sourceField targetField : FieldDefinition) : PlanningInput where
  sourceField := sourceField
  targetField := targetField
  sourceTypeMapping := ⟨⟨"postgresql", "15"⟩, sourceField.nativeType, sourceField.logicalType,
    "postgresql15." ++ sourceField.nativeType, "1", none, none, none, none, none, []⟩
  sourceConnector := ⟨"postgresql", "15"⟩
  sinkConnector := ⟨"mysql", "8.0"⟩
  sourceBuild := none
  targetBuild := none
  manifest := sampleManifest
  options := ⟨"route", "1", none, [], [], none⟩

/-- The UUID column of a table, without a unique index in the source. -/
def tokenBinding (uniqueTarget : Bool) : PlanningInput :=
  sampleBinding (sampleField "source" 1 "token" "uuid" .uuid none false)
    (sampleField "target" 1 "token" "char(36)" (.text "utf8mb4" (some 36) .characters none) none
      uniqueTarget)

example : (explainFieldCompatibility sampleDigests ⟨tokenBinding false, [.insert], [.value],
    true⟩).map (·.status) = .ok .needsConfirmation := rfl

end Sample

end DatabaseSync.Planner
