import DatabaseSync.Planner.Representation

/-! # Checks on the inputs of the planners

A manifest, the preflight evidence and a field binding are complete, fresh and consistent before a
plan is looked for.
-/

namespace DatabaseSync.Planner

open ChangeEvent Text

/-- `TargetCapabilityFailure::new` with another code. -/
def capabilityError (code message : String) (routeId : Option String) : CompatibilityError :=
  .targetCapability { TargetCapabilityFailure.new message with code := code, routeId := routeId }

def invalidInput (code message : String) : CompatibilityError :=
  .invalidInput (.new .invalidInput code .inputValidation message)

def staleInput (code message : String) : CompatibilityError :=
  .staleInput (.new .staleInput code .inputValidation message)

def sourceContractError (code message : String) : CompatibilityError :=
  .sourceContract (.new .sourceContract code .sourceContract message)

def require (ok : Bool) (error : CompatibilityError) : Except CompatibilityError Unit :=
  if ok then .ok () else .error error

@[simp]
theorem require_eq_ok {ok : Bool} {error : CompatibilityError} {u : Unit} :
    require ok error = .ok u ↔ ok = true := by
  unfold require
  split <;> simp_all

/-! ## Manifests -/

def CapabilityEntry.isComplete (capability : CapabilityEntry) : Bool :=
  !isBlank capability.code && !isBlank capability.target.nativeType &&
    !isBlank capability.rule.id && !isBlank capability.rule.version &&
    !isBlank capability.rule.evidenceDigest

def manifestError (message : String) : CompatibilityError :=
  capabilityError "target_capability.invalid_manifest" message none

/-- The checks on an entry that can be used. -/
def validateRule (rule : ConversionRule) : Except CompatibilityError Unit :=
  if rule.qualification = .unsupported then .ok ()
  else do
    require (rule.qualification != .explicitConversion || !rule.allowsKey)
      (manifestError "an explicit conversion cannot be qualified for a key or Row Locator")
    require (!rule.supportedOperations.isEmpty && !rule.supportedPresence.isEmpty)
      (manifestError "qualified capability is missing operation or presence coverage")

/-- The entries after those with the given codes. -/
def validateCapabilities (codes : List String) :
    List CapabilityEntry → Except CompatibilityError Unit
  | [] => .ok ()
  | capability :: capabilities => do
    require (capability.isComplete && !codes.contains capability.code)
      (manifestError "target capability manifest contains an invalid or duplicate entry")
    validateRule capability.rule
    validateCapabilities (capability.code :: codes) capabilities

section Library

variable (library : DigestLibrary)

def TargetCapabilityManifest.validate (manifest : TargetCapabilityManifest) :
    Except CompatibilityError Unit := do
  require (manifest.contract == compatibilityFormat && manifest.verifyDigest library)
    (manifestError "target capability manifest is stale or invalid")
  validateCapabilities [] manifest.capabilities

/-- A manifest that has been checked when it was built. -/
structure ValidatedTargetCapabilityManifest where
  manifest : TargetCapabilityManifest
  valid : manifest.validate library = .ok ()

/-! ## Preflight evidence -/

def TargetCapabilityProbe.isQualified (probe : TargetCapabilityProbe) : Bool :=
  !probe.capabilities.isEmpty && probe.capabilities.all (·.status == .qualified) &&
    probe.extensions.all fun entry => entry.status == .installed || entry.status == .qualified

def TargetCapabilityProbe.validate (probe : TargetCapabilityProbe) (routeId : Option String) :
    Except CompatibilityError Unit := do
  let identities := (probe.capabilities ++ probe.extensions).map (·.identity)
  require (probe.verifyDigest library)
    (capabilityError "target_capability.invalid_probe" "target capability probe digest is invalid"
      routeId)
  require (!isBlank probe.database && !isBlank probe.table && !isBlank probe.column &&
      !isBlank probe.columnMetadata.definitionFingerprint && !isBlank probe.session.identity &&
      !probe.capabilities.isEmpty)
    (capabilityError "target_capability.incomplete_probe"
      "target capability probe is missing target identity evidence" routeId)
  require (identities.all (!isBlank ·) && decide identities.Nodup)
    (capabilityError "target_capability.invalid_probe"
      "target capability probe contains an empty or duplicate evidence identity" routeId)

def validateTargetProbe (probe : Option TargetCapabilityProbe) (targetField : FieldDefinition)
    (targetBuild : ServerBuildIdentity) (routeId : String) : Except CompatibilityError Unit :=
  match probe with
  | none => .ok ()
  | some probe => do
    probe.validate library (some routeId)
    require (probe.targetBuild == targetBuild && probe.column == targetField.name &&
        probe.columnMetadata.definitionFingerprint == targetField.reference.schemaFingerprint &&
        (probe.columnMetadata.nativeType.isEmpty ||
          eqIgnoreAsciiCase probe.columnMetadata.nativeType targetField.nativeType))
      (.planInvalidated (.new .staleInput "compatibility.target_probe_changed" .inputValidation
        "target column metadata or target build no longer matches the plan input"))
    require probe.isQualified
      (capabilityError "target_capability.probe_not_qualified"
        "target preflight did not produce qualified capability evidence" (some routeId))

/-! ## Field bindings -/

def completeReference (reference : DefinitionReference) : Bool :=
  !isBlank reference.lineageId && !isBlank reference.schemaFingerprint

namespace PlanningInput

variable (x : PlanningInput)

def mappingDescribesSource : Bool :=
  x.sourceTypeMapping.connector == x.sourceConnector &&
    x.sourceTypeMapping.logicalType == x.sourceField.logicalType &&
    eqIgnoreAsciiCase x.sourceTypeMapping.nativeType x.sourceField.nativeType &&
    !isBlank x.sourceTypeMapping.mappingId && !isBlank x.sourceTypeMapping.mappingVersion

/-- The checks both planners begin with. -/
def validateBinding : Except CompatibilityError Unit := do
  require (completeReference x.sourceField.reference && completeReference x.targetField.reference)
    (staleInput "compatibility.missing_schema_fingerprint"
      "source and target definition references require lineage and Schema Fingerprint")
  require (!isBlank x.options.routeId && !isBlank x.options.configurationRevision)
    (invalidInput "compatibility.missing_route_identity"
      "route_id and configuration_revision are required")
  require (!isBlank x.sourceField.name && !isBlank x.targetField.name &&
      !isBlank x.sourceField.nativeType && !isBlank x.targetField.nativeType)
    (invalidInput "compatibility.invalid_field_definition"
      "source and target field definitions are incomplete")
  require x.mappingDescribesSource
    (sourceContractError "source_contract.type_mapping_mismatch"
      "the SourceTypeMapping does not describe the selected source field")
  require (x.manifest.connector == x.sinkConnector)
    (staleInput "compatibility.connector_identity_changed"
      "the selected Sink capability manifest belongs to another connector identity")
  require (x.targetBuild.all (· == x.manifest.targetBuild))
    (staleInput "compatibility.target_build_changed"
      "the target server build no longer matches the capability manifest")

def validateProbe : Except CompatibilityError Unit :=
  validateTargetProbe library x.options.targetProbe x.targetField x.manifest.targetBuild
    x.options.routeId

end PlanningInput

/-! ## Transactions -/

def PresenceState.fromDatum (datum : Datum) (generated : Bool) : PresenceState :=
  match datum with
  | .value _ => if generated then .generatedObservation else .value
  | .sourceRepresentationEnvelope _ => .sourceRepresentation
  | .null => .null
  | .unchanged => .unchanged
  | .unavailable => .unavailable

namespace CompatibilityInput

variable {validation : ValidationLibrary} (x : CompatibilityInput validation)

def changes : List RowChange := x.transaction.transaction.changes

def operations : List Operation := x.changes.map (·.operation)

def columns : List ColumnDatum :=
  x.changes.flatMap fun change => change.before.getD [] ++ change.after.getD []

/-- The columns of the selected source field. -/
def fieldColumns : List ColumnDatum :=
  x.columns.filter fun column =>
    column.ordinal == x.sourceField.ordinal && column.name == x.sourceField.name

def transactionHasKey : Bool := x.columns.any (·.primaryKeyOrdinal.isSome)

/-- `transaction_presences`, in the order of their first occurrence. -/
def presences : List PresenceState :=
  x.fieldColumns.foldl (fun presences column =>
    let presence := PresenceState.fromDatum column.datum column.generated
    if presences.contains presence then presences else presences ++ [presence]) []

def metadataMatches (column : ColumnDatum) : Bool :=
  eqIgnoreAsciiCase column.nativeType x.sourceField.nativeType &&
    column.primaryKeyOrdinal == x.sourceField.primaryKeyOrdinal &&
    column.generated == x.sourceField.generated && column.collation == x.sourceField.collation

def valueMatches (column : ColumnDatum) : Bool :=
  match column.datum with
  | .value value => x.sourceField.logicalType.matchesValue value
  | _ => true

def validateInput : Except CompatibilityError Unit := do
  x.validateBinding
  require (x.transaction.transaction.source.kind == x.sourceConnector.kind &&
      startsWith x.transaction.transaction.source.version x.sourceConnector.version)
    (sourceContractError "source_contract.connector_identity_mismatch"
      "the validated transaction belongs to another source connector identity")
  x.manifest.validate library
  x.validateProbe library
  require (!x.fieldColumns.isEmpty)
    (invalidInput "compatibility.field_not_in_transaction"
      "the selected source field is not present in the validated transaction")
  require (x.fieldColumns.all x.metadataMatches)
    (sourceContractError "source_contract.field_definition_mismatch"
      "the source field definition does not match the validated ChangeEvent")
  require (x.fieldColumns.all x.valueMatches)
    (sourceContractError "source_contract.logical_value_mismatch"
      "a captured LogicalValue does not match the selected LogicalType")

end CompatibilityInput

/-- The manifest is not checked again when it carries its check. -/
def FieldCompatibilityInput.validateFieldInput (x : FieldCompatibilityInput)
    (manifestValidated : Bool) : Except CompatibilityError Unit := do
  x.validateBinding
  require (!x.operations.isEmpty && !x.presences.isEmpty)
    (invalidInput "compatibility.missing_requirements"
      "at least one operation and presence state are required")
  (if manifestValidated then .ok () else x.manifest.validate library)
  x.validateProbe library

end Library

end DatabaseSync.Planner
