import DatabaseSync.Control.Preflight
import DatabaseSync.Planner.Entries
import DatabaseSync.Worker.OwnEvidence

/-! # Planning a field from the catalogs

What the control plane asks the catalog planner for a pair of columns, and which of its answers it
takes for a plan. The adapters of the connectors and the fingerprint of a table are parameters.
-/

namespace DatabaseSync.Worker

open ChangeEvent Checked Control Planner Text

section Planning

variable (library : DigestLibrary)

/-- A connector of the registry, with what its adapter answers. -/
structure ConnectorDescriptor where
  identity : ConnectorIdentity
  sourceTypeMapping : CatalogColumn → Except String SourceTypeMapping
  sourceTypeMappingWithEvidence : CatalogColumn → Option ServerBuildIdentity → Option String →
    Except String SourceTypeMapping
  validatedManifest : ServerBuildIdentity →
    Except CompatibilityError (ValidatedTargetCapabilityManifest library)

/-- What all the fields of a route are planned with. -/
structure RoutePlanning where
  sourceConnector : ConnectorDescriptor library
  sinkConnector : ConnectorDescriptor library
  fingerprint : CatalogTable → String
  routeId : String
  configurationRevision : String
  confirmations : List RiskConfirmation
  sourceBuild : Option ServerBuildIdentity
  targetBuild : Option ServerBuildIdentity
  sourceEnvironmentFingerprint : Option String
  targetProbes : List (String × TargetCapabilityProbe)
  allowUnconfirmed : Bool

/-- `Display` of the error. -/
def errorText : CompatibilityError → String
  | .invalidInput failure | .sourceContract failure | .staleInput failure
  | .planInvalidated failure => failure.message
  | .targetCapability failure =>
    "Target Capability Failure [" ++ failure.code ++ "]: " ++ failure.cause

/-- The options of a column carry the selected rule under two keys of their own. -/
def selectedRule (parameters : List (String × String)) :
    Except CompatibilityError (Option RuleReference) :=
  match parameters.lookup "__rule_id", parameters.lookup "__rule_version" with
  | some id, some version => .ok (some ⟨id, version⟩)
  | none, none => .ok none
  | _, _ => .error (.invalidInput (.new .invalidInput "compatibility.incomplete_rule_selection"
    .planConstruction "selected compatibility rule id and version must be provided together"))

def plannerParameters (parameters : List (String × String)) : List (String × String) :=
  parameters.filter fun entry => entry.1 ≠ "__rule_id" ∧ entry.1 ≠ "__rule_version"

namespace RoutePlanning

variable {library} (route : RoutePlanning library)

def fieldDefinition (table : CatalogTable) (column : CatalogColumn) (logicalType : LogicalType)
    (primaryKeyOrdinal : Option ℕ) (schemaFingerprint : Option String) : FieldDefinition where
  reference := ⟨lineage table.schema table.name column.name,
    schemaFingerprint.getD (route.fingerprint table)⟩
  ordinal := (table.columns.findIdx? fun item => item.name == column.name).getD 0
  name := column.name
  nativeType := column.columnType
  logicalType := logicalType
  nullable := column.nullable
  collation := column.collation
  generated := containsText (toAsciiLowercase column.extra) "generated"
  primaryKeyOrdinal := primaryKeyOrdinal
  unique := primaryKeyOrdinal.isSome
  rowLocator := primaryKeyOrdinal.isSome

/-- Without a probe and a known build the manifest is that of the connector's version. -/
def manifestBuild (targetProbe : Option TargetCapabilityProbe) : ServerBuildIdentity :=
  ((targetProbe.map (·.targetBuild)).or route.targetBuild).getD
    ⟨route.sinkConnector.identity.kind, "catalog", route.sinkConnector.identity.version,
      "catalog"⟩

/-- The request for a pair of columns. -/
def fieldInput (source sink : CatalogTable) (sourceColumn sinkColumn : CatalogColumn)
    (sourceMapping : SourceTypeMapping) (parameters : List (String × String))
    (targetProbe : Option TargetCapabilityProbe) (selectedRule : Option RuleReference)
    (manifest : TargetCapabilityManifest) : FieldCompatibilityInput where
  sourceField := route.fieldDefinition source sourceColumn sourceMapping.logicalType
    (source.primaryKey.idxOf? sourceColumn.name) none
  targetField := route.fieldDefinition sink sinkColumn
    (match route.sinkConnector.sourceTypeMapping sinkColumn with
    | .ok mapping => mapping.logicalType
    | .error _ => .opaqueType sinkColumn.columnType "catalog-native")
    (sink.primaryKey.idxOf? sinkColumn.name)
    (targetProbe.map (·.columnMetadata.definitionFingerprint))
  sourceTypeMapping := sourceMapping
  sourceConnector := route.sourceConnector.identity
  sinkConnector := route.sinkConnector.identity
  sourceBuild := route.sourceBuild
  targetBuild := some manifest.targetBuild
  manifest := manifest
  operations := [.insert, .update, .delete]
  presences := [match sourceMapping.logicalType with
    | .raw .. => .sourceRepresentation
    | _ => .value, .null, .unchanged, .unavailable]
  sourceHasPrimaryKey := !source.primaryKey.isEmpty
  options :=
    { routeId := route.routeId
      configurationRevision := route.configurationRevision
      selectedRule := selectedRule
      parameters := plannerParameters parameters
      confirmations := route.confirmations
      targetProbe := targetProbe }

/-- `field_compatibility_with_source_evidence_and_target_probe` -/
def fieldCompatibility (source sink : CatalogTable) (sourceColumn sinkColumn : CatalogColumn)
    (parameters : List (String × String)) (targetProbe : Option TargetCapabilityProbe) :
    Except CompatibilityError CompatibilityResult := do
  let sourceMapping ← (route.sourceConnector.sourceTypeMappingWithEvidence sourceColumn
    route.sourceBuild route.sourceEnvironmentFingerprint).mapError fun message =>
      sourceContractError "source_contract.type_mapping_failed" message
  let rule ← selectedRule parameters
  let manifest ← route.sinkConnector.validatedManifest (route.manifestBuild targetProbe)
  planFieldCompatibilityWithValidatedManifest library
    (route.fieldInput source sink sourceColumn sinkColumn sourceMapping parameters targetProbe rule
      manifest.manifest) manifest

/-- A plan that still needs a confirmation is taken only while that is allowed. -/
def planFieldForSink : FieldPlanner := fun source sink sourceColumn sinkColumn parameters => do
  let compatibility ← (route.fieldCompatibility source sink sourceColumn sinkColumn parameters
    (route.targetProbes.lookup (targetProbeKey sink.schema sink.name sinkColumn.name))).mapError
      fun error => source.fail ("字段 " ++ sourceColumn.name ++ " 无法规划：" ++ errorText error)
  if ¬ (compatibility.status = .compatible ∨
      (route.allowUnconfirmed ∧ compatibility.status = .needsConfirmation)) then
    throw (source.fail ("字段 " ++ sourceColumn.name ++ " 无法规划：" ++
      compatibility.explanation))
  match compatibility.plan with
  | some plan => return plan.toColumnConversionPlan
  | none => throw (source.fail ("字段 " ++ sourceColumn.name ++ " 缺少 ColumnConversionPlan"))

end RoutePlanning

end Planning

/-! ## The fields of a plan -/

section Spec

variable {library : DigestLibrary} {route : RoutePlanning library} {source sink : CatalogTable}
  {sourceColumn sinkColumn : CatalogColumn} {parameters : List (String × String)}
  {targetProbe : Option TargetCapabilityProbe}

/-- A plan that is proposed is for the two columns of the request. -/
theorem RoutePlanning.fieldCompatibility_fields {r : CompatibilityResult}
    {plan : Planner.ColumnConversionPlan}
    (h : route.fieldCompatibility source sink sourceColumn sinkColumn parameters targetProbe =
      .ok r) (hplan : r.plan = some plan) :
    plan.sourceField.lineageId = lineage source.schema source.name sourceColumn.name ∧
      plan.targetField.lineageId = lineage sink.schema sink.name sinkColumn.name := by
  simp only [fieldCompatibility, bind_eq_ok] at h
  obtain ⟨mapping, -, rule, -, manifest, -, h⟩ := h
  rw [FieldCompatibilityInput.planFieldCompatibilityWithValidatedManifest_eq] at h
  have hcatalog : (PlannerInput.catalog
      { route.fieldInput source sink sourceColumn sinkColumn mapping parameters targetProbe rule
        manifest.manifest with manifest := manifest.manifest } :
      PlannerInput sampleValidation).explain library = .ok r := h
  obtain ⟨hsource, htarget⟩ := PlannerInput.plan_fields hcatalog hplan
  rw [hsource, htarget]
  exact ⟨rfl, rfl⟩

/-- A plan that is taken has been qualified, and it is for the two columns. -/
theorem RoutePlanning.planFieldForSink_spec {plan : ChangeEvent.ColumnConversionPlan}
    (h : route.planFieldForSink source sink sourceColumn sinkColumn parameters = .ok plan) :
    ∃ r chosen,
      route.fieldCompatibility source sink sourceColumn sinkColumn parameters
        (route.targetProbes.lookup (targetProbeKey sink.schema sink.name sinkColumn.name)) = .ok r ∧
      (r.status = .compatible ∨ route.allowUnconfirmed = true ∧ r.status = .needsConfirmation) ∧
      r.plan = some chosen ∧ chosen.toColumnConversionPlan = plan := by
  simp only [planFieldForSink, throw_eq, error_bind, bind_eq_ok, guard_eq_ok, mapError_eq_ok,
    not_not] at h
  obtain ⟨r, hr, hstatus, h⟩ := h
  refine ⟨r, ?_⟩
  cases hplan : r.plan with
  | none => simp [hplan] at h
  | some chosen =>
    rw [hplan] at h
    exact ⟨chosen, hr, hstatus, rfl, Except.ok.inj h⟩

/-- A plan that is taken is for the two columns. -/
theorem RoutePlanning.planFieldForSink_fields {plan : ChangeEvent.ColumnConversionPlan}
    (h : route.planFieldForSink source sink sourceColumn sinkColumn parameters = .ok plan) :
    plan.sourceField.lineageId = lineage source.schema source.name sourceColumn.name ∧
      plan.targetField.lineageId = lineage sink.schema sink.name sinkColumn.name := by
  obtain ⟨r, chosen, hr, -, hchosen, rfl⟩ := planFieldForSink_spec h
  exact fieldCompatibility_fields hr hchosen

end Spec

end DatabaseSync.Worker
