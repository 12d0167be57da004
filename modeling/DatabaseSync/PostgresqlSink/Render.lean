import DatabaseSync.ChangeEvent.RowStatement
import DatabaseSync.Library.Placeholder
import DatabaseSync.PostgresqlSink.Value

/-! # Rendering a transaction for PostgreSQL

The parameterized statements of a transaction under its saved plans, with the locking probe
before each statement and the queries that check the row after it.
-/

namespace DatabaseSync.PostgresqlSink

open ChangeEvent Checked Relational Text

/-- A value in a statement: a literal NULL or a numbered placeholder in its expression. -/
inductive Expression
  | null
  | parameter (index : ℕ) (expression : ParameterExpression)
deriving DecidableEq, Repr

def Expression.text : Expression → String
  | null => "NULL"
  | parameter index expression => expression.text index

def quoteIdentifier (identifier : String) : String :=
  "\"" ++ String.ofList (identifier.toList.flatMap fun c => if c = '"' then [c, c] else [c]) ++ "\""

def qualifiedTable (schema table : String) : String :=
  quoteIdentifier schema ++ "." ++ quoteIdentifier table

/-- PostgreSQL statements need no cast to bytes. -/
def dialect : Dialect String Expression := ⟨quoteIdentifier, Expression.text, id⟩

structure PreparedQuery where
  query : Query String Expression
  parameters : List Parameter
deriving DecidableEq, Repr

inductive CarrierReadbackExpected
  | sqlNull (text : Bool)
  | logicalValue (value : LogicalValue)
  | sourceRepresentation (bytes : List UInt8)

structure CarrierReadbackCheck where
  query : PreparedQuery
  column : String
  expected : CarrierReadbackExpected

structure RenderedStatement where
  statement : Statement String Expression
  parameters : List Parameter
deriving DecidableEq, Repr

structure PlannedStatement where
  schema : String
  table : String
  rendered : RenderedStatement
  probe : Option PreparedQuery
  verification : Option PreparedQuery
  carrierReadbacks : List CarrierReadbackCheck

/-- The text that is sent to the server. -/
def PlannedStatement.sql (statement : PlannedStatement) : String :=
  statement.rendered.statement.text dialect (qualifiedTable statement.schema statement.table)

structure SqlTransaction where
  sourceUuid : String
  sourceTransactionId : String
  commitCursor : SourceCursor
  targetVersion : String
  tables : List (String × String)
  statements : List PlannedStatement

/-- A statement under construction: the parameters pushed so far. -/
abbrev StatementBuilder := StateT (List Parameter) (Except SinkError)

def writableColumns (row : List ColumnDatum) : List ColumnDatum := suppliedColumns row

def isCarrierKind (kind : Option String) : Bool :=
  kind = some "logical_value_json" || kind = some "source_representation"

section Plans

variable (computedDigest : ColumnConversionPlan → String) (targetVersion : String)

def validateCarrierHeader (plan : ColumnConversionPlan) : Except TargetCapabilityFailure Unit := do
  let expectedCarrier := match plan.conversionKind with
    | some "logical_value_json" => some ("text", "postgresql_text_tagged_json")
    | some "source_representation" => some ("bytea", "postgresql_bytea")
    | _ => none
  if let some (nativeType, storage) := expectedCarrier then
    if !eqIgnoreAsciiCase plan.target.nativeType nativeType ||
        plan.target.parameters.lookup "target_storage" != some storage then
      throw (plan.failure "target_capability.carrier_representation_mismatch"
        "the PostgreSQL carrier plan does not match the sink's qualified physical representation")
    match ((plan.target.parameters.lookup "target_capacity_bytes").bind parseU64).filter
        (0 < ·) with
    | none => throw (plan.failure "target_capability.carrier_capacity_missing"
        "the PostgreSQL carrier plan is missing a valid positive byte capacity")
    | some capacity =>
      if capacity > 1073741823 then
        throw (plan.failure "target_capability.carrier_capacity_exceeds_postgresql_limit"
          "the carrier capacity exceeds PostgreSQL's supported field size")
  if isCarrierKind plan.conversionKind &&
      (plan.locatorImpact = .preserved || plan.locatorImpact = .blocked) then
    throw (plan.failure "target_capability.carrier_key_forbidden"
      "JSON and source-representation carriers cannot be used as a primary key, unique key, or Row Locator")

/-- The checks of one plan. The result is the target build the next plan has to share. -/
def validatePlanHeader (expected : Option ServerBuildIdentity) (plan : ColumnConversionPlan) :
    Except TargetCapabilityFailure ServerBuildIdentity := do
  if !plan.verifyDigest computedDigest then
    throw (plan.failure "target_capability.plan_digest_invalid"
      "the stored ColumnConversionPlan digest is invalid")
  if plan.sinkConnector.kind ≠ "postgresql" ∨ plan.sinkConnector.version ≠ targetVersion then
    throw (plan.failure "target_capability.sink_connector_mismatch"
      ("the plan targets " ++ plan.sinkConnector.kind ++ " " ++ plan.sinkConnector.version ++
        ", not postgresql " ++ targetVersion))
  match plan.targetBuild with
  | none => throw (plan.failure "target_capability.target_build_missing"
      "a plan-backed PostgreSQL apply requires an exact target build identity")
  | some targetBuild =>
    if targetBuild.product ≠ "postgresql" ∨
        ¬ targetVersion.toList.isPrefixOf targetBuild.version.toList then
      throw (plan.failure "target_capability.target_build_mismatch"
        ("the plan targets PostgreSQL build " ++ targetBuild.version ++ ", not version " ++
          targetVersion))
    if expected.any (· != targetBuild) then
      throw (plan.failure "target_capability.target_build_mismatch"
        "all ColumnConversionPlan values must target the same exact server build")
    if plan.qualification = .unsupported then
      throw (plan.failure "target_capability.unsupported_plan"
        "an unsupported conversion plan cannot be applied")
    if plan.confirmation = .required then
      throw (plan.failure "target_capability.confirmation_required"
        "the conversion plan requires route confirmation before apply")
    validateCarrierHeader plan
    return targetBuild

def validatePlanHeadersFrom : Option ServerBuildIdentity → List ColumnConversionPlan →
    Except TargetCapabilityFailure Unit
  | _, [] => .ok ()
  | expected, plan :: plans => do
    let targetBuild ← validatePlanHeader computedDigest targetVersion expected plan
    validatePlanHeadersFrom (expected <|> some targetBuild) plans

def validatePlanHeaders (plans : List ColumnConversionPlan) :
    Except TargetCapabilityFailure Unit :=
  if plans.isEmpty then
    .error ⟨"target_capability.plans_missing", none, none,
      "a plan-backed PostgreSQL apply requires at least one ColumnConversionPlan"⟩
  else validatePlanHeadersFrom computedDigest targetVersion none plans

end Plans

/-- Every column that is not generated has a plan. -/
def validatePlanCoverage (changes : List RowChange) (plans : List ColumnConversionPlan) :
    Except TargetCapabilityFailure Unit :=
  changes.forM fun change =>
    change.columns.forM fun column =>
      if column.generated ∨ (columnPlan change.schema change.table column plans).isSome then .ok ()
      else .error ⟨"target_capability.plan_missing_for_column", none, none,
        sanitizeCause ("no ColumnConversionPlan covers " ++ change.schema ++ "." ++ change.table ++
          "." ++ column.name)⟩

section Rendering

variable (library : ValueLibrary) (rules : PlanRules) (plans : List ColumnConversionPlan)

/-- A failed check of a plan as an error of the sink. -/
def planCheck {α : Type} (x : Except TargetCapabilityFailure α) : Except SinkError α :=
  x.mapError .targetCapability

/-- The parameter a value is bound to, and the type it is bound as. -/
def valueParameter (value : LogicalValue) (targetType : String) :
    Except SinkError (Parameter × String) := do
  let parameter ← parameterFor library value targetType
  let _ ← renderLogicalValue library value
  return (parameter, targetType)

/-- The parameter `datum_with_plan` pushes for a column, and none where it writes a NULL. -/
def datumParameter (column : ColumnDatum) (plan : Option ColumnConversionPlan) :
    Except SinkError (Option (Parameter × String)) :=
  match column.datum, plan with
  | .value value, some plan =>
    if plan.conversionKind = some "logical_value_json" then do
      planCheck (rules.validateValueAgainstPlan plan value)
      return some (.text (library.valueJson value), plan.target.nativeType)
    else do return some (← valueParameter library value plan.target.nativeType)
  | .value value, none => do return some (← valueParameter library value column.nativeType)
  | .sourceRepresentationEnvelope envelope, some plan =>
    if plan.conversionKind = some "source_representation" then do
      planCheck (rules.validateSourceRepresentationEnvelopeAgainstPlan plan envelope)
      return some (.binary (library.envelopeJson envelope), plan.target.nativeType)
    else .error (capabilityFailure
      "PostgreSQL Sink has no qualified carrier plan for source representation envelopes")
  | .sourceRepresentationEnvelope _, none => .error (capabilityFailure
      "PostgreSQL Sink has no qualified carrier plan for source representation envelopes")
  | .null, _ => .ok none
  | .unchanged, plan => .error <| capabilityFailure <|
      if isCarrierKind (plan.bind (·.conversionKind)) then "cannot bind an unchanged carrier value as a DML parameter"
      else "unavailable or unchanged values cannot be written in this position"
  | .unavailable, plan => .error <| capabilityFailure <|
      if isCarrierKind (plan.bind (·.conversionKind)) then "cannot bind an unavailable carrier value as a DML parameter"
      else "unavailable or unchanged values cannot be written in this position"

def pushParameter (parameter : Parameter) (targetType : String) : StatementBuilder Expression := do
  let expression ← parameterExpression parameter targetType
  let parameters ← get
  set (parameters ++ [parameter])
  return .parameter (parameters.length + 1) expression

def datumWithPlan (column : ColumnDatum) (plan : Option ColumnConversionPlan) :
    StatementBuilder Expression := do
  match ← datumParameter library rules column plan with
  | none => return .null
  | some (parameter, targetType) => pushParameter parameter targetType

/-- The value of a column of the change under its plan. -/
def changeDatum (schema table : String) (column : ColumnDatum) : StatementBuilder Expression :=
  datumWithPlan library rules column (columnPlan schema table column plans)

def keyPredicate (schema table : String) (column : ColumnDatum) :
    StatementBuilder (Condition String Expression) :=
  match column.datum with
  | .null => return .isNull column.name
  | .unavailable | .unchanged =>
    throw (capabilityFailure "cannot use an absent value as a row locator")
  | .value _ => return .equals column.name (← changeDatum library rules plans schema table column)
  | .sourceRepresentationEnvelope _ => throw (capabilityFailure
      "source representation envelopes cannot be used as a row locator")

def keyPredicates (schema table : String) (row : List ColumnDatum) :
    StatementBuilder (List (Condition String Expression)) := do
  if (keyColumns row).isEmpty then
    throw (capabilityFailure
      "table has no primary key; first PostgreSQL Sink version requires one")
  (keyColumns row).mapM (keyPredicate library rules plans schema table)

def renderInsert (schema table : String) (after : List ColumnDatum) :
    StatementBuilder (Statement String Expression) :=
  if (writableColumns after).isEmpty then
    throw (capabilityFailure "INSERT has no writable columns")
  else do
    let values ← (writableColumns after).mapM (changeDatum library rules plans schema table)
    return .insert ((writableColumns after).map (·.name)) values

def renderUpdate (schema table : String) (before after : List ColumnDatum) :
    StatementBuilder (Statement String Expression) :=
  if (writableColumns after).isEmpty then
    throw (capabilityFailure "UPDATE has no supplied writable columns")
  else do
    let assignments ← (writableColumns after).mapM fun column => do
      return (column.name, ← changeDatum library rules plans schema table column)
    return .update assignments (← keyPredicates library rules plans schema table before)

def renderDelete (schema table : String) (before : List ColumnDatum) :
    StatementBuilder (Statement String Expression) := do
  return .delete (← keyPredicates library rules plans schema table before)

/-- An image the operation cannot do without. -/
def image (row : Option (List ColumnDatum)) (message : String) :
    Except SinkError (List ColumnDatum) :=
  match row with
  | some row => .ok row
  | none => .error (capabilityFailure message)

def changeStatement (change : RowChange) : StatementBuilder (Statement String Expression) := do
  match change.operation with
  | .insert =>
    let after ← image change.after "INSERT ChangeEvent is missing its after image"
    renderInsert library rules plans change.schema change.table after
  | .update =>
    let before ← image change.before "UPDATE ChangeEvent is missing its before image"
    let after ← image change.after "UPDATE ChangeEvent is missing its after image"
    renderUpdate library rules plans change.schema change.table before after
  | .delete =>
    let before ← image change.before "DELETE ChangeEvent is missing its before image"
    renderDelete library rules plans change.schema change.table before

def renderChange (change : RowChange) : Except SinkError RenderedStatement := do
  let (statement, parameters) ← (changeStatement library rules plans change).run []
  return ⟨statement, parameters⟩

/-- A query for the rows that meet the conditions of a builder. -/
def prepareQuery (selected : Option String)
    (conditions : StatementBuilder (List (Condition String Expression))) :
    Except SinkError PreparedQuery := do
  let (conditions, parameters) ← conditions.run []
  return ⟨⟨selected, conditions⟩, parameters⟩

def renderProbe (change : RowChange) : Except SinkError (Option PreparedQuery) :=
  match change.operation with
  | .insert => .ok none
  | .update | .delete => do
    let before ← image change.before "row locator probe is missing its before image"
    return some (← prepareQuery none
      (keyPredicates library rules plans change.schema change.table before))

def generatedPredicate (schema table : String) (column : ColumnDatum) :
    StatementBuilder (Condition String Expression) :=
  match column.datum with
  | .null => return .isNull column.name
  | .value _ =>
    return .notDistinct column.name (← changeDatum library rules plans schema table column)
  | .unavailable | .unchanged => throw (capabilityFailure
      ("generated column " ++ column.name ++ " has no captured observation"))
  | .sourceRepresentationEnvelope _ => throw (capabilityFailure
      ("generated column " ++ column.name ++ " has no LogicalValue observation"))

/-- The check that the target computed the generated columns of the after image. -/
def renderVerification (change : RowChange) : Except SinkError (Option PreparedQuery) :=
  match change.operation with
  | .delete => .ok none
  | .insert | .update => do
    let after ← image change.after "generated-column verification is missing its after image"
    let generated := after.filter (·.generated)
    if generated.isEmpty then return none
    return some (← prepareQuery none (do
      let keys ← keyPredicates library rules plans change.schema change.table after
      return keys ++ (← generated.mapM
        (generatedPredicate library rules plans change.schema change.table))))

/-- The key a carrier is read back by. An unchanged key is looked up in the before image. -/
def readbackLocator (before after : List ColumnDatum) : Except SinkError (List ColumnDatum) :=
  (after.filter fun column => column.primaryKeyOrdinal.isSome).mapM fun key =>
    match key.datum with
    | .unchanged | .unavailable =>
      match before.find? fun prior =>
          prior.primaryKeyOrdinal == key.primaryKeyOrdinal && prior.name == key.name with
      | some prior => .ok prior
      | none => .error (capabilityFailure
          "carrier read-back cannot resolve an unchanged row locator")
    | _ => .ok key

/-- What a carrier has to hold after the statement. -/
def carrierExpectation (column : ColumnDatum) (plan : ColumnConversionPlan) :
    Except SinkError (Option CarrierReadbackExpected) :=
  match column.datum, plan.conversionKind with
  | .value value, some "logical_value_json" => do
    planCheck (rules.validateValueAgainstPlan plan value)
    return some (.logicalValue value)
  | .sourceRepresentationEnvelope envelope, some "source_representation" => do
    planCheck (rules.validateSourceRepresentationEnvelopeAgainstPlan plan envelope)
    return some (.sourceRepresentation (library.envelopeJson envelope))
  | .null, some "logical_value_json" => .ok (some (.sqlNull true))
  | .null, some "source_representation" => .ok (some (.sqlNull false))
  | _, _ => .ok none

def carrierReadback (change : RowChange) (locator : List ColumnDatum) (column : ColumnDatum) :
    Except SinkError (Option CarrierReadbackCheck) :=
  match columnPlan change.schema change.table column plans with
  | none => .ok none
  | some plan => do
    match ← carrierExpectation library rules column plan with
    | none => return none
    | some expected =>
      return some ⟨← prepareQuery (some column.name)
        (keyPredicates library rules plans change.schema change.table locator), column.name,
        expected⟩

def renderCarrierReadbacks (change : RowChange) : Except SinkError (List CarrierReadbackCheck) :=
  match change.operation with
  | .delete => .ok []
  | .insert | .update => do
    let after ← image change.after "carrier read-back is missing its after image"
    let locator ← readbackLocator (change.before.getD []) after
    if locator.isEmpty then
      throw (capabilityFailure "carrier read-back requires a primary-key row locator")
    let readbacks ← (after.filter fun column => !column.generated).mapM
      (carrierReadback library rules plans change locator)
    return readbacks.filterMap id

def ensureSupportedColumn (change : RowChange) (column : ColumnDatum) : Except SinkError Unit := do
  if column.generated && (column.datum matches .unavailable | .unchanged) then
    throw (capabilityFailure
      ("generated column " ++ column.name ++ " has no captured observation"))
  match column.datum, columnPlan change.schema change.table column plans with
  | .value value, some plan =>
    if plan.conversionKind = some "logical_value_json" then
      planCheck (rules.validateValueAgainstPlan plan value)
    else
      let _ ← (parameterFor library value plan.target.nativeType).mapError fun error =>
        capabilityFailure ("column " ++ column.name ++ ": " ++ display error)
  | .value value, none =>
    let _ ← (parameterFor library value column.nativeType).mapError fun error =>
      capabilityFailure ("column " ++ column.name ++ ": " ++ display error)
  | .sourceRepresentationEnvelope envelope, plan =>
    match plan.filter (·.conversionKind = some "source_representation") with
    | some plan => planCheck (rules.validateSourceRepresentationEnvelopeAgainstPlan plan envelope)
    | none => throw (capabilityFailure ("column " ++ column.name ++
        " has a Source Representation Envelope but no matching carrier plan"))
  | _, _ => return ()

def ensureSupportedImageWithPlans (change : RowChange) (row : List ColumnDatum) :
    Except SinkError Unit := do
  if row.isEmpty then throw (capabilityFailure "row image has no columns")
  if !row.any fun column => column.primaryKeyOrdinal.isSome then
    throw (capabilityFailure "row has no primary key")
  row.forM (ensureSupportedColumn library rules plans change)

def ensureSupportedChangeWithPlans (change : RowChange) : Except SinkError Unit := do
  let identity ← image (change.after <|> change.before) "row change image is missing"
  ensureSupportedImageWithPlans library rules plans change identity
  if let some before := change.before then
    ensureSupportedImageWithPlans library rules plans change before
  if let some after := change.after then
    ensureSupportedImageWithPlans library rules plans change after

def planChange (change : RowChange) : Except SinkError PlannedStatement := do
  ensureSupportedChangeWithPlans library rules plans change
  if eqIgnoreAsciiCase change.schema "cdc" then
    throw (capabilityFailure "cdc schema is reserved for replication control data")
  let rendered ← renderChange library rules plans change
  let probe ← renderProbe library rules plans change
  let verification ← renderVerification library rules plans change
  let carrierReadbacks ← renderCarrierReadbacks library rules plans change
  return ⟨change.schema, change.table, rendered, probe, verification, carrierReadbacks⟩

/-- The tables of a transaction, each once and in order. -/
def transactionTables (changes : List RowChange) : List (String × String) :=
  ((changes.map fun change => (change.schema, change.table)).dedup).insertionSort fun a b =>
    a.1 < b.1 ∨ (a.1 = b.1 ∧ ¬ b.2 < a.2)

def plannedSql (targetVersion : String) (transaction : ChangeTransaction) :
    Except SinkError SqlTransaction := do
  let statements ← transaction.changes.mapM (planChange library rules plans)
  return ⟨transaction.source.id, transaction.id, transaction.commitCursor, targetVersion,
    transactionTables transaction.changes, statements⟩

/-- Convert the transaction with its plans, validate it again and render it. -/
def sqlWithPlans (computedDigest : ColumnConversionPlan → String) (targetVersion : String)
    (validated : ValidatedTransaction library.toValidationLibrary) :
    Except SinkError SqlTransaction := do
  planCheck (validatePlanHeaders computedDigest targetVersion plans)
  planCheck (validatePlanCoverage validated.transaction.changes plans)
  let converted ← planCheck (convertTransactionWithPlans rules validated.transaction plans)
  let converted ← (validate library.toValidationLibrary converted).mapError .validation
  plannedSql library rules plans targetVersion converted.transaction

end Rendering

end DatabaseSync.PostgresqlSink
