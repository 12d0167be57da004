import DatabaseSync.ChangeEvent.RowStatement
import DatabaseSync.Library.Placeholder
import DatabaseSync.MysqlSink.Checkpoint
import DatabaseSync.MysqlSink.Value

/-! # Rendering a transaction for MySQL

The parameterized statements of a transaction under its saved plans. Placeholders are
positional: the server gives them the parameters in the order in which they are written.
-/

namespace DatabaseSync.MysqlSink

open ChangeEvent Checked Relational Text

/-- A placeholder in its expression. -/
inductive Placeholder
  | plain
  | convertUsing (charset : String)
  | fromWkb (srid : Option String)
deriving DecidableEq, Repr

def Placeholder.text : Placeholder → String
  | plain => "?"
  | convertUsing charset => "CONVERT(CAST(? AS BINARY) USING " ++ charset ++ ")"
  | fromWkb none => "ST_GeomFromWKB(?)"
  | fromWkb (some srid) => "ST_GeomFromWKB(?, " ++ srid ++ ")"

def quoteIdentifier (identifier : String) : String :=
  let quote := Char.ofNat 96
  String.ofList (quote :: (identifier.toList.flatMap fun c =>
    if c = quote then [c, c] else [c]) ++ [quote])

def qualifiedTable (schema table : String) : String :=
  quoteIdentifier schema ++ "." ++ quoteIdentifier table

def dialect : Dialect String Placeholder :=
  ⟨quoteIdentifier, Placeholder.text, fun s => "CAST(" ++ s ++ " AS BINARY)"⟩

structure PreparedQuery where
  query : Query String Placeholder
  params : List Value
deriving DecidableEq, Repr

inductive ReadbackExpected
  | sqlNull
  | logicalValue (value : LogicalValue)
  | sourceRepresentationEnvelope (bytes : List UInt8)

structure ReadbackCheck where
  query : PreparedQuery
  column : String
  expected : ReadbackExpected

structure PlannedStatement where
  schema : String
  table : String
  statement : Statement String Placeholder
  params : List Value
  probe : Option PreparedQuery
  operation : Operation
  verification : List ReadbackCheck

/-- The text that is sent to the server. -/
def PlannedStatement.sql (statement : PlannedStatement) : String :=
  statement.statement.text dialect (qualifiedTable statement.schema statement.table)

def writableColumns (row : List ColumnDatum) : List ColumnDatum := suppliedColumns row

section Plans

variable (computedDigest : ColumnConversionPlan → String) (targetVersion : String)

def validatePlanHeader (plan : ColumnConversionPlan) : Except TargetCapabilityFailure Unit := do
  if !plan.verifyDigest computedDigest then
    throw (plan.failure "target_capability.plan_digest_invalid"
      "the stored ColumnConversionPlan digest is invalid")
  if plan.sinkConnector.kind ≠ "mysql" ∨ plan.sinkConnector.version ≠ targetVersion then
    throw (plan.failure "target_capability.sink_connector_mismatch"
      ("the plan targets mysql " ++ plan.sinkConnector.version ++ ", not mysql " ++
        targetVersion))
  match plan.targetBuild with
  | none => throw (plan.failure "target_capability.target_build_missing"
      "a plan-backed MySQL apply requires an exact target build identity")
  | some targetBuild =>
    if targetBuild.product ≠ "mysql" ∨
        ¬ targetVersion.toList.isPrefixOf targetBuild.version.toList then
      throw (plan.failure "target_capability.target_build_mismatch"
        ("the plan targets a different MySQL server build than " ++ targetVersion))
    if plan.qualification = .unsupported then
      throw (plan.failure "target_capability.unsupported_plan"
        "an unsupported conversion plan cannot be applied")
    if plan.confirmation = .required then
      throw (plan.failure "target_capability.confirmation_required"
        "the conversion plan requires route confirmation before apply")

def validatePlanHeaders (plans : List ColumnConversionPlan) :
    Except TargetCapabilityFailure Unit :=
  match plans with
  | [] => .error ⟨"target_capability.plans_missing", none, none,
      "a plan-backed MySQL apply requires at least one ColumnConversionPlan"⟩
  | first :: _ => do
    plans.forM (validatePlanHeader computedDigest targetVersion)
    if plans.any fun plan => plan.targetBuild != first.targetBuild then
      throw (first.failure "target_capability.target_build_mismatch"
        "all column conversion plans must target the same exact server build")

end Plans

/-- Every column that is not generated has a plan. -/
def validatePlanCoverage (changes : List RowChange) (plans : List ColumnConversionPlan) :
    Except TargetCapabilityFailure Unit :=
  changes.forM fun change =>
    change.columns.forM fun column =>
      if column.generated ∨ (columnPlan change.schema change.table column plans).isSome then .ok ()
      else .error ⟨"target_capability.plan_missing_for_column", none, none,
        sanitizeCause ("no ColumnConversionPlan covers " ++ change.schema ++ "." ++ change.table ++
          "." ++ column.name)⟩

section Rendering

variable (library : ValueLibrary) (rules : PlanRules) (targetVersion : String)
  (plans : List ColumnConversionPlan)

def planCheck {α : Type} (x : Except TargetCapabilityFailure α) : Except SinkError α :=
  x.mapError .targetCapability

/-- The placeholder of a value that is not text. -/
def spatialPlaceholder (plan : Option ColumnConversionPlan) : Placeholder :=
  match plan with
  | none => .plain
  | some plan =>
    if targetVersion = "5.7" ∨ plan.conversionKind ≠ some "spatial" then .plain
    else .fromWkb ((plan.target.parameters.lookup "target_srid").filter fun srid =>
      (parseSigned (2 ^ 31) srid).isSome)

def valuePlaceholder (schema table : String) (column : ColumnDatum) : Placeholder :=
  let other := spatialPlaceholder targetVersion (columnPlan schema table column plans)
  match column.datum with
  | .value (.text charset _ _) => if isCharsetName charset then .convertUsing charset else other
  | _ => other

/-- The parameter of a value under its plan. -/
def bindValueWithPlan (plan : Option ColumnConversionPlan) (value : LogicalValue) :
    Except SinkError Value :=
  match plan with
  | none => bindLogicalValue library value
  | some plan =>
    if plan.conversionKind = some "recursive" ∨
        plan.conversionKind = some "logical_value_json" then do
      planCheck (rules.validateValueAgainstPlan plan value)
      return .bytes (utf8Bytes (library.valueJson value))
    else
      match value with
      | .text charset bytesBase64url _ => do
        let _ ← mysqlCharsetName charset
        return .bytes (← decodeBytes bytesBase64url)
      | value =>
        if plan.conversionKind = some "spatial" then mysqlSpatialValue targetVersion value
        else bindLogicalValue library value

def bindDatumWithPlan (schema table : String) (column : ColumnDatum) : Except SinkError Value :=
  match column.datum with
  | .unavailable | .unchanged =>
    .error (capabilityFailure "cannot render an unavailable or unchanged datum")
  | .null => .ok .null
  | .value value =>
    bindValueWithPlan library rules targetVersion (columnPlan schema table column plans) value
  | .sourceRepresentationEnvelope envelope =>
    match (columnPlan schema table column plans).filter
        (·.conversionKind = some "source_representation") with
    | some plan => do
      planCheck (rules.validateSourceRepresentationEnvelopeAgainstPlan plan envelope)
      return .bytes (library.envelopeJson envelope)
    | none => .error (capabilityFailure
        "MySQL Sink has no qualified carrier plan for source representation envelopes")

/-- A key condition and the parameter it takes, if any. -/
def keyPredicate (schema table : String) (column : ColumnDatum) :
    Except SinkError (Condition String Placeholder × List Value) :=
  let placeholder := valuePlaceholder targetVersion plans schema table column
  match column.datum with
  | .unavailable | .unchanged =>
    .error (capabilityFailure "cannot use an absent value as a predicate")
  | .null => .ok (.isNull column.name, [])
  | .value (.text ..) | .value (.binary ..) => do
    let param ← bindDatumWithPlan library rules targetVersion plans schema table column
    return (.equalsAsBinary column.name placeholder, [param])
  | .value _ => do
    let param ← bindDatumWithPlan library rules targetVersion plans schema table column
    return (.equals column.name placeholder, [param])
  | .sourceRepresentationEnvelope _ => .error (capabilityFailure
      "source representation envelopes cannot be used as a row locator")

def keyPredicatesWithPlans (schema table : String) (row : List ColumnDatum) :
    Except SinkError (List (Condition String Placeholder) × List Value) :=
  if (keyColumns row).isEmpty then
    .error (capabilityFailure "table has no primary key; first Sink version requires one")
  else do
    let predicates ← (keyColumns row).mapM
      (keyPredicate library rules targetVersion plans schema table)
    return (predicates.map Prod.fst, predicates.flatMap Prod.snd)

/-- An image the operation cannot do without, which has to hold a column. -/
def image (row : Option (List ColumnDatum)) (message label : String) :
    Except SinkError (List ColumnDatum) :=
  match row with
  | none => .error (.message message)
  | some row =>
    if row.isEmpty then .error (capabilityFailure (label ++ " image has no columns")) else .ok row

def writeInsert (schema table : String) (after : List ColumnDatum) :
    Except SinkError (Statement String Placeholder × List Value) :=
  if (writableColumns after).isEmpty then
    .error (capabilityFailure "INSERT has no writable columns")
  else do
    let params ← (writableColumns after).mapM
      (bindDatumWithPlan library rules targetVersion plans schema table)
    return (.insert ((writableColumns after).map (·.name))
      ((writableColumns after).map (valuePlaceholder targetVersion plans schema table)), params)

def writeUpdate (schema table : String) (before after : List ColumnDatum) :
    Except SinkError (Statement String Placeholder × List Value) :=
  if (writableColumns after).isEmpty then
    .error (capabilityFailure "UPDATE has no writable columns")
  else do
    let params ← (writableColumns after).mapM
      (bindDatumWithPlan library rules targetVersion plans schema table)
    let (predicates, keyParams) ←
      keyPredicatesWithPlans library rules targetVersion plans schema table before
    return (.update ((writableColumns after).map fun column =>
      (column.name, valuePlaceholder targetVersion plans schema table column)) predicates,
      params ++ keyParams)

def writeChangeWithPlans (change : RowChange) :
    Except SinkError (Statement String Placeholder × List Value) :=
  match change.operation with
  | .insert => do
    let after ← image change.after "INSERT ChangeEvent is missing its after image" "INSERT"
    writeInsert library rules targetVersion plans change.schema change.table after
  | .update => do
    let before ← image change.before "UPDATE ChangeEvent is missing its before image"
      "UPDATE before"
    let after ← image change.after "UPDATE ChangeEvent is missing its after image" "UPDATE after"
    writeUpdate library rules targetVersion plans change.schema change.table before after
  | .delete => do
    let before ← image change.before "DELETE ChangeEvent is missing its before image"
      "DELETE before"
    let (predicates, params) ←
      keyPredicatesWithPlans library rules targetVersion plans change.schema change.table before
    return (.delete predicates, params)

def prepareQuery (selected : Option String) (schema table : String) (locator : List ColumnDatum) :
    Except SinkError PreparedQuery := do
  let (predicates, params) ←
    keyPredicatesWithPlans library rules targetVersion plans schema table locator
  return ⟨⟨selected, predicates⟩, params⟩

def renderProbe (change : RowChange) : Except SinkError (Option PreparedQuery) :=
  match change.operation with
  | .insert => .ok none
  | .update | .delete => do
    return some (← prepareQuery library rules targetVersion plans none change.schema change.table
      (change.before.getD []))

/-- The key a column is read back by. An unchanged key is looked up in the before image. -/
def readbackLocator (before after : List ColumnDatum) : Except SinkError (List ColumnDatum) :=
  (after.filter fun column => column.primaryKeyOrdinal.isSome).mapM fun key =>
    match key.datum with
    | .unchanged | .unavailable =>
      match before.find? fun prior =>
          prior.primaryKeyOrdinal == key.primaryKeyOrdinal && prior.name == key.name with
      | some prior => .ok prior
      | none => .error (capabilityFailure
          "readback verification cannot resolve an unchanged row locator")
    | _ => .ok key

/-- What a column with a carrier or recursive plan has to hold after the statement. -/
def readbackExpectation (column : ColumnDatum) (plan : ColumnConversionPlan) :
    Except SinkError (Option ReadbackExpected) :=
  let kind := plan.conversionKind
  if kind ≠ some "recursive" ∧ kind ≠ some "logical_value_json" ∧
      kind ≠ some "source_representation" then .ok none
  else
    match column.datum with
    | .null => .ok (some .sqlNull)
    | .value value =>
      if kind = some "source_representation" then .error (capabilityFailure
        ("carrier plan does not match the presence state for column " ++ column.name))
      else do
        planCheck (rules.validateValueAgainstPlan plan value)
        return some (.logicalValue value)
    | .sourceRepresentationEnvelope envelope =>
      if kind = some "source_representation" then do
        planCheck (rules.validateSourceRepresentationEnvelopeAgainstPlan plan envelope)
        return some (.sourceRepresentationEnvelope (library.envelopeJson envelope))
      else .error (capabilityFailure
        ("carrier plan does not match the presence state for column " ++ column.name))
    | .unchanged | .unavailable => .ok none

def readbackCheck (change : RowChange) (after : List ColumnDatum) (column : ColumnDatum) :
    Except SinkError (Option ReadbackCheck) :=
  match columnPlan change.schema change.table column plans with
  | none => .ok none
  | some plan => do
    match ← readbackExpectation library rules column plan with
    | none => return none
    | some expected =>
      let locator ← readbackLocator (change.before.getD []) after
      return some ⟨← prepareQuery library rules targetVersion plans (some column.name)
        change.schema change.table locator, column.name, expected⟩

def readbackChecks (change : RowChange) : Except SinkError (List ReadbackCheck) :=
  match change.operation with
  | .delete => .ok []
  | .insert | .update =>
    match change.after with
    | none => .error (capabilityFailure "write is missing its after image")
    | some after => do
      let checks ← after.mapM (readbackCheck library rules targetVersion plans change after)
      return checks.filterMap id

def ensureSourceValueType (nativeType : String) (value : LogicalValue) (key : Option ℕ) :
    Except SinkError Unit :=
  let nativeType := toAsciiLowercase (trim nativeType)
  match value with
  | .boolean _ =>
    if nativeType ≠ "boolean" then
      .error (capabilityFailure "Boolean value does not match its source type")
    else if key.isSome then .error (capabilityFailure
      "Boolean and Uuid conversions cannot be used for a key")
    else .ok ()
  | .uuid _ =>
    if nativeType ≠ "uuid" then
      .error (capabilityFailure "Uuid value does not match its source type")
    else if key.isSome then .error (capabilityFailure
      "Boolean and Uuid conversions cannot be used for a key")
    else .ok ()
  | _ => .ok ()

/-- The values that are bound by their plan alone. -/
def bindsByPlan (kind : Option String) : Datum → Bool
  | .sourceRepresentationEnvelope _ => true
  | .value (.text ..) => true
  | _ => kind = some "recursive" || kind = some "logical_value_json" ||
    kind = some "source_representation" || kind = some "spatial"

def ensureSupportedColumn (change : RowChange) (column : ColumnDatum) : Except SinkError Unit :=
  match column.datum with
  | .unavailable | .unchanged => .ok ()
  | datum => do
    let kind := (columnPlan change.schema change.table column plans).bind (·.conversionKind)
    if bindsByPlan kind datum then
      let _ ← bindDatumWithPlan library rules targetVersion plans change.schema change.table column
    else if let .value value := datum then
      ensureSourceValueType column.nativeType value column.primaryKeyOrdinal
      let _ ← (bindLogicalValue library value).mapError fun error =>
        capabilityFailure ("column " ++ column.name ++ ": " ++ sinkErrorText error)

def ensureSupportedImageWithPlans (change : RowChange) (row : List ColumnDatum) :
    Except SinkError Unit := do
  if !row.any fun column => column.primaryKeyOrdinal.isSome then
    throw (capabilityFailure "row has no primary key")
  (row.filter fun column => !column.generated).forM
    (ensureSupportedColumn library rules targetVersion plans change)

def ensureSupportedChangeWithPlans (change : RowChange) : Except SinkError Unit := do
  let identity := (change.after <|> change.before).getD []
  ensureSupportedImageWithPlans library rules targetVersion plans change identity
  if let some before := change.before then
    ensureSupportedImageWithPlans library rules targetVersion plans change before
  if let some after := change.after then
    ensureSupportedImageWithPlans library rules targetVersion plans change after

def planChange (change : RowChange) : Except SinkError PlannedStatement := do
  ensureSupportedChangeWithPlans library rules targetVersion plans change
  let (statement, params) ← writeChangeWithPlans library rules targetVersion plans change
  let probe ← renderProbe library rules targetVersion plans change
  let verification ← readbackChecks library rules targetVersion plans change
  return ⟨change.schema, change.table, statement, params, probe, change.operation, verification⟩

/-- The tables of a transaction, each once and in order. -/
def transactionTables (changes : List RowChange) : List (String × String) :=
  ((changes.map fun change => (change.schema, change.table)).dedup).insertionSort fun a b =>
    a.1 < b.1 ∨ (a.1 = b.1 ∧ ¬ b.2 < a.2)

def plannedSql (transaction : ChangeTransaction) :
    Except SinkError (SqlTransaction PlannedStatement) := do
  let statements ← transaction.changes.mapM (planChange library rules targetVersion plans)
  return ⟨transaction.id, transaction.source.id, transaction.commitCursor,
    transactionTables transaction.changes, statements⟩

/-- Convert the transaction with its plans, validate it again and render it. -/
def sqlWithPlans (computedDigest : ColumnConversionPlan → String)
    (validated : ValidatedTransaction library.toValidationLibrary) :
    Except SinkError (SqlTransaction PlannedStatement) := do
  planCheck (validatePlanHeaders computedDigest targetVersion plans)
  planCheck (validatePlanCoverage validated.transaction.changes plans)
  let converted ← planCheck (convertTransactionWithPlans rules validated.transaction plans)
  let converted ← (validate library.toValidationLibrary converted).mapError .validation
  plannedSql library rules targetVersion plans converted.transaction

end Rendering

end DatabaseSync.MysqlSink
