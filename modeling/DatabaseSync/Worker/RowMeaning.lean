import DatabaseSync.MysqlSink.Effect
import DatabaseSync.PostgresqlSink.Effect

/-! # What a transaction does to its target

Both sinks execute the statements of a transaction in one transaction of the target. Either
nothing is left of them, or every row change has its effect, one after the other.
-/

namespace DatabaseSync.Worker

open ChangeEvent Checked Relational

/-- The outcome is a failure that leaves the content as it was, or every change has taken
effect. -/
def RollsBackOrLands {ν ε : Type} [BEq ν] (landing : Landing ν) (changes : List RowChange)
    (content : Content ν) (outcome : Except ε (Content ν)) : Prop :=
  (∃ error, outcome = .error error ∧ contentAfter content outcome = content) ∨
    ∃ content', outcome = .ok content' ∧ contentAfter content outcome = content' ∧
      RowEffects landing changes content content'

theorem RollsBackOrLands.of_ok {ν ε : Type} [BEq ν] {landing : Landing ν}
    {changes : List RowChange} {content : Content ν} {outcome : Except ε (Content ν)}
    (h : ∀ content', outcome = .ok content' → RowEffects landing changes content content') :
    RollsBackOrLands landing changes content outcome := by
  cases outcome with
  | error error => exact Or.inl ⟨error, rfl, rfl⟩
  | ok content' => exact Or.inr ⟨content', rfl, rfl, h content' rfl⟩

/-- On both sinks, the statements that are rendered for a transaction have exactly the effects
of its row changes or none, if a bound parameter denotes its datum. -/
theorem executeStatements_rollsBackOrLands :
    (∀ (ν : Type) [BEq ν] (server : MysqlSink.Server ν) (library : MysqlSink.ValueLibrary)
      (rules : PlanRules) (targetVersion : String) (plans : List ColumnConversionPlan)
      (computedDigest : ColumnConversionPlan → String)
      (meaning : Option ColumnConversionPlan → ColumnDatum → ν)
      (validated : ValidatedTransaction library.toValidationLibrary)
      (plan : MysqlSink.SqlTransaction MysqlSink.PlannedStatement) (content : Content ν),
      MysqlSink.BindsDatums server library rules targetVersion plans meaning →
      MysqlSink.sqlWithPlans library rules targetVersion plans computedDigest validated =
        .ok plan →
      RollsBackOrLands
        ((MysqlSink.convertedLanding server.asBinary plans meaning).afterConversion rules plans)
        validated.transaction.changes content
        (MysqlSink.executeStatements server content plan)) ∧
    ∀ (ν : Type) [BEq ν] (server : PostgresqlSink.Server ν)
      (library : PostgresqlSink.ValueLibrary) (rules : PlanRules) (targetVersion : String)
      (plans : List ColumnConversionPlan) (computedDigest : ColumnConversionPlan → String)
      (meaning : Option ColumnConversionPlan → ColumnDatum → ν)
      (validated : ValidatedTransaction library.toValidationLibrary)
      (plan : PostgresqlSink.SqlTransaction) (content : Content ν),
      PostgresqlSink.BindsDatums server library rules meaning →
      PostgresqlSink.sqlWithPlans library rules plans computedDigest targetVersion validated =
        .ok plan →
      RollsBackOrLands
        ((PostgresqlSink.convertedLanding plans meaning).afterConversion rules plans)
        validated.transaction.changes content
        (PostgresqlSink.executeStatements server content plan) := by
  constructor
  · intro ν _ server library rules targetVersion plans computedDigest meaning validated plan
      content hbind hplan
    apply RollsBackOrLands.of_ok
    intro content' hrun
    exact MysqlSink.executeStatements_effects hbind hplan hrun
  · intro ν _ server library rules targetVersion plans computedDigest meaning validated plan
      content hbind hplan
    apply RollsBackOrLands.of_ok
    intro content' hrun
    exact PostgresqlSink.executeStatements_effects hbind hplan hrun

section Sample

/-- A row of the table `shop.stock`: its key and a count. -/
def stockRow (id : ℕ) (count : Datum) : List ColumnDatum :=
  [⟨0, "id", "integer", some 0, false, none, .value (.integer true 32 (toString id))⟩,
    ⟨1, "count", "integer", none, false, none, count⟩]

/-- The key of the row changes from 1 to 2, and its count stays. -/
def stockChange : RowChange where
  database := none
  operation := .update
  schema := "shop"
  table := "stock"
  sourceCursor := ⟨"mysql-binlog", "binlog.000001:200", "200"⟩
  sourceTimestamp := 0
  schemaBasis := "snapshot"
  before := some (stockRow 1 (.value (.integer true 32 "7")))
  after := some (stockRow 2 .unchanged)

def stockTransaction : ChangeTransaction where
  source := ⟨"mysql", "8.0", "3e11fa47-71ca-11e1-9e33-c80aa9429562"⟩
  id := "3e11fa47-71ca-11e1-9e33-c80aa9429562:1"
  beginCursor := ⟨"mysql-binlog", "binlog.000001:100", "100"⟩
  commitCursor := ⟨"mysql-binlog", "binlog.000001:200", "200"⟩
  changes := [stockChange]

def stockPlan (sink : ConnectorIdentity) (targetBuild : ServerBuildIdentity) (column : String) :
    ColumnConversionPlan where
  routeId := column
  configurationRevision := "1"
  sourceField := ⟨lineage "shop" "stock" column, "integer"⟩
  targetField := ⟨lineage "shop" "stock" column, "integer"⟩
  sinkConnector := sink
  targetBuild := some targetBuild
  target := ⟨"integer", []⟩
  rule := ⟨"exact", "1"⟩
  capabilityCode := "exact"
  targetProbeDigest := none
  qualification := .exact
  locatorImpact := .preserved
  confirmation := .notRequired
  parameters := []
  failurePolicy := .reject
  planDigest := column

def stockPlans (sink : ConnectorIdentity) (targetBuild : ServerBuildIdentity) :
    List ColumnConversionPlan :=
  [stockPlan sink targetBuild "id", stockPlan sink targetBuild "count"]

/-- Exact plans leave every value as it is. -/
def exactRules : PlanRules where
  validateValueAgainstPlan _ _ := .ok ()
  validateSourceRepresentationEnvelopeAgainstPlan _ _ := .ok ()
  convertValueWithPlan _ value := .ok value

/-- A table with the key `id` and one row. -/
def stockTable {ν : Type} [BEq ν] (id count : ν) : Table String ν where
  schema := ⟨["id"], fun _ => false, fun _ => none, some, by rintro _ _ _ ⟨⟩ _; rfl⟩
  rows := [fun column => if column = "id" then some id else some count]
  unique := List.pairwise_singleton _ _

def stockContent {ν : Type} [BEq ν] (id count : ν) : Content ν := fun name =>
  if name = ("shop", "stock") then some (stockTable id count) else none

namespace Mysql

open MysqlSink

def sampleLibrary : ValueLibrary where
  digestBytes _ := ""
  debug s := s
  valueJson _ := ""
  envelopeJson _ := []
  stringJson s := s
  displayFloat _ _ := ""

def samplePlans : List ColumnConversionPlan :=
  stockPlans ⟨"mysql", "8.0"⟩ ⟨"mysql", "community", "8.0.36", "1"⟩

def sampleValidated : ValidatedTransaction sampleLibrary.toValidationLibrary :=
  ⟨stockTransaction, by decide +kernel⟩

/-- The value a datum is bound as. -/
def boundAs (plan : Option ColumnConversionPlan) (column : ColumnDatum) : Value :=
  match column.datum with
  | .value value =>
    (bindValueWithPlan sampleLibrary exactRules "8.0" plan value).toOption.getD .null
  | .sourceRepresentationEnvelope envelope => .bytes (sampleLibrary.envelopeJson envelope)
  | _ => .null

/-- A server that stores the parameters as they are bound. -/
def sampleServer : Server Value where
  engine _ := some "InnoDB"
  triggers _ := 0
  evaluate _ param := if param = .null then none else some (some param)
  asBinary := id
  readbackFailure _ _ := none
  updatedRows _ _ := 1
  admits _ _ := true

theorem sampleServer_bindsDatums :
    BindsDatums sampleServer sampleLibrary exactRules "8.0" samplePlans boundAs := by
  intro schema table column param x hparam hx
  simp only [sampleServer, ite_eq_iff, reduceCtorEq, and_false, false_or, Option.some.injEq] at hx
  obtain ⟨hnull, rfl⟩ := hx
  unfold bindDatumWithPlan at hparam
  unfold columnValue datumValue boundAs
  split at hparam
  · cases hparam
  · cases hparam
  · cases hparam
    contradiction
  next hvalue => simp [hvalue, hparam, Except.toOption]
  next henvelope =>
    split at hparam
    · simp only [bind_eq_ok, pure_eq, Except.ok.injEq] at hparam
      obtain ⟨-, -, rfl⟩ := hparam
      simp [henvelope]
    · cases hparam

end Mysql

namespace Postgresql

open PostgresqlSink

def sampleLibrary : ValueLibrary where
  digestBytes _ := ""
  debug s := s
  valueJson _ := ""
  envelopeJson _ := []
  stringJson s := s
  displayFloat _ _ := ""
  formatUtc _ _ := none

def samplePlans : List ColumnConversionPlan :=
  stockPlans ⟨"postgresql", "15"⟩ ⟨"postgresql", "community", "15.6", "1"⟩

def sampleValidated : ValidatedTransaction sampleLibrary.toValidationLibrary :=
  ⟨stockTransaction, by decide +kernel⟩

/-- The parameter a datum is bound as. -/
def boundAs (plan : Option ColumnConversionPlan) (column : ColumnDatum) : Parameter :=
  match datumParameter sampleLibrary exactRules column plan with
  | .ok (some (parameter, _)) => parameter
  | _ => .text ""

/-- A server that stores the parameters as they are bound. -/
def sampleServer : Server Parameter where
  relation _ := some ⟨"r", "p", false, false, 0⟩
  evaluate _ parameter := some parameter
  readsBack _ _ := true
  admits _ _ := true

theorem sampleServer_bindsDatums :
    BindsDatums sampleServer sampleLibrary exactRules boundAs := by
  intro column plan parameter targetType expression v hparameter _ hv
  cases hv
  simp [boundAs, hparameter]

end Postgresql

theorem exists_of_isOk {ε α : Type} {x : Except ε α} (h : x.isOk = true) : ∃ a, x = .ok a := by
  cases x with
  | error error => cases h
  | ok a => exact ⟨a, rfl⟩

theorem executeStatements_rollsBackOrLands_stock :
    (∃ plan, MysqlSink.sqlWithPlans Mysql.sampleLibrary exactRules "8.0" Mysql.samplePlans
        ColumnConversionPlan.planDigest Mysql.sampleValidated = .ok plan ∧
      RollsBackOrLands ((MysqlSink.convertedLanding id Mysql.samplePlans
          Mysql.boundAs).afterConversion exactRules Mysql.samplePlans)
        stockTransaction.changes (stockContent (.int 1) (.int 7))
        (MysqlSink.executeStatements Mysql.sampleServer (stockContent (.int 1) (.int 7)) plan)) ∧
    ∃ plan, PostgresqlSink.sqlWithPlans Postgresql.sampleLibrary exactRules Postgresql.samplePlans
        ColumnConversionPlan.planDigest "15" Postgresql.sampleValidated = .ok plan ∧
      RollsBackOrLands ((PostgresqlSink.convertedLanding Postgresql.samplePlans
          Postgresql.boundAs).afterConversion exactRules Postgresql.samplePlans)
        stockTransaction.changes (stockContent (.integer 1) (.integer 7))
        (PostgresqlSink.executeStatements Postgresql.sampleServer
          (stockContent (.integer 1) (.integer 7)) plan) := by
  constructor
  · obtain ⟨plan, hplan⟩ := exists_of_isOk (x := MysqlSink.sqlWithPlans Mysql.sampleLibrary
      exactRules "8.0" Mysql.samplePlans ColumnConversionPlan.planDigest Mysql.sampleValidated)
      (by decide +kernel)
    exact ⟨plan, hplan, executeStatements_rollsBackOrLands.1 _ _ _ _ _ _ _ _ _ _ _
      Mysql.sampleServer_bindsDatums hplan⟩
  · obtain ⟨plan, hplan⟩ := exists_of_isOk (x := PostgresqlSink.sqlWithPlans
      Postgresql.sampleLibrary exactRules Postgresql.samplePlans ColumnConversionPlan.planDigest
      "15" Postgresql.sampleValidated) (by decide +kernel)
    exact ⟨plan, hplan, executeStatements_rollsBackOrLands.2 _ _ _ _ _ _ _ _ _ _ _
      Postgresql.sampleServer_bindsDatums hplan⟩

end Sample

end DatabaseSync.Worker
