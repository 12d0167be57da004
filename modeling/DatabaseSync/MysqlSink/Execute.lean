import DatabaseSync.MysqlSink.Render

/-! # Executing a transaction on MySQL

The statements of a transaction run in order on the tables of the target. Whatever goes wrong
ends the transaction, which leaves the target as it was.
-/

namespace DatabaseSync.MysqlSink

open ChangeEvent Checked Relational Text

/-- The server: its catalog, the value of a parameter in its placeholder, the cast to bytes,
what is wrong with a stored carrier, how many rows it reports for an update, and whether
it carries a statement out without an error or a warning. -/
structure Server (ν : Type) [BEq ν] where
  engine : String × String → Option String
  triggers : String × String → ℕ
  evaluate : Placeholder → Value → Option (Option ν)
  asBinary : ν → ν
  readbackFailure : ReadbackExpected → Option ν → Option String
  updatedRows : Table String ν → PlannedStatement → ℕ
  admits : Content ν → PlannedStatement → Bool

section Execution

variable {ν : Type} [BEq ν] (server : Server ν)

/-- A placeholder takes the next parameter. -/
def takeParam (placeholder : Placeholder) : StateT (List Value) Option (Option ν) := fun params =>
  match params with
  | [] => none
  | param :: rest => (server.evaluate placeholder param).map fun x => (x, rest)

/-- The result of a reading that uses up all parameters. -/
def bindParams {β : Type} (reading : StateT (List Value) Option β) (params : List Value) :
    Option β :=
  match reading.run params with
  | some (bound, []) => some bound
  | _ => none

def checkTable (name : String × String) : Except SinkError Unit := do
  if eqIgnoreAsciiCase name.1 "CDC" then
    throw (capabilityFailure "CDC is reserved for replication control data")
  if server.engine name ≠ some "InnoDB" then
    throw (capabilityFailure "atomic Sink writes require InnoDB business tables")
  if server.triggers name ≠ 0 then
    throw (capabilityFailure
      "Sink triggers require separate qualification; transaction rolled back")

/-- The rows a query returns. -/
def execQuery (table : Table String ν) (prepared : PreparedQuery) :
    Except SinkError (List (Option (Option ν))) :=
  match bindParams (prepared.query.mapM (takeParam server)) prepared.params with
  | none => .error .database
  | some query => .ok (table.runQuery server.asBinary query)

def checkProbe (table : Table String ν) (probe : Option PreparedQuery) : Except SinkError Unit :=
  match probe with
  | none => .ok ()
  | some probe => do
    let rows ← execQuery server table probe
    if rows.length ≠ 1 then
      throw (.message ("row locator matched " ++ toString rows.length ++
        " rows; transaction rolled back"))

/-- The table after a statement. -/
def execDrop (table : Table String ν) (statement : PlannedStatement) :
    Except SinkError (Table String ν × ℕ) :=
  match bindParams (statement.statement.mapM (takeParam server)) statement.params with
  | none => .error .database
  | some bound =>
    match table.run server.asBinary bound with
    | none => .error .database
    | some table' =>
      .ok (table', if statement.operation = .update then server.updatedRows table statement
        else table.affected server.asBinary bound)

def verifyReadback (table : Table String ν) (check : ReadbackCheck) : Except SinkError Unit := do
  match ← execQuery server table check.query with
  | [row] =>
    if let some failure := server.readbackFailure check.expected row.join then
      throw (capabilityFailure ("carrier readback for column " ++ check.column ++ " " ++ failure ++
        "; transaction rolled back"))
  | rows => throw (capabilityFailure ("carrier readback for column " ++ check.column ++
      " matched " ++ toString rows.length ++ " rows; transaction rolled back"))

def executeStatement (content : Content ν) (statement : PlannedStatement) :
    Except SinkError (Content ν) := do
  if !server.admits content statement then throw .database
  match content (statement.schema, statement.table) with
  | none => throw .database
  | some table =>
    checkProbe server table statement.probe
    let (table', affected) ← execDrop server table statement
    if (statement.operation ≠ .update ∧ affected ≠ 1) ∨
        (statement.operation = .update ∧ affected > 1) then
      throw (.message ("unexpected affected row count " ++ toString affected ++
        "; transaction rolled back"))
    statement.verification.forM (verifyReadback server table')
    return Function.update content (statement.schema, statement.table) (some table')

def executeStatements (content : Content ν) (plan : SqlTransaction PlannedStatement) :
    Except SinkError (Content ν) := do
  plan.tables.forM (checkTable server)
  plan.statements.foldlM (executeStatement server) content

end Execution

end DatabaseSync.MysqlSink
