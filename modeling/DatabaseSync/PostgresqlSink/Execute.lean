import DatabaseSync.PostgresqlSink.Render

/-! # Executing a transaction on PostgreSQL

The statements of a transaction run in order on the tables of the target. Whatever goes wrong
ends the transaction, which leaves the target as it was.
-/

namespace DatabaseSync.PostgresqlSink

open ChangeEvent Checked Relational Placeholder Text

/-- What the catalog says about a table. -/
structure RelationFacts where
  relkind : String
  relpersistence : String
  rowSecurity : Bool
  forceRowSecurity : Bool
  userTriggers : ℕ
deriving DecidableEq, Repr

/-- The server: its catalog, the value of a bound parameter in its expression, what it reads
back from a stored carrier, and whether it carries a statement out at all. -/
structure Server (ν : Type) [BEq ν] where
  relation : String × String → Option RelationFacts
  evaluate : ParameterExpression → Parameter → Option ν
  readsBack : CarrierReadbackExpected → Option ν → Bool
  admits : Content ν → PlannedStatement → Bool

section Execution

variable {ν : Type} [BEq ν] (server : Server ν)

/-- The value of an expression, none if it cannot be evaluated. -/
def Expression.evaluate (parameters : List Parameter) : Expression → Option (Option ν)
  | null => some none
  | parameter index expression =>
    if index = 0 then none
    else do
      let parameter ← parameters[index - 1]?
      return some (← server.evaluate expression parameter)

def checkTable (name : String × String) : Except SinkError Unit := do
  if eqIgnoreAsciiCase name.1 "cdc" then
    throw (capabilityFailure "cdc schema is reserved for replication control data")
  match server.relation name with
  | none => throw (capabilityFailure
      ("target table " ++ name.1 ++ "." ++ name.2 ++ " does not exist"))
  | some relation =>
    if relation.relkind ≠ "r" ∨ relation.relpersistence ≠ "p" then
      throw (capabilityFailure
        ("target " ++ name.1 ++ "." ++ name.2 ++ " must be an ordinary permanent table"))
    if relation.rowSecurity || relation.forceRowSecurity then
      throw (capabilityFailure
        ("target " ++ name.1 ++ "." ++ name.2 ++ " uses row-level security"))
    if relation.userTriggers ≠ 0 then
      throw (capabilityFailure ("target " ++ name.1 ++ "." ++ name.2 ++ " has user triggers"))

/-- The rows a query returns. -/
def fetchAll (table : Table String ν) (prepared : PreparedQuery) :
    Except SinkError (List (Option (Option ν))) :=
  match prepared.query.mapM (Expression.evaluate server prepared.parameters) with
  | none => .error .database
  | some query => .ok (table.runQuery id query)

def fetchOne (table : Table String ν) (prepared : Option PreparedQuery) (message : ℕ → String) :
    Except SinkError Unit :=
  match prepared with
  | none => .ok ()
  | some prepared => do
    let rows ← fetchAll server table prepared
    if rows.length ≠ 1 then throw (.message (message rows.length))

/-- The table after a statement, and the number of affected rows. -/
def executeRendered (table : Table String ν) (rendered : RenderedStatement) :
    Except SinkError (Table String ν × ℕ) :=
  match rendered.statement.mapM (Expression.evaluate server rendered.parameters) with
  | none => .error .database
  | some statement =>
    match table.run id statement with
    | none => .error .database
    | some table' => .ok (table', table.affected id statement)

def verifyCarrierReadback (table : Table String ν) (check : CarrierReadbackCheck) :
    Except SinkError Unit := do
  match ← fetchAll server table check.query with
  | [row] =>
    if !server.readsBack check.expected row.join then
      throw (capabilityFailure ("carrier read-back for column " ++ check.column ++
        " changed or invalidated its stored value; transaction rolled back"))
  | rows => throw (capabilityFailure ("carrier read-back for column " ++ check.column ++
      " matched " ++ toString rows.length ++ " rows; transaction rolled back"))

def executeStatement (content : Content ν) (statement : PlannedStatement) :
    Except SinkError (Content ν) := do
  if !server.admits content statement then throw .database
  match content (statement.schema, statement.table) with
  | none => throw .database
  | some table =>
    fetchOne server table statement.probe fun rows =>
      "row locator matched " ++ toString rows ++ " rows; transaction rolled back"
    let (table', affected) ← executeRendered server table statement.rendered
    if affected ≠ 1 then
      throw (.message ("unexpected affected row count " ++ toString affected ++
        "; transaction rolled back"))
    fetchOne server table' statement.verification fun _ =>
      "generated-column observation disagrees with target; transaction rolled back"
    statement.carrierReadbacks.forM (verifyCarrierReadback server table')
    return Function.update content (statement.schema, statement.table) (some table')

def executeStatements (content : Content ν) (plan : SqlTransaction) :
    Except SinkError (Content ν) := do
  plan.tables.forM (checkTable server)
  plan.statements.foldlM (executeStatement server) content

end Execution

end DatabaseSync.PostgresqlSink
