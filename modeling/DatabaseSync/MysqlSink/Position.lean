import DatabaseSync.ChangeEvent.Failure
import DatabaseSync.ChangeEvent.Model
import DatabaseSync.Library.Base64
import DatabaseSync.Library.Text

/-! # Checkpoint positions of the MySQL sink

A source cursor names either a binlog file with an offset or a PostgreSQL LSN. Both are
stored as a file text and a number; the comparison depends on the checkpoint's mode.
-/

namespace DatabaseSync.MysqlSink

open ChangeEvent Text

def parsePostgresqlLsn (value : String) : Except IoError ℕ := do
  let some (upper, lower) := splitOnce value '/' | throw (.other "invalid PostgreSQL LSN")
  let some upper := u64FromStrRadix upper 16 | throw (.parse .parseIntError)
  let some lower := u64FromStrRadix lower 16 | throw (.parse .parseIntError)
  if 2 ^ 32 ≤ upper ∨ 2 ^ 32 ≤ lower then throw (.other "invalid PostgreSQL LSN")
  return upper * 2 ^ 32 + lower

def validatePosition (file : String) (position : ℕ) : Except IoError Unit :=
  if file.isEmpty ∨ 255 < file.utf8ByteSize ∨ ¬ isAscii file ∨ containsChar file '\x00' ∨
      containsChar file '/' ∨ containsChar file '\\' ∨ ¬ (4 ≤ position ∧ position < 2 ^ 32) then
    throw (.other "invalid binlog file or position")
  else pure ()

/-- The file and the number a cursor stands for. The upper half of an LSN is not bounded
here, and its bits above the word are shifted out. -/
def filePosition (cursor : SourceCursor) : Except IoError (String × ℕ) :=
  if cursor.format = "postgresql.lsn.v1" then do
    let some (upper, lower) := splitOnce cursor.value '/' |
      throw (.other "invalid PostgreSQL LSN")
    let some upper := u64FromStrRadix upper 16 | throw (.parse .parseIntError)
    let some lower := u64FromStrRadix lower 16 | throw (.parse .parseIntError)
    if 2 ^ 32 ≤ lower then throw (.other "invalid PostgreSQL LSN")
    return (cursor.value, upper * 2 ^ 32 % 2 ^ 64 + lower)
  else if cursor.format = "mysql.binlog.file-position.v1" then do
    let some bytes := Base64.decode cursor.value | throw (.parse .decodeError)
    let some split := bytes.findIdx? (· == 0) | throw (.other "invalid source cursor")
    let some file := fromUtf8 (bytes.take split) | throw (.parse .fromUtf8Error)
    match bytes.drop (split + 1) with
    | [b₃, b₂, b₁, b₀] =>
      let position := ((b₃.toNat * 256 + b₂.toNat) * 256 + b₁.toNat) * 256 + b₀.toNat
      validatePosition file position
      return (file, position)
    | _ => throw (.other "invalid cursor position")
  else throw (.other "unsupported source cursor")

def validateCheckpointPosition (mode file : String) (position : ℕ) : Except IoError Unit :=
  if mode = "postgresql_lsn" then do
    if (← parsePostgresqlLsn file) ≠ position then
      throw (.other "PostgreSQL LSN and checkpoint position disagree")
  else validatePosition file position

/-- The prefix and the number of a binlog file name. -/
def splitBinlogFile (file : String) : Except IoError (String × ℕ) := do
  let some (pre, number) := rsplitOnce file '.' | throw (.other "cannot compare binlog files")
  let some number := parseU64 number | throw (.parse .parseIntError)
  return (pre, number)

def comparePosition (a : String) (ap : ℕ) (b : String) (bp : ℕ) : Except IoError Ordering :=
  if a = b then return compare ap bp
  else do
    let (prefixA, numberA) ← splitBinlogFile a
    let (prefixB, numberB) ← splitBinlogFile b
    if prefixA ≠ prefixB then throw (.other "binlog history prefix changed")
    return (compare numberA numberB).then (compare ap bp)

def compareCheckpointPosition (mode : Option String) (a : String) (ap : ℕ) (b : String)
    (bp : ℕ) : Except IoError Ordering :=
  if mode = some "postgresql_lsn" then do
    if (← parsePostgresqlLsn a) ≠ ap ∨ (← parsePostgresqlLsn b) ≠ bp then
      throw (.other "PostgreSQL LSN and checkpoint position disagree")
    return compare ap bp
  else comparePosition a ap b bp

end DatabaseSync.MysqlSink
