import DatabaseSync.ChangeEvent.Validate
import DatabaseSync.Library.Lines

/-! # JSON lines of a transaction

A validated transaction is written as one line for its begin, one for each row change and one for
its commit, each with the identity of the transaction and its place in it. How one line is
written and read is a parameter.
-/

namespace DatabaseSync.ChangeEvent

open Checked Lines

def FORMAT : String := "cdc.change-event-json.v0.3"
def PREVIOUS_FORMAT : String := "cdc.change-event-json.v0.2"
def LEGACY_FORMAT : String := "cdc.change-event-json.v0.1"
def HISTORICAL_FORMAT : String := "cdc.change-event-json.v0"

inductive Payload
  | transactionBegin
  | rowChange (change : RowChange)
  | transactionCommit (changeCount : ℕ)

structure TransactionHeader where
  id : String
  sequence : ℕ
  beginCursor : SourceCursor
  commitCursor : SourceCursor
deriving DecidableEq, Repr

/-- One line, as `ChangeEvent` when it is written and as `Envelope` when it is read. -/
structure Envelope where
  format : String
  source : Source
  transaction : TransactionHeader
  payload : Payload

/-- `serde_json` on one line: the bytes of its text, and what the bytes of a line say. -/
structure LineCodec where
  toWriter : Envelope → Except String (List UInt8)
  fromSlice : List UInt8 → Except String Envelope

/-- The envelope is written on one line and read back from it. -/
def LineCodec.Faithful (codec : LineCodec) (envelope : Envelope) : Prop :=
  ∃ text, codec.toWriter envelope = .ok text ∧ newline ∉ text ∧
    codec.fromSlice (text ++ [newline]) = .ok envelope

namespace ChangeTransaction

variable (transaction : ChangeTransaction)

def event (sequence : ℕ) (payload : Payload) : Envelope where
  format := FORMAT
  source := transaction.source
  transaction := ⟨transaction.id, sequence, transaction.beginCursor, transaction.commitCursor⟩
  payload := payload

/-- The row changes from a place in the transaction on. -/
def rowEvents (sequence : ℕ) (changes : List RowChange) : List Envelope :=
  (changes.zipIdx sequence).map fun (change, sequence) =>
    transaction.event sequence (.rowChange change)

/-- What `json` emits, in order. -/
def events : List Envelope :=
  transaction.event 0 .transactionBegin :: (transaction.rowEvents 1 transaction.changes ++
    [transaction.event (transaction.changes.length + 1)
      (.transactionCommit transaction.changes.length)])

@[simp]
theorem rowEvents_nil (sequence : ℕ) : transaction.rowEvents sequence [] = [] := rfl

@[simp]
theorem rowEvents_cons (sequence : ℕ) (change : RowChange) (changes : List RowChange) :
    transaction.rowEvents sequence (change :: changes) =
      transaction.event sequence (.rowChange change) ::
        transaction.rowEvents (sequence + 1) changes := rfl

theorem rowEvents_append (sequence : ℕ) (changes changes' : List RowChange) :
    transaction.rowEvents sequence (changes ++ changes') =
      transaction.rowEvents sequence changes ++
        transaction.rowEvents (sequence + changes.length) changes' := by
  rw [rowEvents, rowEvents, rowEvents, List.zipIdx_append, List.map_append, Nat.add_comm]

end ChangeTransaction

section Json

variable {library : ValidationLibrary} (codec : LineCodec)

/-- One line with its newline. -/
def emit (envelope : Envelope) : Except String (List UInt8) := do
  return (← codec.toWriter envelope) ++ [newline]

/-- The bytes of the text that `json` returns. -/
def json (validated : ValidatedTransaction library) : Except String (List UInt8) := do
  let lines ← validated.transaction.events.mapM (emit codec)
  return lines.flatten

end Json

end DatabaseSync.ChangeEvent
