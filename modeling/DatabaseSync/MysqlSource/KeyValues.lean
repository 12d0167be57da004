import DatabaseSync.MysqlSource.Decoder
import Mathlib.Data.Sum.Order

/-! # Key values

A stored value, and what the driver delivers of it when it is selected bare. An `ENUM` or `SET`
value is ordered by its number but delivered as its labels. Values of the other types are of type
`σ`, in the order of their type.
-/

namespace DatabaseSync.MysqlSource

variable {σ κ : Type}

/-- A stored key value: the number of an `ENUM` or `SET` value, or a value of another type. -/
inductive KeyValue (σ : Type)
  | number (number : ℕ)
  | plain (value : σ)
deriving DecidableEq, Repr

namespace KeyValue

def toSum : KeyValue σ → ℕ ⊕ₗ σ
  | number n => toLex (Sum.inl n)
  | plain v => toLex (Sum.inr v)

theorem toSum_injective : Function.Injective (toSum (σ := σ)) := by
  intro a b hab
  cases a with
  | number m =>
    cases b with
    | number n => simpa [toSum] using hab
    | plain w => simp [toSum] at hab
  | plain v =>
    cases b with
    | number n => simp [toSum] at hab
    | plain w => simpa [toSum] using hab

/-- `ORDER BY` of one column. -/
instance [LinearOrder σ] : LinearOrder (KeyValue σ) := LinearOrder.lift' toSum toSum_injective

variable [LinearOrder σ]

@[simp]
theorem number_lt_number {m n : ℕ} : (number m : KeyValue σ) < number n ↔ m < n :=
  Sum.Lex.inl_lt_inl_iff

@[simp]
theorem plain_lt_plain {v w : σ} : plain v < plain w ↔ v < w :=
  Sum.Lex.inr_lt_inr_iff

end KeyValue

/-- A key value as the driver delivers it and as it is bound back. -/
inductive KeyParameter (σ : Type)
  | label (text : String)
  | plain (value : σ)
deriving DecidableEq, Repr

def isLabelled (column : ColumnInfo) : Bool := column.dataType == "enum" || column.dataType == "set"

/-- The label of an `ENUM` value. The number 0 stands for the empty text. -/
def enumText (members : List String) : ℕ → String
  | 0 => ""
  | n + 1 => members.getD n ""

/-- The labels of a `SET` value, separated by commas. -/
def setText (members : List String) (bits : ℕ) : String :=
  ",".intercalate ((members.zipIdx.filter fun member => bits.testBit member.2).map Prod.fst)

/-- What the server knows of key columns: the labels of an `ENUM` or `SET`, what a text is compared
as in the collation of a column, and what a value of another type is compared as. -/
structure KeyServer (σ κ : Type) where
  members : ColumnInfo → List String
  weight : ColumnInfo → String → κ
  compared : ColumnInfo → σ → κ

namespace KeyServer

variable (server : KeyServer σ κ) (column : ColumnInfo)

def text (number : ℕ) : String :=
  if column.dataType == "enum" then enumText (server.members column) number
  else setText (server.members column) number

/-- The values that a column can hold. -/
def Holds : KeyValue σ → Prop
  | .number n => isLabelled column ∧
      if column.dataType == "enum" then n ≤ (server.members column).length
      else n < 2 ^ (server.members column).length
  | .plain _ => ¬ isLabelled column

def deliver : KeyValue σ → KeyParameter σ
  | .number n => .label (server.text column n)
  | .plain v => .plain v

def comparedAs : KeyParameter σ → κ
  | .label text => server.weight column text
  | .plain v => server.compared column v

/-- A column is compared with a text by its label. -/
def image (value : KeyValue σ) : κ := server.comparedAs column (server.deliver column value)

end KeyServer

end DatabaseSync.MysqlSource
