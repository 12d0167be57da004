import DatabaseSync.ChangeEvent.BitString
import DatabaseSync.Library.Digits

/-! # Values of BIT columns

The driver delivers the bytes of a `BIT` value and the decoder keeps them.
-/

namespace DatabaseSync.MysqlSource

open ChangeEvent Text

def nativeBitLength (nativeType : String) : Except String ℕ := do
  let declared := ((splitOnce nativeType '(').bind fun declaration =>
    splitOnce declaration.2 ')').elim "1" Prod.fst
  match parseU64 (trim declared) with
  | none => throw "invalid BIT length"
  | some length =>
    if 1 ≤ length ∧ length ≤ 64 then return length
    else throw "BIT length is outside MySQL 5.7 limits"

/-- The branch of `decode_mysql_value` for the bytes of a `BIT` column. -/
def decodeBit (nativeType : String) (bytes : List UInt8) : Except String LogicalValue := do
  let bitLength ← nativeBitLength nativeType
  return .bitString (Base64.encode bytes) bitLength (zeroPadding bitLength) .lsbFirst

/-! ## The declared length -/

theorem splitOnce_append {c : Char} {l r : List Char} (h : c ∉ l) :
    splitOnce (String.ofList (l ++ c :: r)) c = some (String.ofList l, String.ofList r) := by
  rw [splitOnce, String.toList_ofList, splitFirst_append h]
  rfl

theorem trim_eq_self {l : List Char} (h : ∀ c ∈ l, isWhitespace c = false) :
    trim (String.ofList l) = String.ofList l := by
  have hdrop : ∀ l : List Char, (∀ c ∈ l, isWhitespace c = false) →
      l.dropWhile isWhitespace = l := by
    intro l hl
    cases l with
    | nil => rfl
    | cons c l => rw [List.dropWhile_cons_of_neg (by simp [hl c List.mem_cons_self])]
  rw [trim, String.toList_ofList, hdrop l h, hdrop l.reverse (by simpa using h),
    List.reverse_reverse]

/-- The digits of a number hold nothing that is trimmed, nor a bracket. -/
theorem digit_facts {n : ℕ} {c : Char} (h : c ∈ Nat.toDigits 10 n) :
    isWhitespace c = false ∧ c ≠ ')' := by
  obtain ⟨d, hd, rfl⟩ := mem_toDigits (by decide) h
  interval_cases d <;> decide

/-- The length of a declaration is read back. -/
theorem nativeBitLength_declared {n : ℕ} (hpos : 1 ≤ n) (hle : n ≤ 64) :
    nativeBitLength ("bit(" ++ toString n ++ ")") = .ok n := by
  have htext : "bit(" ++ toString n ++ ")" =
      String.ofList (['b', 'i', 't'] ++ '(' :: (Nat.toDigits 10 n ++ [')'])) := by
    rw [← String.toList_inj]
    simp [String.toList_append]
  have hopen : splitOnce ("bit(" ++ toString n ++ ")") '(' =
      some (String.ofList ['b', 'i', 't'], String.ofList (Nat.toDigits 10 n ++ [')'])) := by
    rw [htext]
    exact splitOnce_append (by decide)
  have hclose : splitOnce (String.ofList (Nat.toDigits 10 n ++ [')'])) ')' =
      some (String.ofList (Nat.toDigits 10 n), String.ofList []) :=
    splitOnce_append fun hmem => (digit_facts hmem).2 rfl
  have htrim : trim (String.ofList (Nat.toDigits 10 n)) = String.ofList (Nat.toDigits 10 n) :=
    trim_eq_self fun c hc => (digit_facts hc).1
  have hparse : parseU64 (String.ofList (Nat.toDigits 10 n)) = some n :=
    parseUnsigned_toDigits (by decide) (by decide) (lt_of_le_of_lt hle (by norm_num))
  unfold nativeBitLength
  rw [hopen, Option.bind_some, hclose, Option.elim_some]
  dsimp only
  rw [htrim, hparse]
  dsimp only
  rw [if_pos ⟨hpos, hle⟩]
  rfl

end DatabaseSync.MysqlSource
