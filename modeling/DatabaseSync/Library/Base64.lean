import Mathlib.Data.Nat.Notation
import Mathlib.Data.String.Basic
import Mathlib.Tactic.IntervalCases

/-! # Unpadded URL-safe base64

The alphabet of RFC 4648 with `-` and `_`, without padding characters. Decoding rejects
foreign characters, a dangling single character and nonzero trailing bits.
-/

namespace DatabaseSync.Base64

/-- The value of one alphabet character. -/
def sextet (c : Char) : Option ℕ :=
  if 'A' ≤ c ∧ c ≤ 'Z' then some (c.toNat - 'A'.toNat)
  else if 'a' ≤ c ∧ c ≤ 'z' then some (c.toNat - 'a'.toNat + 26)
  else if '0' ≤ c ∧ c ≤ '9' then some (c.toNat - '0'.toNat + 52)
  else if c = '-' then some 62
  else if c = '_' then some 63
  else none

/-- Decode the characters four at a time. -/
def decodeChars : List Char → Option (List UInt8)
  | [] => some []
  | [_] => none
  | [c₀, c₁] => do
    let a ← sextet c₀
    let b ← sextet c₁
    if b % 16 = 0 then some [UInt8.ofNat (a * 4 + b / 16)] else none
  | [c₀, c₁, c₂] => do
    let a ← sextet c₀
    let b ← sextet c₁
    let c ← sextet c₂
    if c % 4 = 0 then
      some [UInt8.ofNat (a * 4 + b / 16), UInt8.ofNat (b % 16 * 16 + c / 4)]
    else none
  | c₀ :: c₁ :: c₂ :: c₃ :: rest => do
    let a ← sextet c₀
    let b ← sextet c₁
    let c ← sextet c₂
    let d ← sextet c₃
    let tail ← decodeChars rest
    some (UInt8.ofNat (a * 4 + b / 16) :: UInt8.ofNat (b % 16 * 16 + c / 4) ::
      UInt8.ofNat (c % 4 * 64 + d) :: tail)

/-- Decode an unpadded URL-safe text. -/
def decode (s : String) : Option (List UInt8) := decodeChars s.toList

example : decode "Zm9vYg" = some [102, 111, 111, 98] := by decide

/-- The alphabet character of a value below 64. -/
def sextetChar (n : ℕ) : Char :=
  if n < 26 then Char.ofNat ('A'.toNat + n)
  else if n < 52 then Char.ofNat ('a'.toNat + (n - 26))
  else if n < 62 then Char.ofNat ('0'.toNat + (n - 52))
  else if n = 62 then '-'
  else '_'

/-- Encode the bytes three at a time. -/
def encodeBytes : List UInt8 → List Char
  | [] => []
  | [a] => [sextetChar (a.toNat / 4), sextetChar (a.toNat % 4 * 16)]
  | [a, b] => [sextetChar (a.toNat / 4), sextetChar (a.toNat % 4 * 16 + b.toNat / 16),
      sextetChar (b.toNat % 16 * 4)]
  | a :: b :: c :: rest =>
    sextetChar (a.toNat / 4) :: sextetChar (a.toNat % 4 * 16 + b.toNat / 16) ::
      sextetChar (b.toNat % 16 * 4 + c.toNat / 64) :: sextetChar (c.toNat % 64) ::
      encodeBytes rest

/-- Encode bytes as unpadded URL-safe text. -/
def encode (bytes : List UInt8) : String := String.ofList (encodeBytes bytes)

example : encode [102, 111, 111, 98] = "Zm9vYg" := by decide

/-! ## Round trip -/

theorem sextet_sextetChar {n : ℕ} (h : n < 64) : sextet (sextetChar n) = some n := by
  interval_cases n <;> decide

theorem decodeChars_encodeBytes (bytes : List UInt8) :
    decodeChars (encodeBytes bytes) = some bytes := by
  induction bytes using encodeBytes.induct with
  | case1 => rfl
  | case2 a =>
    have ha : a.toNat < 256 := a.toNat_lt
    rw [encodeBytes, decodeChars, sextet_sextetChar (by omega), sextet_sextetChar (by omega)]
    have hlow : a.toNat % 4 * 16 % 16 = 0 := by omega
    have hbyte : a.toNat / 4 * 4 + a.toNat % 4 * 16 / 16 = a.toNat := by omega
    simp only [Option.bind_eq_bind, Option.bind_some, hlow, hbyte, if_true, UInt8.ofNat_toNat]
  | case3 a b =>
    have ha : a.toNat < 256 := a.toNat_lt
    have hb : b.toNat < 256 := b.toNat_lt
    rw [encodeBytes, decodeChars, sextet_sextetChar (by omega), sextet_sextetChar (by omega),
      sextet_sextetChar (by omega)]
    have hlow : b.toNat % 16 * 4 % 4 = 0 := by omega
    have hfirst : a.toNat / 4 * 4 + (a.toNat % 4 * 16 + b.toNat / 16) / 16 = a.toNat := by omega
    have hsecond : (a.toNat % 4 * 16 + b.toNat / 16) % 16 * 16 + b.toNat % 16 * 4 / 4 =
        b.toNat := by omega
    simp only [Option.bind_eq_bind, Option.bind_some, hlow, hfirst, hsecond, if_true,
      UInt8.ofNat_toNat]
  | case4 a b c rest ih =>
    have ha : a.toNat < 256 := a.toNat_lt
    have hb : b.toNat < 256 := b.toNat_lt
    have hc : c.toNat < 256 := c.toNat_lt
    rw [encodeBytes, decodeChars, sextet_sextetChar (by omega), sextet_sextetChar (by omega),
      sextet_sextetChar (by omega), sextet_sextetChar (by omega), ih]
    have hfirst : a.toNat / 4 * 4 + (a.toNat % 4 * 16 + b.toNat / 16) / 16 = a.toNat := by omega
    have hsecond : (a.toNat % 4 * 16 + b.toNat / 16) % 16 * 16 +
        (b.toNat % 16 * 4 + c.toNat / 64) / 4 = b.toNat := by omega
    have hthird : (b.toNat % 16 * 4 + c.toNat / 64) % 4 * 64 + c.toNat % 64 = c.toNat := by omega
    simp only [Option.bind_eq_bind, Option.bind_some, hfirst, hsecond, hthird,
      UInt8.ofNat_toNat]

/-- What is encoded is decoded again. -/
@[simp]
theorem decode_encode (bytes : List UInt8) : decode (encode bytes) = some bytes := by
  rw [decode, encode, String.toList_ofList, decodeChars_encodeBytes]

end DatabaseSync.Base64
