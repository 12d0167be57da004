import DatabaseSync.Library.Digits

/-! # Log sequence numbers

The text form of a WAL position, and that it is read back as written.
-/

namespace DatabaseSync.PostgresqlSource

open Text

/-- Upper-case hexadecimal digits. -/
def hexDigits (n : ℕ) : List Char := (Nat.toDigits 16 n).map Char.toUpper

/-- `format_lsn` -/
def formatLsn (lsn : ℕ) : String :=
  String.ofList (hexDigits (lsn / 2 ^ 32) ++ '/' :: hexDigits (lsn % 2 ^ 32))

/-- `parse_postgresql_lsn` -/
def parsePostgresqlLsn (value : String) : Option ℕ := do
  let (upper, lower) ← splitOnce value '/'
  let upper ← u64FromStrRadix upper 16
  let lower ← u64FromStrRadix lower 16
  if 2 ^ 32 ≤ upper ∨ 2 ^ 32 ≤ lower then none else some (upper * 2 ^ 32 + lower)

section RoundTrip

theorem toDigit_hexDigit {d : ℕ} (h : d < 16) : toDigit 16 d.digitChar.toUpper = some d := by
  interval_cases d <;> decide

theorem hexDigit_ne {d : ℕ} (h : d < 16) :
    d.digitChar.toUpper ≠ '/' ∧ d.digitChar.toUpper ≠ '+' := by
  interval_cases d <;> decide

/-- The last digit, after those of the quotient. -/
theorem hexDigits_of_le {n : ℕ} (h : 16 ≤ n) :
    hexDigits n = hexDigits (n / 16) ++ [(n % 16).digitChar.toUpper] := by
  rw [hexDigits, Nat.toDigits_of_base_le (by decide) h, List.map_append]
  rfl

theorem mem_hexDigits {c : Char} {n : ℕ} (h : c ∈ hexDigits n) :
    ∃ d < 16, c = d.digitChar.toUpper := by
  induction n using Nat.strongRecOn with
  | ind n ih =>
    by_cases hn : n < 16
    · rw [hexDigits, Nat.toDigits_of_lt_base hn] at h
      exact ⟨n, hn, by simpa using h⟩
    · rw [hexDigits_of_le (not_lt.mp hn), List.mem_append, List.mem_singleton] at h
      rcases h with h | rfl
      · exact ih (n / 16) (Nat.div_lt_self (by omega) (by omega)) h
      · exact ⟨n % 16, Nat.mod_lt n (by omega), rfl⟩

theorem hexDigits_ne_nil (n : ℕ) : hexDigits n ≠ [] := by
  simp [hexDigits]

theorem digitsBelow_hexDigits {n bound : ℕ} (h : n < bound) :
    digitsBelow 16 bound 0 (hexDigits n) = some n := by
  induction n using Nat.strongRecOn with
  | ind n ih =>
    by_cases hn : n < 16
    · simp [hexDigits, Nat.toDigits_of_lt_base hn, digitsBelow, toDigit_hexDigit hn, h]
    · have hlt : n / 16 < n := Nat.div_lt_self (by omega) (by omega)
      rw [hexDigits_of_le (not_lt.mp hn), digitsBelow_append, ih (n / 16) hlt (by omega)]
      have hd : n / 16 * 16 + n % 16 = n := by omega
      simp [digitsBelow, toDigit_hexDigit (Nat.mod_lt n (by omega)), hd, h]

theorem u64FromStrRadix_hexDigits {n : ℕ} (h : n < 2 ^ 64) :
    u64FromStrRadix (String.ofList (hexDigits n)) 16 = some n := by
  have hsign : dropPlus (hexDigits n) = hexDigits n := by
    unfold dropPlus
    split
    · next rest hrest =>
      obtain ⟨d, hd, hc⟩ := mem_hexDigits (n := n) (hrest ▸ List.mem_cons_self ..)
      exact absurd hc.symm (hexDigit_ne hd).2
    · rfl
  rw [u64FromStrRadix, parseUnsigned, String.toList_ofList, hsign]
  rw [if_neg (by simp [hexDigits_ne_nil]), digitsBelow_hexDigits h]

/-- A position is read back as it was written. -/
theorem parse_formatLsn {lsn : ℕ} (h : lsn < 2 ^ 64) :
    parsePostgresqlLsn (formatLsn lsn) = some lsn := by
  have hslash : '/' ∉ hexDigits (lsn / 2 ^ 32) := by
    intro hmem
    obtain ⟨d, hd, hc⟩ := mem_hexDigits hmem
    exact (hexDigit_ne hd).1 hc.symm
  have hupper : lsn / 2 ^ 32 < 2 ^ 32 := by omega
  have hlower : lsn % 2 ^ 32 < 2 ^ 32 := Nat.mod_lt _ (by omega)
  have hsum : lsn / 2 ^ 32 * 2 ^ 32 + lsn % 2 ^ 32 = lsn := by omega
  simp only [parsePostgresqlLsn, formatLsn, splitOnce, String.toList_ofList,
    splitFirst_append hslash, Option.map_some, Option.bind_eq_bind, Option.bind_some,
    u64FromStrRadix_hexDigits (hupper.trans (by omega)),
    u64FromStrRadix_hexDigits (hlower.trans (by omega))]
  rw [if_neg (by omega), hsum]

end RoundTrip

end DatabaseSync.PostgresqlSource
