import DatabaseSync.Library.Text
import Mathlib.Algebra.Order.Ring.Nat
import Mathlib.Tactic.IntervalCases

/-! # ASCII letters in lower case

Lower-casing changes the capital letters only, and what it gives is in lower case.
-/

namespace DatabaseSync.Text

variable {c : Char}

theorem isUpper_iff : 'A' ≤ c ∧ c ≤ 'Z' ↔ ∃ n < 26, c = Char.ofNat (65 + n) := by
  constructor
  · rintro ⟨hlow, hhigh⟩
    rw [Char.le_def, UInt32.le_iff_toNat_le] at hlow hhigh
    have hlow : 65 ≤ c.toNat := hlow
    have hhigh : c.toNat ≤ 90 := hhigh
    refine ⟨c.toNat - 65, by omega, ?_⟩
    rw [Nat.add_sub_cancel' hlow, Char.ofNat_toNat]
  · rintro ⟨n, hn, rfl⟩
    interval_cases n
    all_goals decide

/-- A character stays as it is or is one of the letters. -/
theorem toAsciiLower_cases (c : Char) :
    toAsciiLower c = c ∧ ¬ ('A' ≤ c ∧ c ≤ 'Z') ∨
      ∃ n < 26, c = Char.ofNat (65 + n) ∧ toAsciiLower c = Char.ofNat (97 + n) := by
  by_cases hupper : 'A' ≤ c ∧ c ≤ 'Z'
  · obtain ⟨n, hn, rfl⟩ := isUpper_iff.mp hupper
    refine .inr ⟨n, hn, rfl, ?_⟩
    interval_cases n
    all_goals decide
  · exact .inl ⟨if_neg hupper, hupper⟩

theorem toAsciiLower_idem (c : Char) : toAsciiLower (toAsciiLower c) = toAsciiLower c := by
  rcases toAsciiLower_cases c with ⟨hsame, -⟩ | ⟨n, hn, -, hlower⟩
  · rw [hsame, hsame]
  · rw [hlower]
    interval_cases n
    all_goals decide

/-- A property of characters that no letter has. -/
theorem toAsciiLower_eq_iff {x : Char} (hx : isAsciiAlphanumeric x = false) :
    toAsciiLower c = x ↔ c = x := by
  rcases toAsciiLower_cases c with ⟨hsame, -⟩ | ⟨n, hn, rfl, hlower⟩
  · rw [hsame]
  · rw [hlower]
    constructor
    · rintro rfl
      interval_cases n
      all_goals cases hx
    · rintro rfl
      interval_cases n
      all_goals cases hx

theorem isAsciiDigit_toAsciiLower (c : Char) :
    isAsciiDigit (toAsciiLower c) = isAsciiDigit c := by
  rcases toAsciiLower_cases c with ⟨hsame, -⟩ | ⟨n, hn, rfl, hlower⟩
  · rw [hsame]
  · rw [hlower]
    interval_cases n
    all_goals rfl

theorem isAsciiAlphanumeric_toAsciiLower (c : Char) :
    isAsciiAlphanumeric (toAsciiLower c) = isAsciiAlphanumeric c := by
  rcases toAsciiLower_cases c with ⟨hsame, -⟩ | ⟨n, hn, rfl, hlower⟩
  · rw [hsame]
  · rw [hlower]
    interval_cases n
    all_goals rfl

theorem toAsciiLowercase_idem (s : String) :
    toAsciiLowercase (toAsciiLowercase s) = toAsciiLowercase s := by
  unfold toAsciiLowercase
  rw [String.toList_ofList, List.map_map]
  congr 1
  exact List.map_congr_left fun c _ => toAsciiLower_idem c

theorem toList_toAsciiLowercase (s : String) :
    (toAsciiLowercase s).toList = s.toList.map toAsciiLower :=
  String.toList_ofList

/-- A character that is no letter is in the text before it was in lower case. -/
theorem mem_toAsciiLowercase_iff {s : String} {x : Char} (hx : isAsciiAlphanumeric x = false) :
    x ∈ (toAsciiLowercase s).toList ↔ x ∈ s.toList := by
  rw [toList_toAsciiLowercase, List.mem_map]
  constructor
  · rintro ⟨c, hc, hlower⟩
    rwa [(toAsciiLower_eq_iff hx).mp hlower] at hc
  · intro hmem
    exact ⟨x, hmem, (toAsciiLower_eq_iff hx).mpr rfl⟩

end DatabaseSync.Text
