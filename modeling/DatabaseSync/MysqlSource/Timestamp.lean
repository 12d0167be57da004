import DatabaseSync.ChangeEvent.Temporal

/-! # Timestamps of the binary log

The instant of the components of a `TIMESTAMP` column, which the server sends in UTC.
-/

namespace DatabaseSync.MysqlSource

open Calendar ChangeEvent

/-- The components are unsigned and the year has 16 bits, so that nothing overflows. -/
def timestampFromComponents (year month day hour minute second microsecond : ℕ) :
    Except String LogicalValue :=
  if year = 0 ∨ day = 0 ∨ daysInMonth year month < day ∨ 24 ≤ hour ∨ 60 ≤ minute ∨ 60 ≤ second ∨
      1000000 ≤ microsecond then .error "invalid TIMESTAMP date value"
  else
    let y : ℤ := year - if month ≤ 2 then 1 else 0
    let era := (if 0 ≤ y then y else y - 399).tdiv 400
    let yearOfEra := y - era * 400
    let monthPrime := (month : ℤ) + if 2 < month then -3 else 9
    let dayOfYear := (153 * monthPrime + 2) / 5 + day - 1
    let dayOfEra := yearOfEra * 365 + yearOfEra / 4 - yearOfEra / 100 + dayOfYear
    let days := era * 146097 + dayOfEra - 719468
    let unixSeconds := days * 86400 + hour * 3600 + minute * 60 + second
    .ok (.instant (toString unixSeconds) (microsecond * 1000))

variable {civil : CivilTime} {microsecond year : ℕ}

/-- The components of a civil time after the year 0 are its seconds. -/
theorem timestampFromComponents_eq (hvalid : civil.Valid) (hyear : civil.date.year = year)
    (hpos : 1 ≤ year) (hmicro : microsecond < 1000000) :
    timestampFromComponents year civil.date.month civil.date.day civil.hour civil.minute
      civil.second microsecond =
        .ok (.instant (toString civil.unixSeconds) (microsecond * 1000)) := by
  obtain ⟨hdate, hhour, hminute, hsecond⟩ := hvalid
  have hdays := Calendar.daysFromCivil_eq hdate
  have hday := hdate.day_pos
  have hle := hdate.day_le
  rw [hyear] at hdays hle
  unfold timestampFromComponents CivilTime.unixSeconds
  rw [daysInMonth_eq, if_neg (by omega), ← hdays]
  have hwinter : ((civil.date.month : ℤ) ≤ 2) = (civil.date.month ≤ 2) := by norm_cast
  have hsummer : (2 < (civil.date.month : ℤ)) = (2 < civil.date.month) := by norm_cast
  have hera : ∀ y : ℤ, 0 ≤ y → (if 0 ≤ y then y else y - 399).tdiv 400 = y / 400 := by
    intro y hy
    rw [if_pos hy, Int.tdiv_eq_ediv_of_nonneg hy]
  unfold Calendar.daysFromCivil
  simp only [hwinter, hsummer]
  rw [hera _ (by split <;> omega)]

example : timestampFromComponents 1970 1 2 0 0 1 5 = .ok (.instant "86401" 5000) := rfl

end DatabaseSync.MysqlSource
