import DatabaseSync.ChangeEvent.DecimalPlan
import DatabaseSync.Planner.Decimals
import DatabaseSync.Planner.Entries
import Mathlib.Data.List.TakeWhile

/-! # Range-checked decimal columns

The check of a plan compares the digits of a value before its point with those of the target. For
a target whose scale exceeds its precision that is not enough: its column starts behind the point.
-/

namespace DatabaseSync.Planner

open ChangeEvent Checked Decimal TargetRepresentation Text

/-! ## Digits before and after a place -/

section Digits

variable {digits : List Char} {n k : ℕ} {scale : ℤ}

theorem decimalValue_eq_zero_iff (h : ∀ c ∈ digits, isAsciiDigit c = true) :
    decimalValue digits = 0 ↔ ∀ c ∈ digits, c = '0' := by
  rw [← coefficient_eq_nil_iff h, coefficient, List.dropWhile_eq_nil_iff]
  simp

/-- The digits after a place are zeros exactly if its power of ten divides the number. -/
theorem discardedZeros_iff (h : ∀ c ∈ digits, isAsciiDigit c = true) :
    discardedZeros digits n = true ↔ 10 ^ n ∣ decimalValue digits := by
  have hpadded : ∀ c ∈ List.replicate (max digits.length n - digits.length) '0' ++ digits,
      isAsciiDigit c = true := by
    intro c hc
    rcases List.mem_append.mp hc with hzero | hdigit
    · obtain rfl := List.eq_of_mem_replicate hzero
      decide
    · exact h c hdigit
  have hlength : (List.replicate (max digits.length n - digits.length) '0' ++ digits).length =
      max digits.length n := by
    rw [List.length_append, List.length_replicate]
    omega
  have hvalue := decimalValue_zeros (max digits.length n - digits.length) digits
  unfold discardedZeros
  dsimp only
  generalize List.replicate (max digits.length n - digits.length) '0' ++ digits = padded at *
  have hdrop : (padded.drop (padded.length - n)).length = n := by
    rw [List.length_drop]
    omega
  have hdigits : ∀ c ∈ padded.drop (padded.length - n), isAsciiDigit c = true :=
    fun c hc => hpadded c (List.mem_of_mem_drop hc)
  have hlast := decimalValue_lt hdigits
  rw [hdrop] at hlast
  rw [← hvalue, ← List.take_append_drop (padded.length - n) padded, decimalValue_append, hdrop,
    List.take_append_drop, Nat.dvd_add_right (Nat.dvd_mul_left _ _), List.all_eq_true]
  constructor
  · intro hzeros
    rw [(decimalValue_eq_zero_iff hdigits).mpr (by simpa using hzeros)]
    exact dvd_zero _
  · intro hdvd
    simpa using (decimalValue_eq_zero_iff hdigits).mp (Nat.eq_zero_of_dvd_of_lt hdvd hlast)

/-- The digits without the last `m` are the quotient. -/
theorem decimalValue_take (h : ∀ c ∈ digits, isAsciiDigit c = true) (m : ℕ) :
    decimalValue (digits.take (digits.length - m)) = decimalValue digits / 10 ^ m := by
  have hrest : ∀ c ∈ digits.drop (digits.length - m), isAsciiDigit c = true :=
    fun c hc => h c (List.mem_of_mem_drop hc)
  have hlast := decimalValue_lt hrest
  rw [List.length_drop] at hlast
  rcases Nat.le_total m digits.length with hle | hle
  · have hm : digits.length - (digits.length - m) = m := by omega
    rw [hm] at hlast
    conv_rhs => rw [← List.take_append_drop (digits.length - m) digits]
    rw [decimalValue_append, List.length_drop, hm, Nat.mul_comm,
      Nat.mul_add_div (by positivity), Nat.div_eq_of_lt hlast, Nat.add_zero]
  · have hm : digits.length - m = 0 := by omega
    rw [hm, List.take_zero, Nat.div_eq_of_lt]
    · rfl
    · calc decimalValue digits < 10 ^ digits.length := decimalValue_lt h
        _ ≤ 10 ^ m := Nat.pow_le_pow_right (by decide) hle

/-- The digits before the point bound the number. -/
theorem integerDigits_le_iff (h : ∀ c ∈ digits, isAsciiDigit c = true) :
    integerDigits digits scale ≤ k ↔ decimalValue digits < 10 ^ (k + scale).toNat := by
  unfold integerDigits
  split
  · next hscale =>
    obtain ⟨m, rfl⟩ := Int.eq_ofNat_of_zero_le hscale
    have hexponent : ((k : ℤ) + (m : ℤ)).toNat = k + m := by omega
    have hwhole := decimalValue_take h m
    have htake : ∀ c ∈ digits.take (digits.length - m), isAsciiDigit c = true :=
      fun c hc => h c (List.mem_of_mem_take hc)
    rw [Int.toNat_natCast, hexponent, pow_add, ← Nat.div_lt_iff_lt_mul (by positivity), ← hwhole]
    exact length_coefficient_le_iff htake
  · next hscale =>
    have hlength := length_coefficient_le_iff (k := k - scale.natAbs) h
    have hnil := coefficient_eq_nil_iff h
    have hexponent : ((k : ℤ) + scale).toNat = k - scale.natAbs := by omega
    rw [← List.length_eq_zero_iff] at hnil
    dsimp only
    rw [hexponent, ← hlength]
    change (if (coefficient digits).length = 0 then 0 else
      (coefficient digits).length + scale.natAbs) ≤ k ↔ _
    split
    · omega
    · omega

end Digits

/-! ## What a plan accepts -/

section Check

variable {plan : ChangeEvent.ColumnConversionPlan} {source target : DecimalColumn}
  {unscaled : String} {scale : ℤ}

/-- A finite decimal value: an optional minus sign and digits. -/
structure FiniteDecimal (unscaled : String) (scale : ℤ) : Prop where
  valid : decimal unscaled scale = .ok ()
  finite : isSpecialDecimal unscaled = false

theorem FiniteDecimal.digits (h : FiniteDecimal unscaled scale) :
    isDigits (dropMinus unscaled.toList) = true := by
  have hvalid := h.valid
  rwa [decimal, h.finite, if_neg Bool.false_ne_true, ensure_eq_ok] at hvalid

theorem FiniteDecimal.isAsciiDigit (h : FiniteDecimal unscaled scale) :
    ∀ c ∈ dropMinus unscaled.toList, isAsciiDigit c = true := by
  have hdigits := h.digits
  rw [isDigits, Bool.and_eq_true, List.all_eq_true] at hdigits
  exact hdigits.2

/-- The check takes the digits that the validation takes. -/
theorem FiniteDecimal.decimalDigits_eq (h : FiniteDecimal unscaled scale) :
    decimalDigits unscaled = some (dropMinus unscaled.toList) := by
  rw [decimalDigits, stripSign_eq_dropMinus h.digits, if_pos h.digits]

theorem expectedIntegerDigits_eq (h : target.Valid) :
    expectedIntegerDigits target.precision target.scale =
      some (max ((target.precision : ℤ) - target.scale) 0).toNat := by
  have hwidth := h.width
  have hscale := h.scale_ge
  norm_num at hwidth
  rw [expectedIntegerDigits, if_pos]
  constructor
  · norm_num
    omega
  · norm_num
    omega

/-- The steps of the check under a plan for two columns. -/
theorem validateDecimal_iff (h : DecimalPlan plan source target) (hsource : source.Valid)
    (htarget : target.Valid) (hfinite : FiniteDecimal unscaled scale) :
    validateAgainstDecimalPlan plan (.decimal unscaled scale) = .ok () ↔
      Carries source.scale scale ∧
      (target.scale < scale → scale - target.scale < 2 ^ 31 ∧
        discardedZeros (dropMinus unscaled.toList) (scale - target.scale).toNat = true) ∧
      integerDigits (dropMinus unscaled.toList) scale ≤
        (max ((target.precision : ℤ) - target.scale) 0).toNat := by
  have hsourcePositive : source.precision ≠ 0 := Nat.ne_of_gt hsource.pos
  have htargetPositive : target.precision ≠ 0 := Nat.ne_of_gt htarget.pos
  have hnan : unscaled ≠ "NaN" := by
    rintro rfl
    exact absurd hfinite.finite (by decide)
  have hcarries : (scale == source.scale || (source.scale < 0 && scale == 0) ||
      unscaled == "NaN") = true ↔ Carries source.scale scale := by
    simp [Carries, hnan]
  unfold validateAgainstDecimalPlan validateDecimalPlanValue
  simp only [h.rangeCheck, h.roundingMode, h.sourcePrecision, h.sourceScale, h.targetPrecision,
    h.targetScale, h.integerDigits, expectedIntegerDigits_eq htarget, hfinite.decimalDigits_eq,
    validateDecimalSpecialValue, hfinite.finite, ColumnConversionPlan.needs, ok_bind, bind_eq_ok,
    ColumnConversionPlan.check_eq_ok, pure_eq, beq_self_eq_true, exists_const, true_and,
    Bool.false_eq_true, if_false, hsourcePositive, hsource.scale_ge, hsource.scale_le,
    htargetPositive, htarget.scale_ge, htarget.scale_le, bne_iff_ne, ne_eq, not_false_eq_true,
    decide_true, Bool.and_true, hcarries]
  refine and_congr_right fun _ => ?_
  split
  · next hlt =>
    simp only [bind_eq_ok, ColumnConversionPlan.check_eq_ok, decide_eq_true_eq, exists_const, hlt,
      forall_const, and_assoc]
  · next hnot =>
    simp only [ColumnConversionPlan.check_eq_ok, decide_eq_true_eq, hnot, false_implies, true_and]

/-- The plan accepts a finite value at the scale of its source that is a multiple of the last place
of the target and has no more digits before its point. -/
theorem acceptsDecimal_iff (h : DecimalPlan plan source target) (hsource : source.Valid)
    (htarget : target.Valid) (hfinite : FiniteDecimal unscaled scale) :
    validateAgainstDecimalPlan plan (.decimal unscaled scale) = .ok () ↔
      Carries source.scale scale ∧
      (∃ k : ℤ, decimalNumber unscaled scale = k * 10 ^ (-target.scale)) ∧
      |decimalNumber unscaled scale| < 10 ^ max ((target.precision : ℤ) - target.scale) 0 := by
  have hdigits := hfinite.isAsciiDigit
  have hmax : ((max ((target.precision : ℤ) - target.scale) 0).toNat : ℤ) =
      max ((target.precision : ℤ) - target.scale) 0 := by omega
  rw [validateDecimal_iff h hsource htarget hfinite, decimalNumber, multiple_iff,
    exists_multiple_iff, abs_number_lt_iff, natCast_lt_zpow_iff, integerDigits_le_iff hdigits, hmax]
  refine and_congr_right fun hcarries => and_congr_left fun _ => ?_
  have hdifference : scale - target.scale < 2 ^ 31 := by
    have hle := htarget.scale_ge
    have hsource := hsource.scale_le
    norm_num
    rcases hcarries with rfl | ⟨-, rfl⟩
    · omega
    · omega
  rw [discardedZeros_iff hdigits]
  constructor
  · intro hdiscarded
    rcases lt_or_ge target.scale scale with hlt | hge
    · exact (hdiscarded hlt).2
    · rw [Int.toNat_of_nonpos (by omega), pow_zero]
      exact one_dvd _
  · intro hdvd _
    exact ⟨hdifference, hdvd⟩

/-- The check is exact for a value: it is accepted if and only if the target can store it. -/
def RangeCheckExact (plan : ChangeEvent.ColumnConversionPlan) (target : DecimalColumn)
    (unscaled : String) (scale : ℤ) : Prop :=
  validateAgainstDecimalPlan plan (.decimal unscaled scale) = .ok () ↔
    Storable target.precision target.scale (decimalNumber unscaled scale)

/-- The check is exact where a value that the target can store has the scale of the source and,
for a target that starts behind the point, a value below one that ends with the last place of the
target also starts with its first. -/
theorem range_check_exact_iff (h : DecimalPlan plan source target) (hsource : source.Valid)
    (htarget : target.Valid) (hfinite : FiniteDecimal unscaled scale) :
    RangeCheckExact plan target unscaled scale ↔
      (Storable target.precision target.scale (decimalNumber unscaled scale) →
        Carries source.scale scale) ∧
      ((target.precision : ℤ) < target.scale → Carries source.scale scale →
        (∃ k : ℤ, decimalNumber unscaled scale = k * 10 ^ (-target.scale)) →
        |decimalNumber unscaled scale| < 1 →
        |decimalNumber unscaled scale| < 10 ^ ((target.precision : ℤ) - target.scale)) := by
  rw [RangeCheckExact, acceptsDecimal_iff h hsource htarget hfinite]
  generalize decimalNumber unscaled scale = x
  rcases lt_or_ge (target.precision : ℤ) target.scale with hbehind | hfront
  · have hmax : max ((target.precision : ℤ) - target.scale) 0 = 0 := by omega
    have hone : (10 : ℚ) ^ ((target.precision : ℤ) - target.scale) < 1 :=
      zpow_lt_one_of_neg₀ (by norm_num) (by omega)
    rw [hmax, zpow_zero]
    constructor
    · intro hexact
      refine ⟨fun hstorable => (hexact.mpr hstorable).1, ?_⟩
      intro _ hcarries hmultiple hlt
      exact (hexact.mp ⟨hcarries, hmultiple, hlt⟩).bounded
    · rintro ⟨hscale, hbounded⟩
      constructor
      · rintro ⟨hcarries, hmultiple, hlt⟩
        exact ⟨hmultiple, hbounded hbehind hcarries hmultiple hlt⟩
      · intro hstorable
        exact ⟨hscale hstorable, hstorable.multiple, hstorable.bounded.trans hone⟩
  · have hmax : max ((target.precision : ℤ) - target.scale) 0 =
        (target.precision : ℤ) - target.scale := by omega
    rw [hmax]
    constructor
    · intro hexact
      exact ⟨fun hstorable => (hexact.mpr hstorable).1, fun hbehind => by omega⟩
    · rintro ⟨hscale, -⟩
      constructor
      · rintro ⟨-, hmultiple, hlt⟩
        exact ⟨hmultiple, hlt⟩
      · intro hstorable
        exact ⟨hscale hstorable, hstorable.multiple, hstorable.bounded⟩

end Check

/-! ## The plan of the planner -/

section Planned

variable {library : DigestLibrary} {representation : TargetRepresentation}
  {parameters : List (String × String)} {source target : DecimalColumn} {name value : String}

def decimalType (column : DecimalColumn) : LogicalType :=
  .decimal column.precision column.scale

/-- What the planner adds for two decimal columns where the entry has a range kind. -/
def decimalEntries (source target : DecimalColumn) : List (String × String) :=
  [("source_precision", toString source.precision), ("source_scale", toString source.scale),
    ("target_precision", toString target.precision), ("target_scale", toString target.scale),
    ("range_check", "strict"), ("rounding_mode", "reject"),
    ("target_integer_digits", toString (max ((target.precision : ℤ) - target.scale) 0))]

def decimalNames : List String :=
  ["source_precision", "source_scale", "target_precision", "target_scale", "range_check",
    "rounding_mode", "target_integer_digits"]

theorem decimalNames_free : ∀ name ∈ "range_kind" :: decimalNames,
    name ∉ evidenceNames ∧ name ∉ ["source_collation", "target_collation"] := by
  decide

/-- The range kind is the entry's. -/
theorem parameter_rangeKind :
    parameter (planTargetRepresentation library representation parameters
      (decimalType source) (decimalType target)) "range_kind" =
        parameter representation "range_kind" := by
  apply parameter_insertAll_of_notMem
  unfold plannedEntries decimalType
  dsimp only
  split
  · simp
  · unfold temporalEntries
    split
    · simp
    · simp

theorem plannedEntries_decimal (h : (parameter representation "range_kind").isSome = true) :
    plannedEntries library representation parameters (decimalType source)
      (decimalType target) = decimalEntries source target := by
  unfold plannedEntries decimalType
  dsimp only
  rw [if_pos h]
  rfl

theorem parseU64_toString_max {n : ℤ} (h : n < 2 ^ 64) :
    parseU64 (toString (max n 0)) = some (max n 0).toNat := by
  have hcast : max n 0 = ((max n 0).toNat : ℤ) := by omega
  have hlt : (max n 0).toNat < 2 ^ 64 := by
    norm_num at h ⊢
    omega
  rw [hcast, Int.toNat_natCast]
  exact parseU64_toString hlt

variable {validation : ValidationLibrary} {x : PlannerInput validation} {r : CompatibilityResult}
  {plan : ColumnConversionPlan}

/-- A plan with a range kind names both columns. -/
theorem decimalPlan_of_explain (hsource : x.binding.sourceField.logicalType = decimalType source)
    (htarget : x.binding.targetField.logicalType = decimalType target) (hvalid : source.Valid)
    (hvalid' : target.Valid) (hexplain : x.explain library = .ok r)
    (hplan : r.plan = some plan) (hrange : (parameter plan.target "range_kind").isSome = true) :
    DecimalPlan plan.toColumnConversionPlan source target := by
  obtain ⟨candidate, parameters, heq⟩ := PlannerInput.plan_target hexplain hplan
  have hraw : rawEntries x.binding.sourceField = [] := by
    simp [rawEntries, hsource, decimalType]
  have hparameter : ∀ name ∈ "range_kind" :: decimalNames, parameter plan.target name = parameter
      (planTargetRepresentation library candidate.target
        (insertEntry "target_native_type" x.binding.targetField.nativeType
          (insertEntry "source_native_type" x.binding.sourceField.nativeType parameters))
        (decimalType source) (decimalType target)) name := by
    intro name hname
    obtain ⟨hevidence, hcollation⟩ := decimalNames_free name hname
    rw [heq, parameter_planTarget_eq hraw hevidence hcollation, hsource, htarget]
  have hranged : (parameter candidate.target "range_kind").isSome = true := by
    rwa [hparameter _ List.mem_cons_self, parameter_rangeKind] at hrange
  have hentry : ∀ name value, (name, value) ∈ decimalEntries source target →
      plan.target.parameters.lookup name = some value := by
    intro name value hmem
    have hname : name ∈ decimalNames := by
      have hnames : (decimalEntries source target).map Prod.fst = decimalNames := rfl
      rw [← hnames]
      exact List.mem_map_of_mem hmem
    refine (hparameter name (List.mem_cons_of_mem _ hname)).trans ?_
    apply parameter_insertAll_of_mem
    · rw [plannedEntries_decimal hranged]
      exact (by decide : decimalNames.Nodup)
    · rwa [plannedEntries_decimal hranged]
  have hwidth : ∀ column : DecimalColumn, column.Valid → column.precision < 2 ^ 64 := by
    intro column hcolumn
    exact hcolumn.width.trans (by norm_num)
  have hscale : ∀ column : DecimalColumn, column.Valid →
      parseSigned (2 ^ 31) (toString column.scale) = some column.scale := by
    intro column hcolumn
    have hge := hcolumn.scale_ge
    have hle := hcolumn.scale_le
    apply parseSigned_toString
    · norm_num
      omega
    · norm_num
      omega
  refine ⟨hentry _ _ (by simp [decimalEntries]), hentry _ _ (by simp [decimalEntries]),
    ?_, ?_, ?_, ?_, ?_⟩
  · rw [targetUsize, hentry _ (toString source.precision) (by simp [decimalEntries])]
    exact parseU64_toString (hwidth source hvalid)
  · rw [targetI32, hentry _ (toString source.scale) (by simp [decimalEntries])]
    exact hscale source hvalid
  · rw [targetUsize, hentry _ (toString target.precision) (by simp [decimalEntries])]
    exact parseU64_toString (hwidth target hvalid')
  · rw [targetI32, hentry _ (toString target.scale) (by simp [decimalEntries])]
    exact hscale target hvalid'
  · rw [targetUsize, hentry _ (toString (max ((target.precision : ℤ) - target.scale) 0))
      (by simp [decimalEntries])]
    apply parseU64_toString_max
    have hprecision := hvalid'.width
    have hge := hvalid'.scale_ge
    norm_num at hprecision ⊢
    omega

/-- The range check of a plan for two decimal columns is exact for a value where the target can
store it only at the scale of the source and, for a target that starts behind the point, a value
below one that ends with its last place also starts with its first. -/
theorem planned_range_check_exact_iff
    (hsource : x.binding.sourceField.logicalType = decimalType source)
    (htarget : x.binding.targetField.logicalType = decimalType target) (hvalid : source.Valid)
    (hvalid' : target.Valid) (hexplain : x.explain library = .ok r)
    (hplan : r.plan = some plan) (hrange : (parameter plan.target "range_kind").isSome = true)
    {unscaled : String} {scale : ℤ} (hfinite : FiniteDecimal unscaled scale) :
    RangeCheckExact plan.toColumnConversionPlan target unscaled scale ↔
      (Storable target.precision target.scale (decimalNumber unscaled scale) →
        Carries source.scale scale) ∧
      ((target.precision : ℤ) < target.scale → Carries source.scale scale →
        (∃ k : ℤ, decimalNumber unscaled scale = k * 10 ^ (-target.scale)) →
        |decimalNumber unscaled scale| < 1 →
        |decimalNumber unscaled scale| < 10 ^ ((target.precision : ℤ) - target.scale)) :=
  range_check_exact_iff
    (decimalPlan_of_explain hsource htarget hvalid hvalid' hexplain hplan hrange)
    hvalid hvalid' hfinite

section Sample

/-- A sink with one range-checked entry. -/
def decimalManifest (target : DecimalColumn) : TargetCapabilityManifest :=
  { sampleManifest with
    connector := ⟨"postgresql", "15"⟩
    capabilities := [⟨"postgresql15.range_checked.decimal", .decimal 0 0,
      ⟨"numeric", [("range_kind", "decimal"), ("target_precision", toString target.precision),
        ("target_scale", toString target.scale)]⟩,
      { sampleRule "decimal" .exact with qualification := .rangeChecked }, [], []⟩] }

def decimalInput (source target : DecimalColumn) : FieldCompatibilityInput where
  sourceField := sampleField "source" 1 "price" "numeric" (decimalType source) none false
  targetField := sampleField "target" 1 "price" "numeric" (decimalType target) none false
  sourceTypeMapping := ⟨⟨"mysql", "8.0"⟩, "numeric", decimalType source, "mysql.numeric", "1", none,
    none, none, none, none, []⟩
  sourceConnector := ⟨"mysql", "8.0"⟩
  sinkConnector := ⟨"postgresql", "15"⟩
  sourceBuild := none
  targetBuild := none
  manifest := decimalManifest target
  options := ⟨"route", "1", none, [], [], none⟩
  operations := [.insert]
  presences := [.value]
  sourceHasPrimaryKey := true

theorem planned_range_check_exact_iff_cents : ∃ r plan,
    explainFieldCompatibility sampleDigests (decimalInput ⟨5, 3⟩ ⟨4, 2⟩) = .ok r ∧
      r.plan = some plan ∧ (RangeCheckExact plan.toColumnConversionPlan ⟨4, 2⟩ "1250" 3 ↔
        (Storable 4 2 (decimalNumber "1250" 3) → Carries 3 3) ∧
        ((4 : ℤ) < 2 → Carries 3 3 → (∃ k : ℤ, decimalNumber "1250" 3 = k * 10 ^ (-(2 : ℤ))) →
          |decimalNumber "1250" 3| < 1 → |decimalNumber "1250" 3| < 10 ^ ((4 : ℤ) - 2))) :=
  ⟨_, _, rfl, rfl, @planned_range_check_exact_iff sampleDigests ⟨5, 3⟩ ⟨4, 2⟩
    sampleValidation (.catalog (decimalInput ⟨5, 3⟩ ⟨4, 2⟩)) _ _ rfl rfl
    ⟨by decide, by decide, by decide, by decide⟩ ⟨by decide, by decide, by decide, by decide⟩
    rfl rfl rfl "1250" 3 ⟨rfl, rfl⟩⟩

/-- A half is a multiple of a thousandth below one, but a column of two digits that starts at the
hundredths cannot store it. -/
theorem half_accepted_not_storable : ∃ r plan,
    explainFieldCompatibility sampleDigests (decimalInput ⟨5, 3⟩ ⟨2, 3⟩) = .ok r ∧
      r.plan = some plan ∧
      validateAgainstDecimalPlan plan.toColumnConversionPlan (.decimal "500" 3) = .ok () ∧
      ¬ Storable 2 3 (decimalNumber "500" 3) := by
  refine ⟨_, _, rfl, rfl, rfl, ?_⟩
  rw [decimalNumber, storable_iff]
  decide

end Sample

end Planned

end DatabaseSync.Planner
