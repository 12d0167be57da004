import DatabaseSync.ChangeEvent.IntegerPlan
import DatabaseSync.Library.AsciiCase
import DatabaseSync.Planner.TextConversion
import DatabaseSync.Planner.TextPlan

/-! # Integer range checks

The connectors list two kinds of entries for their integer columns: exact ones, for columns that
contain the whole source, and one range-checked entry for each column. A plan accepts a value of
its source exactly where the target column contains it, and passes it on as it is.
-/

namespace DatabaseSync.Planner

open ChangeEvent Checked Machine TargetRepresentation Text

/-! ## Native types -/

/-- The width that the base name of a native type stands for, or zero. -/
def nativeIntegerBits : String → ℕ
  | "tinyint" | "int1" | "bool" | "boolean" => 8
  | "smallint" | "int2" => 16
  | "mediumint" | "int3" => 24
  | "int" | "integer" | "int4" => 32
  | "bigint" | "int8" => 64
  | _ => 0

/-- The signedness and the width that a native type declares. -/
def declaredInteger (nativeType : String) : Bool × ℕ :=
  let native := toAsciiLowercase (trim nativeType)
  let base := String.ofList (native.toList.takeWhile fun c => c != '(' && c != ' ' && c != '\t')
  (!(containsText native " unsigned" || containsText native " zerofill"), nativeIntegerBits base)

theorem isWhitespace_toAsciiLower (c : Char) : isWhitespace (toAsciiLower c) = isWhitespace c := by
  by_cases hupper : 'A' ≤ c ∧ c ≤ 'Z'
  · obtain ⟨n, hn, rfl⟩ := isUpper_iff.mp hupper
    interval_cases n <;> rfl
  · rw [toAsciiLower, if_neg hupper]

/-- The case of letters is no matter to trimming. -/
theorem toAsciiLowercase_trim (s : String) :
    toAsciiLowercase (trim s) = trim (toAsciiLowercase s) := by
  have hblank : isWhitespace ∘ toAsciiLower = isWhitespace := funext isWhitespace_toAsciiLower
  unfold trim toAsciiLowercase
  simp only [String.toList_ofList, ← List.map_reverse, List.dropWhile_map, hblank]

theorem declaredInteger_eq {native nativeType : String}
    (h : eqIgnoreAsciiCase native nativeType = true) :
    declaredInteger native = declaredInteger nativeType := by
  have hlower : toAsciiLowercase native = toAsciiLowercase nativeType :=
    congrArg String.ofList (eq_of_beq h)
  unfold declaredInteger
  rw [toAsciiLowercase_trim, toAsciiLowercase_trim, hlower]

/-! ## The entries of the connectors -/

/-- The display width that MySQL 5.7 reports. -/
def displayWidth (signed : Bool) : ℕ → ℕ
  | 8 => if signed then 4 else 3
  | 16 => if signed then 6 else 5
  | 24 => if signed then 9 else 8
  | 32 => if signed then 11 else 10
  | _ => 20

def mysqlIntegerType (native : String) (signed : Bool) (width : Option ℕ) : String :=
  native ++ width.elim "" (fun width => "(" ++ toString width ++ ")") ++
    if signed then "" else " unsigned"

/-- The integer types of the MySQL connectors with the native types that store them exactly. -/
def mysqlIntegers : List ((Bool × ℕ) × String) :=
  [(8, "tinyint"), (16, "smallint"), (24, "mediumint"), (32, "int"), (64, "bigint")].flatMap
    fun (bits, native) => [true, false].flatMap fun signed =>
      [none, some 11, some (displayWidth signed bits)].map fun width =>
        ((signed, bits), mysqlIntegerType native signed width)

/-- A wider signed representation is selected where it contains the whole unsigned source. -/
def postgresqlIntegers : List ((Bool × ℕ) × String) :=
  [((true, 16), "smallint"), ((true, 32), "integer"), ((true, 64), "bigint"),
    ((false, 8), "smallint"), ((false, 16), "integer"), ((false, 24), "integer"),
    ((false, 32), "bigint"), ((false, 64), "numeric(20,0)")]

/-- The bounds of one type lie within those of another. -/
def boundsWithin (source target : Bool × ℕ) : Bool :=
  (boundsOfWidth target.1 target.2).1 ≤ (boundsOfWidth source.1 source.2).1 &&
    (boundsOfWidth source.1 source.2).2 ≤ (boundsOfWidth target.1 target.2).2

/-- The exact entries lose no value of their source. -/
theorem exactIntegers_within : ∀ entry ∈ mysqlIntegers ++ postgresqlIntegers,
    (declaredInteger entry.2).2 = 0 ∨ boundsWithin entry.1 (declaredInteger entry.2) = true := by
  have hall : (mysqlIntegers ++ postgresqlIntegers).all (fun entry =>
      (declaredInteger entry.2).2 == 0 ||
        boundsWithin entry.1 (declaredInteger entry.2)) = true := by
    decide +kernel
  intro entry hentry
  simpa using List.all_eq_true.mp hall entry hentry

theorem exactIntegers_bits : ∀ entry ∈ mysqlIntegers ++ postgresqlIntegers, entry.1.2 ≠ 0 := by
  have hall : (mysqlIntegers ++ postgresqlIntegers).all (fun entry => entry.1.2 != 0) = true := rfl
  intro entry hentry
  simpa using List.all_eq_true.mp hall entry hentry

def integerType (column : IntegerColumn) : LogicalType := .integer column.signed column.bits

/-- `add_exact` and `add_range_checked_integer`, as far as an integer meets them. -/
inductive IntegerEntry (capability : CapabilityEntry) : Prop
  | exact {signed : Bool} {bits : ℕ} : capability.sourceLogicalType = .integer signed bits →
      ((signed, bits), capability.target.nativeType) ∈ mysqlIntegers ++ postgresqlIntegers →
      capability.target.parameters = [] → IntegerEntry capability
  | ranged {signed : Bool} {bits : ℕ} : capability.sourceLogicalType = .integer true 0 →
      capability.target.parameters =
        [("range_kind", "integer"), ("target_bits", toString bits),
          ("target_signed", toString signed)] → IntegerEntry capability

/-- The entries for this source type that write this target column are those of the connectors. -/
def PlanningInput.WritesInteger (x : PlanningInput) : Prop :=
  ∀ capability ∈ x.manifest.capabilities,
    capabilityMatchesSource capability x.sourceField.logicalType = true →
    targetRepresentationMatchesBinding capability x.targetField = true → IntegerEntry capability

/-! ## The plan -/

/-- The rules of a plan with the check of integers. -/
def ValueRules.withIntegers (rules : ValueRules) : ValueRules :=
  { rules with validateInteger := validateIntegerPlanValue }

section Accepts

variable {rules : ValueRules} {serde : SerdeJson} {plan : ChangeEvent.ColumnConversionPlan}
  {signed : Bool} {bits : ℕ} {text : String} {out : LogicalValue}

/-- A plan without a kind takes every integer over. -/
theorem convertInteger_exact (hconversion : plan.target.parameters.lookup "conversion_kind" = none)
    (hrange : plan.target.parameters.lookup "range_kind" = none)
    (hstrategy : plan.target.parameters.lookup "value_strategy" = none) :
    convertValueWithPlan rules.withIntegers serde plan (.integer signed bits text) =
      .ok (.integer signed bits text) := by
  have hkind : plan.conversionKind = none := hconversion
  have hvalidate : validateValueAgainstPlan rules.withIntegers serde plan
      (.integer signed bits text) = .ok () := by
    simp [validateValueAgainstPlan, validateRangeValue, acceptsSpecialValue,
      validateConversionValue, validateStrategyValue, ColumnConversionPlan.check, hkind, hrange,
      hstrategy]
  rw [convertValueWithPlan, hvalidate, hkind, hstrategy]
  rfl

/-- A range-checked plan takes the integers over that it accepts. -/
theorem convertInteger_ranged (hconversion : plan.target.parameters.lookup "conversion_kind" = none)
    (hrange : plan.target.parameters.lookup "range_kind" = some "integer")
    (hcheck : plan.target.parameters.lookup "range_check" = some "strict")
    (hstrategy : plan.target.parameters.lookup "value_strategy" = none) :
    convertValueWithPlan rules.withIntegers serde plan (.integer signed bits text) = .ok out ↔
      validateIntegerPlanValue plan (.integer signed bits text) = .ok () ∧
        out = .integer signed bits text := by
  have hkind : plan.conversionKind = none := hconversion
  have hvalidate : validateValueAgainstPlan rules.withIntegers serde plan
      (.integer signed bits text) = validateIntegerPlanValue plan (.integer signed bits text) := by
    simp [validateValueAgainstPlan, validateRangeValue, acceptsSpecialValue,
      ColumnConversionPlan.check, hkind, hrange, hcheck, ValueRules.withIntegers]
  rw [convertValueWithPlan, hvalidate, hkind, hstrategy, bind_eq_ok]
  simp only [refusing_eq_ok]
  constructor
  · rintro ⟨⟨⟩, haccepts, hout⟩
    exact ⟨haccepts, (Except.ok.inj hout).symm⟩
  · rintro ⟨haccepts, rfl⟩
    exact ⟨(), haccepts, rfl⟩

end Accepts

section Planned

variable {library : DigestLibrary} {validation : ValidationLibrary} {x : PlannerInput validation}
  {r : CompatibilityResult} {plan : ColumnConversionPlan} {source target : IntegerColumn}

def integerEntries (source target : IntegerColumn) : List (String × String) :=
  [("source_signed", toString source.signed), ("source_bits", toString source.bits),
    ("target_signed", toString target.signed), ("target_bits", toString target.bits),
    ("range_check", "strict"),
    ("target_min", toString (boundsOfWidth target.signed target.bits).1),
    ("target_max", toString (boundsOfWidth target.signed target.bits).2)]

def integerNames : List String :=
  ["source_signed", "source_bits", "target_signed", "target_bits", "range_check", "target_min",
    "target_max"]

theorem integerNames_free : ∀ name ∈ integerNames,
    name ∉ evidenceNames ∧ name ∉ ["source_collation", "target_collation"] := by
  decide

variable {representation : TargetRepresentation} {parameters : List (String × String)}

theorem plannedEntries_integer (h : (parameter representation "range_kind").isSome = true) :
    plannedEntries library representation parameters (integerType source) (integerType target) =
      integerEntries source target := by
  unfold plannedEntries integerType integerBounds
  dsimp only
  rw [if_pos h, if_pos target.width]
  rfl

theorem plannedEntries_integer_exact (h : representation.parameters = []) :
    plannedEntries library representation parameters (integerType source) (integerType target) =
      [] := by
  unfold plannedEntries integerType temporalEntries conversionKind parameter
  rw [h]
  rfl

/-- The types of entries that an integer, a text or a document can meet. -/
def LogicalType.isPlain : LogicalType → Bool
  | .integer .. | .text .. | .json _ => true
  | .opaqueType _ format => format == "logical_value"
  | _ => false

/-- An entry names the column that it writes. -/
theorem eqIgnoreAsciiCase_of_matches {capability : CapabilityEntry} {field : FieldDefinition}
    (hplain : field.logicalType.isPlain = true) (hgeometry : storesGeometry capability = false)
    (h : targetRepresentationMatchesBinding capability field = true) :
    eqIgnoreAsciiCase capability.target.nativeType field.nativeType = true := by
  unfold targetRepresentationMatchesBinding at h
  dsimp only at h
  rw [hgeometry] at h
  by_contra hne
  cases htype : field.logicalType with
  | integer | text | json | opaqueType =>
    simp [hne, htype, LogicalType.isSpatial, LogicalType.isBitString] at h
  | _ =>
    rw [htype] at hplain
    cases hplain

theorem rawEntries_integer {field : FieldDefinition} (h : field.logicalType = integerType source) :
    rawEntries field = [] := by
  rw [rawEntries, h, integerType]

theorem storesGeometry_of_integerEntry {capability : CapabilityEntry}
    (h : IntegerEntry capability) : storesGeometry capability = false := by
  unfold storesGeometry conversionKind parameter
  cases h with
  | exact _ _ hparameters => rw [hparameters]; rfl
  | ranged _ hparameters => rw [hparameters]; rfl

section Target

variable {candidate : TargetTypeCandidate} {capability : CapabilityEntry} {binding : PlanningInput}
  {signed : Bool} {bits : ℕ}

/-- The plan of an exact entry has no kind. -/
theorem kinds_exact (hsource : binding.sourceField.logicalType = integerType source)
    (htarget : binding.targetField.logicalType = integerType target)
    (hentry : candidate.target.parameters = capability.target.parameters)
    (hnone : capability.target.parameters = []) :
    ∀ name ∈ kindNames,
      parameter (binding.planTarget library candidate parameters) name = none := by
  intro name hname
  have hplanned : ∀ parameters, (plannedEntries library candidate.target parameters
      binding.sourceField.logicalType binding.targetField.logicalType).map Prod.fst = [] := by
    intro parameters
    rw [hsource, htarget, plannedEntries_integer_exact (hentry.trans hnone), List.map_nil]
  rw [parameter_kind (rawEntries_integer hsource) hentry hplanned hname List.not_mem_nil, hnone]
  rfl

/-- The plan of a range-checked entry has the kind of its entry. -/
theorem kinds_ranged (hsource : binding.sourceField.logicalType = integerType source)
    (htarget : binding.targetField.logicalType = integerType target)
    (hentry : candidate.target.parameters = capability.target.parameters)
    (hranged : capability.target.parameters = [("range_kind", "integer"),
      ("target_bits", toString bits), ("target_signed", toString signed)]) :
    ∀ name ∈ kindNames, parameter (binding.planTarget library candidate parameters) name =
      if name = "range_kind" then some "integer" else none := by
  intro name hname
  have hkind : (parameter candidate.target "range_kind").isSome = true := by
    rw [parameter, hentry, hranged]
    rfl
  have hplanned : ∀ parameters, (plannedEntries library candidate.target parameters
      binding.sourceField.logicalType binding.targetField.logicalType).map Prod.fst =
        integerNames := by
    intro parameters
    rw [hsource, htarget, plannedEntries_integer hkind]
    rfl
  have hfree : ∀ name ∈ kindNames, name ∉ integerNames := by decide
  rw [parameter_kind (rawEntries_integer hsource) hentry hplanned hname (hfree name hname), hranged]
  simp only [kindNames, List.mem_cons, List.not_mem_nil, or_false] at hname
  rcases hname with rfl | rfl | rfl
  · rfl
  · rfl
  · rfl

/-- The plan of a range-checked entry names both columns. -/
theorem parameter_ranged (hsource : binding.sourceField.logicalType = integerType source)
    (htarget : binding.targetField.logicalType = integerType target)
    (hkind : (parameter candidate.target "range_kind").isSome = true) {name value : String}
    (hmem : (name, value) ∈ integerEntries source target) :
    parameter (binding.planTarget library candidate parameters) name = some value := by
  have hname : name ∈ integerNames := by
    have hnames : (integerEntries source target).map Prod.fst = integerNames := rfl
    rw [← hnames]
    exact List.mem_map_of_mem hmem
  obtain ⟨hevidence, hcollation⟩ := integerNames_free name hname
  rw [parameter_planTarget_eq (rawEntries_integer hsource) hevidence hcollation]
  apply parameter_insertAll_of_mem
  · rw [hsource, htarget, plannedEntries_integer hkind]
    exact (by decide : integerNames.Nodup)
  · rwa [hsource, htarget, plannedEntries_integer hkind]

end Target

/-- The parameters of both columns are read back. -/
theorem integerPlan_of_parameters {plan : ChangeEvent.ColumnConversionPlan}
    (h : ∀ name value, (name, value) ∈ integerEntries source target →
      plan.target.parameters.lookup name = some value) : IntegerPlan plan source target := by
  have hbits : ∀ column : IntegerColumn,
      parseUnsigned 10 (2 ^ 8) (toString column.bits) = some column.bits := by
    intro column
    have hlt : column.bits < 2 ^ 8 := by
      rcases column.bits_cases with hbits | hbits | hbits | hbits | hbits
      all_goals omega
    exact parseUnsigned_toDigits (by decide) (by decide) hlt
  obtain ⟨⟨hlow, hlow'⟩, hhigh, hhigh'⟩ := target.bounds_lt
  refine ⟨?_, ?_, ?_, ?_, ?_, ?_⟩
  · rw [targetFlag, h _ (toString source.signed) (by simp [integerEntries])]
    exact parseFlag_toString source.signed
  · rw [targetU8, h _ (toString source.bits) (by simp [integerEntries])]
    exact hbits source
  · rw [targetFlag, h _ (toString target.signed) (by simp [integerEntries])]
    exact parseFlag_toString target.signed
  · rw [targetU8, h _ (toString target.bits) (by simp [integerEntries])]
    exact hbits target
  · rw [targetI128, h _ (toString (boundsOfWidth target.signed target.bits).1)
      (by simp [integerEntries])]
    exact parseSigned_toString (by exact_mod_cast hlow) (by exact_mod_cast hlow')
  · rw [targetI128, h _ (toString (boundsOfWidth target.signed target.bits).2)
      (by simp [integerEntries])]
    exact parseSigned_toString (by exact_mod_cast hhigh) (by exact_mod_cast hhigh')

/-- An exact entry for a column that is the target stores every value of its source. -/
theorem contains_of_exact {signed : Bool} {bits : ℕ} {native nativeType text : String}
    (hmem : ((signed, bits), native) ∈ mysqlIntegers ++ postgresqlIntegers)
    (hnative : eqIgnoreAsciiCase native nativeType = true)
    (hdeclared : declaredInteger nativeType = (target.signed, target.bits))
    (hsource : integerType source = .integer signed bits)
    (hvalue : integer text source.signed source.bits = .ok ()) :
    target.Contains (integerNumber text) := by
  obtain ⟨rfl, rfl⟩ := LogicalType.integer.inj hsource
  have hwithin := exactIntegers_within _ hmem
  dsimp only at hwithin
  rw [declaredInteger_eq hnative, hdeclared] at hwithin
  rcases hwithin with hzero | hwithin
  · rcases target.bits_cases with hbits | hbits | hbits | hbits | hbits
    all_goals omega
  · rw [boundsWithin, Bool.and_eq_true, decide_eq_true_eq, decide_eq_true_eq] at hwithin
    obtain ⟨hlow, hhigh⟩ := hwithin
    obtain ⟨hlow', hhigh'⟩ := IntegerColumn.contains_iff.mp (source.contains_of_integer hvalue)
    exact IntegerColumn.contains_iff.mpr ⟨hlow.trans hlow', hhigh'.trans hhigh⟩

/-- An entry for one integer type takes that type alone. -/
theorem integerType_of_matches {capability : CapabilityEntry} {signed : Bool} {bits : ℕ}
    (hentry : capability.sourceLogicalType = .integer signed bits) (hbits : bits ≠ 0)
    (h : capabilityMatchesSource capability (integerType source) = true) :
    integerType source = .integer signed bits := by
  rw [capabilityMatchesSource, hentry, Bool.or_eq_true] at h
  rcases h with heq | htemplate
  · exact (eq_of_beq heq).symm
  · simp only [templateMatchesSource, integerType, Bool.and_eq_true, beq_iff_eq] at htemplate
    exact absurd htemplate.1 hbits

/-- The plan for two integer columns takes exactly the values of its source over that the target
can store, and does not change them. -/
theorem planned_integer_check_exact (rules : ValueRules) (serde : SerdeJson)
    (hwrites : x.binding.WritesInteger)
    (hsource : x.binding.sourceField.logicalType = integerType source)
    (htarget : x.binding.targetField.logicalType = integerType target)
    (hdeclared : declaredInteger x.binding.targetField.nativeType = (target.signed, target.bits))
    (hexplain : x.explain library = .ok r) (hplan : r.plan = some plan) {text : String}
    (hvalue : integer text source.signed source.bits = .ok ()) (out : LogicalValue) :
    convertValueWithPlan rules.withIntegers serde plan.toColumnConversionPlan
        (.integer source.signed source.bits text) = .ok out ↔
      target.Contains (integerNumber text) ∧ out = .integer source.signed source.bits text := by
  have hbits : x.binding.sourceField.logicalType.isBitString = false := by
    rw [hsource]
    rfl
  obtain ⟨candidate, capability, parameters, hcapability, heligible, hentry, -, -, htargetPlan⟩ :=
    PlannerInput.exists_capability hbits hexplain hplan
  obtain ⟨hmatches, hbinds⟩ := PlanningInput.eligible_matches heligible
  have hlisted := hwrites capability hcapability hmatches hbinds
  have hplain : x.binding.targetField.logicalType.isPlain = true := by
    rw [htarget]
    rfl
  have hnative := eqIgnoreAsciiCase_of_matches hplain (storesGeometry_of_integerEntry hlisted)
    hbinds
  cases hlisted with
  | exact hentrySource hmem hnone =>
    have hkinds := @kinds_exact library _ _ parameters _ _ _ hsource htarget hentry hnone
    rw [← htargetPlan] at hkinds
    have hsame : integerType source = .integer _ _ :=
      integerType_of_matches hentrySource (exactIntegers_bits _ hmem) (hsource ▸ hmatches)
    have hcontains := contains_of_exact hmem hnative hdeclared hsame hvalue
    rw [convertInteger_exact (hkinds _ (by decide)) (hkinds _ (by decide)) (hkinds _ (by decide)),
      Except.ok.injEq, eq_comm]
    exact (and_iff_right hcontains).symm
  | ranged hentrySource hranged =>
    have hkinds := @kinds_ranged library _ _ parameters _ _ _ _ _ hsource htarget hentry hranged
    rw [← htargetPlan] at hkinds
    have hkind : (parameter candidate.target "range_kind").isSome = true := by
      rw [parameter, hentry, hranged]
      rfl
    have hparameter : ∀ name value, (name, value) ∈ integerEntries source target →
        plan.toColumnConversionPlan.target.parameters.lookup name = some value := by
      intro name value hmem
      have := @parameter_ranged library _ _ parameters _ _ hsource htarget hkind _ _ hmem
      rwa [← htargetPlan] at this
    rw [convertInteger_ranged (hkinds _ (by decide)) (hkinds _ (by decide))
      (hparameter _ _ (by simp [integerEntries])) (hkinds _ (by decide)),
      validateIntegerPlanValue_iff (integerPlan_of_parameters hparameter) hvalue]

end Planned

section Sample

/-- A sink with the range-checked entry of one column. -/
def integerManifest (target : IntegerColumn) (nativeType : String) : TargetCapabilityManifest :=
  { sampleManifest with
    connector := ⟨"postgresql", "15"⟩
    capabilities := [⟨"postgresql15.range_checked.integer", .integer true 0,
      ⟨nativeType, [("range_kind", "integer"), ("target_bits", toString target.bits),
        ("target_signed", toString target.signed)]⟩,
      { sampleRule "integer" .exact with qualification := .rangeChecked }, [], []⟩] }

def integerInput (source target : IntegerColumn) (nativeType targetNativeType : String) :
    FieldCompatibilityInput where
  sourceField := sampleField "source" 1 "stock" nativeType (integerType source) none false
  targetField := sampleField "target" 1 "stock" targetNativeType (integerType target) none false
  sourceTypeMapping := ⟨⟨"mysql", "8.0"⟩, nativeType, integerType source, "mysql.integer", "1",
    none, none, none, none, none, []⟩
  sourceConnector := ⟨"mysql", "8.0"⟩
  sinkConnector := ⟨"postgresql", "15"⟩
  sourceBuild := none
  targetBuild := none
  manifest := integerManifest target targetNativeType
  options := ⟨"route", "1", none, [], [], none⟩
  operations := [.insert]
  presences := [.value]
  sourceHasPrimaryKey := true

/-- The largest unsigned value of 32 bits does not get into a signed column of this width. -/
theorem unsigned_integer_check : ∃ r plan,
    explainFieldCompatibility sampleDigests
      (integerInput ⟨false, 32, rfl⟩ ⟨true, 32, rfl⟩ "int unsigned" "integer") = .ok r ∧
      r.plan = some plan ∧ ∀ (rules : ValueRules) (serde : SerdeJson) (out : LogicalValue),
        convertValueWithPlan rules.withIntegers serde plan.toColumnConversionPlan
            (.integer false 32 "4294967295") = .ok out ↔
          IntegerColumn.Contains ⟨true, 32, rfl⟩ (integerNumber "4294967295") ∧
            out = .integer false 32 "4294967295" := by
  refine ⟨_, _, rfl, rfl, fun rules serde out => ?_⟩
  exact @planned_integer_check_exact sampleDigests sampleValidation
    (.catalog (integerInput ⟨false, 32, rfl⟩ ⟨true, 32, rfl⟩ "int unsigned" "integer")) _ _
    ⟨false, 32, rfl⟩ ⟨true, 32, rfl⟩ rules serde
    (fun _ hmem _ _ => List.mem_singleton.mp hmem ▸ IntegerEntry.ranged rfl rfl) rfl rfl
    (by decide +kernel) rfl rfl "4294967295" rfl out

end Sample

end DatabaseSync.Planner
