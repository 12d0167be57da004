import DatabaseSync.Planner.Manifest

/-! # The manifests of the MySQL sinks

MySQL 8.0 builds its manifest in its own order, with the display width of 11 alone; MySQL 5.7 and
8.4 share a builder.
-/

namespace DatabaseSync.MysqlSink

open ChangeEvent Planner TargetRepresentation Text Planner.CapabilityModule

section Entries

variable (m : CapabilityModule)

/-! ## Numbers -/

def integerNatives : List (ℕ × String) :=
  [(8, "tinyint"), (16, "smallint"), (24, "mediumint"), (32, "int"), (64, "bigint")]

def signedness (signed : Bool) : String := if signed then "signed" else "unsigned"

def integerEntries (displayWidth : Bool → ℕ → ℕ) : List CapabilityEntry :=
  integerNatives.flatMap fun (bits, nativeType) => [true, false].flatMap fun signed =>
    let target := mysqlIntegerType nativeType signed none
    let suffix := "integer." ++ toString bits ++ "." ++ signedness signed
    let width := displayWidth signed bits
    [m.addExact (.integer signed bits) target suffix,
      m.addExact (.integer signed bits) (mysqlIntegerType nativeType signed (some width))
        (suffix ++ ".display_width_" ++ toString width),
      m.addRangeCheckedInteger signed bits target (suffix ++ ".domain")]

def decimalEntries : List CapabilityEntry :=
  (decimalParameters 65).map (fun (precision, scale) =>
    m.addExact (.decimal precision scale)
      ("decimal(" ++ toString precision ++ "," ++ toString scale ++ ")")
      ("decimal." ++ toString precision ++ "." ++ toString scale)) ++
  (decimalParameters 65).map fun (precision, scale) =>
    m.addRangeCheckedDecimal "decimal" [] precision scale

def floatEntries : List CapabilityEntry :=
  [m.addExact (.float 32) "float" "float.32", m.addExact (.float 64) "double" "float.64",
    m.addRangeCheckedFloat "float"]

/-! ## Texts -/

def varcharEntries (charsets : List String) : List CapabilityEntry :=
  charsets.flatMap fun charset => textLengths.map fun maxLength =>
    m.addExact (.textOf charset (some maxLength) .characters)
      ("varchar(" ++ toString maxLength ++ ")")
      ("text." ++ charset ++ ".varchar." ++ toString maxLength)

def charEntries (charsets : List String) : List CapabilityEntry :=
  charsets.flatMap fun charset => (List.range' 1 255).map fun maxLength =>
    m.addExact (.textOf charset (some maxLength) .characters)
      ("char(" ++ toString maxLength ++ ")")
      ("text." ++ charset ++ ".char." ++ toString maxLength)

def textNatives : List (ℕ × String) :=
  [(255, "tinytext"), (65535, "text"), (16777215, "mediumtext"), (4294967295, "longtext")]

def textEntries : List CapabilityEntry :=
  textNatives.flatMap fun (maxLength, nativeType) =>
    ["utf8mb4", "utf8", "latin1", "ascii"].map fun charset =>
      m.addExact (.textOf charset (some maxLength) .bytes) nativeType
        ("text." ++ charset ++ "." ++ nativeType)

/-- The only native type whose bytes are no fewer than those of an unbounded text. -/
def unboundedTextEntries : List CapabilityEntry :=
  [m.addExact (.textOf "UTF8" none .characters) "longtext" "text.UTF8.longtext.unbounded"]

def textTargetTypes : List String :=
  textLengths.map (fun length => "varchar(" ++ toString length ++ ")") ++
    ["tinytext", "text", "mediumtext", "longtext"] ++
    (List.range' 1 255).map fun length => "char(" ++ toString length ++ ")"

/-! ## Bytes and bits -/

def binaryEntries : List CapabilityEntry :=
  binaryLengths.flatMap fun maxLength =>
    [m.addExact (.binary (some maxLength)) ("varbinary(" ++ toString maxLength ++ ")")
        ("binary.varbinary." ++ toString maxLength),
      m.addExact (.binary (some maxLength)) ("binary(" ++ toString maxLength ++ ")")
        ("binary.fixed." ++ toString maxLength)]

def addExactBitString (length : ℕ) : CapabilityEntry :=
  m.addExactWithTarget (.bitString length)
    (insertAll ⟨"bit(" ++ toString length ++ ")", []⟩ [("bit_length_unit", "bits"),
      ("target_bit_order", "lsb_first"),
      ("target_padding", if length % 8 = 0 then "none" else "zero")])
    ("bit." ++ toString length)

def bitEntries : List CapabilityEntry := (List.range' 1 64).map (addExactBitString m)

def blobEntries : List CapabilityEntry :=
  [(255, "tinyblob"), (65535, "blob"), (16777215, "mediumblob"), (4294967295, "longblob")].map
    fun (maxLength, nativeType) =>
      m.addExact (.binary (some maxLength)) nativeType ("binary." ++ nativeType)

/-! ## Dates and times -/

/-- `datetime_type`, `timestamp_type` and `time_type` -/
def temporalType (nativeType : String) (precision : ℕ) : String :=
  if precision = 0 then nativeType else nativeType ++ "(" ++ toString precision ++ ")"

def temporalEntries : List CapabilityEntry :=
  (List.range 7).flatMap fun precision =>
    [m.addExact (.localDatetime precision) (temporalType "datetime" precision)
        ("local_datetime." ++ toString precision),
      m.addExact (.instant precision) (temporalType "timestamp" precision)
        ("instant." ++ toString precision),
      m.addExact (.duration precision) (temporalType "time" precision)
        ("duration." ++ toString precision)]

def explicitTemporalEntries : List CapabilityEntry :=
  (List.range 7).flatMap fun precision =>
    [m.addExplicitTemporal (.localDatetime 255) (temporalType "datetime" precision)
        ("local_datetime." ++ toString precision),
      m.addExplicitTemporal (.instant 255) (temporalType "timestamp" precision)
        ("instant." ++ toString precision),
      m.addExplicitTemporal (.duration 255) (temporalType "time" precision)
        ("duration." ++ toString precision),
      m.addExplicitTemporal (.localDatetime 255) (temporalType "timestamp" precision)
        ("local_datetime_to_instant." ++ toString precision),
      m.addExplicitTemporal (.instant 255) (temporalType "datetime" precision)
        ("instant_to_local_datetime." ++ toString precision)]

/-! ## Structured values -/

def structuredEntries : List CapabilityEntry :=
  [m.addStructured .normalizedJson (insertAll ⟨"json", []⟩ [("json_strategy", "structured")])
      "json",
    m.addStructured (.spatial "*" none 0)
      (insertAll ⟨"geometry", []⟩ [("source_spatial_format", "wkb"),
        ("target_spatial_format", "wkb"), ("target_storage", "mysql_geometry")])
      "spatial.geometry",
    m.explicitEntry "recursive.json_value_carrier" (.opaqueType "*" "recursive")
      (insertAll ⟨"json", []⟩ [("conversion_kind", "recursive"), ("recursive_kind", "*"),
        ("structure_mapping", "json_value_carrier"), ("value_strategy", "structured_json")]) [],
    m.addLogicalValueJsonCarrier
      (insertAll ⟨"json", []⟩ [("conversion_kind", "logical_value_json"),
        ("logical_value_schema", "change_event.logical_value.v0_3"),
        ("value_strategy", "tagged_json_v0_3"), ("target_storage", "mysql_json_tagged_value")]),
    m.addSourceRepresentationCarrier
      (insertAll ⟨"longblob", []⟩ [("conversion_kind", "source_representation"),
        ("source_representation_codec", "source_representation_envelope_json_v1"),
        ("target_storage", "mysql_longblob")])]

/-- `add_enum_set` for enumerations, then for sets. -/
def enumSetEntries : List CapabilityEntry :=
  [m.addStructured (.enum []) (insertAll ⟨"enum", []⟩ [("value_strategy", "enum_label")]) "enum",
    m.addEnumByLabel,
    m.addStructured (.set []) (insertAll ⟨"set", []⟩ [("value_strategy", "set_members")]) "set"]

end Entries

/-! ## Manifests -/

section Manifests

variable (library : DigestLibrary) (evidenceDigest : EvidenceDigest)
  (targetBuild : ServerBuildIdentity)

def mysql80Module : CapabilityModule where
  codePrefix := "mysql80"
  ruleVersion := "mysql-8.0.sink-conversion.v1"
  structuredVersion := "mysql-8.0.sink-conversion.v2"
  explicitVersion := "mysql-8.0.sink-conversion.v2"
  carrierVersion := "mysql-8.0.sink-conversion.v2"
  rangeRulePrefix := "mysql80.conversion."
  evidenceDigest := evidenceDigest "mysql-8.0.sink-conversion.v1"

/-- The manifest of MySQL 8.0. -/
def compatibilityManifest : TargetCapabilityManifest :=
  let m := mysql80Module evidenceDigest
  .new library ⟨"mysql", "8.0"⟩ targetBuild (integerEntries m (fun _ _ => 11) ++
    decimalEntries m ++ floatEntries m ++
    varcharEntries m ["utf8mb4", "utf8", "latin1", "ascii"] ++
    charEntries m ["utf8mb4", "utf8", "latin1", "ascii"] ++ varcharEntries m ["UTF8"] ++
    textEntries m ++ binaryEntries m ++ bitEntries m ++ blobEntries m ++
    [m.addExact .date "date" "date"] ++ temporalEntries m ++ [m.addExact .year "year" "year"] ++
    structuredEntries m ++ enumSetEntries m ++ unboundedTextEntries m ++
    m.explicitTextEntries textTargetTypes ++ explicitTemporalEntries m ++
    [m.addExplicit .boolean "tinyint(1)" "boolean.tinyint1",
      m.addExplicit .boolean "tinyint" "boolean.tinyint",
      m.addExplicit .uuid "char(36)" "uuid.char36",
      m.addExplicit .uuid "varchar(36)" "uuid.varchar36"]) true

def contractModule (connectorVersion codePrefix : String) : CapabilityModule where
  codePrefix := codePrefix
  ruleVersion := "mysql-" ++ connectorVersion ++ ".sink-conversion.v1"
  structuredVersion := "mysql-" ++ connectorVersion ++ ".sink-conversion.v2"
  explicitVersion := "mysql-" ++ connectorVersion ++ ".sink-conversion.v2"
  carrierVersion := "mysql-" ++ connectorVersion ++ ".sink-conversion.v2"
  rangeRulePrefix := codePrefix ++ ".conversion.range_checked."
  evidenceDigest := evidenceDigest connectorVersion

/-- The manifest of MySQL 5.7 (`"5.7"`, `"mysql57"`) and 8.4 (`"8.4"`, `"mysql84"`). -/
def capabilityManifest (connectorVersion codePrefix : String) : TargetCapabilityManifest :=
  let m := contractModule evidenceDigest connectorVersion codePrefix
  .new library ⟨"mysql", connectorVersion⟩ targetBuild (integerEntries m displayWidth ++
    decimalEntries m ++ floatEntries m ++
    varcharEntries m ["utf8mb4", "utf8", "UTF8", "latin1", "ascii"] ++
    charEntries m ["utf8mb4", "utf8", "UTF8", "latin1", "ascii"] ++ textEntries m ++
    unboundedTextEntries m ++ m.explicitTextEntries textTargetTypes ++
    explicitTemporalEntries m ++ bitEntries m ++ binaryEntries m ++ blobEntries m ++
    [m.addExact .date "date" "date"] ++ temporalEntries m ++ [m.addExact .year "year" "year",
      m.addExact .year "year(4)" "year.display_width_4"] ++ structuredEntries m ++
    enumSetEntries m ++
    ["tinyint", "tinyint(1)"].map (fun nativeType => m.addExplicit .boolean nativeType
      ("boolean." ++ nativeType)) ++
    ["char(36)", "varchar(36)"].map fun nativeType => m.addExplicit .uuid nativeType
      ("uuid." ++ nativeType)) true

/-- The manifests of MySQL 5.7, 8.0 and 8.4. -/
def manifests : List TargetCapabilityManifest :=
  [capabilityManifest library evidenceDigest targetBuild "5.7" "mysql57",
    compatibilityManifest library evidenceDigest targetBuild,
    capabilityManifest library evidenceDigest targetBuild "8.4" "mysql84"]

end Manifests

/-! ## Families of the entries -/

/-- Documents and tagged values are stored in columns for documents. -/
def carriers : List String := ["json"]

section Families

variable (m : CapabilityModule)

theorem mem_mysqlIntegers {signed : Bool} {bits : ℕ} {nativeType : String} {width : Option ℕ}
    (hnative : (bits, nativeType) ∈ integerNatives)
    (hwidth : width ∈ [none, some 11, some (displayWidth signed bits)]) :
    ((signed, bits), mysqlIntegerType nativeType signed width) ∈
      mysqlIntegers ++ postgresqlIntegers := by
  have hsigned : signed ∈ [true, false] := by
    cases signed
    · exact List.mem_cons_of_mem _ (List.mem_singleton_self _)
    · exact List.mem_cons_self
  apply List.mem_append_left
  refine List.mem_flatMap.mpr ⟨(bits, nativeType), hnative, ?_⟩
  exact List.mem_flatMap.mpr ⟨signed, hsigned, List.mem_map_of_mem hwidth⟩

theorem integerEntries_families {width : Bool → ℕ → ℕ}
    (hwidth : ∀ signed bits,
      width signed bits = 11 ∨ width signed bits = displayWidth signed bits) :
    ∀ entry ∈ integerEntries m width, EntryFamily carriers entry := by
  intro entry hentry
  obtain ⟨⟨bits, nativeType⟩, hnative, hentry⟩ := List.mem_flatMap.mp hentry
  obtain ⟨signed, -, hentry⟩ := List.mem_flatMap.mp hentry
  simp only [List.mem_cons, List.not_mem_nil, or_false] at hentry
  rcases hentry with rfl | rfl | rfl
  · exact family_exactInteger m (mem_mysqlIntegers hnative List.mem_cons_self)
  · apply family_exactInteger m (mem_mysqlIntegers hnative _)
    rcases hwidth signed bits with h | h
    all_goals
      rw [h]
      simp
  · exact family_rangeCheckedInteger m signed bits

theorem decimalEntries_families : ∀ entry ∈ decimalEntries m, EntryFamily carriers entry := by
  intro entry hentry
  rw [decimalEntries, List.mem_append, List.mem_map, List.mem_map] at hentry
  rcases hentry with ⟨_, -, rfl⟩ | ⟨_, -, rfl⟩
  · exact .other rfl
  · exact .other rfl

theorem varcharEntries_families (charsets : List String) :
    ∀ entry ∈ varcharEntries m charsets, EntryFamily carriers entry := by
  intro entry hentry
  obtain ⟨charset, -, hentry⟩ := List.mem_flatMap.mp hentry
  obtain ⟨maxLength, -, rfl⟩ := List.mem_map.mp hentry
  exact family_exactText m charset (some maxLength) .characters

theorem charEntries_families (charsets : List String) :
    ∀ entry ∈ charEntries m charsets, EntryFamily carriers entry := by
  intro entry hentry
  obtain ⟨charset, -, hentry⟩ := List.mem_flatMap.mp hentry
  obtain ⟨maxLength, -, rfl⟩ := List.mem_map.mp hentry
  exact family_exactText m charset (some maxLength) .characters

theorem textEntries_families : ∀ entry ∈ textEntries m, EntryFamily carriers entry := by
  intro entry hentry
  obtain ⟨⟨maxLength, nativeType⟩, -, hentry⟩ := List.mem_flatMap.mp hentry
  obtain ⟨charset, -, rfl⟩ := List.mem_map.mp hentry
  exact family_exactText m charset (some maxLength) .bytes

theorem binaryEntries_families : ∀ entry ∈ binaryEntries m, EntryFamily carriers entry := by
  intro entry hentry
  obtain ⟨maxLength, -, hentry⟩ := List.mem_flatMap.mp hentry
  simp only [List.mem_cons, List.not_mem_nil, or_false] at hentry
  rcases hentry with rfl | rfl
  · exact .other rfl
  · exact .other rfl

theorem bitEntries_families : ∀ entry ∈ bitEntries m, EntryFamily carriers entry := by
  intro entry hentry
  obtain ⟨length, -, rfl⟩ := List.mem_map.mp hentry
  exact .other rfl

theorem structuredEntries_families :
    ∀ entry ∈ structuredEntries m, EntryFamily carriers entry := by
  intro entry hentry
  simp only [structuredEntries, List.mem_cons, List.not_mem_nil, or_false] at hentry
  rcases hentry with rfl | rfl | rfl | rfl | rfl
  · exact .carrier List.mem_cons_self rfl
  · exact .other rfl
  · exact .other rfl
  · exact .carrier List.mem_cons_self rfl
  · exact .other rfl

end Families

section Manifests

variable (library : DigestLibrary) (evidenceDigest : EvidenceDigest)
  (targetBuild : ServerBuildIdentity)

theorem compatibilityManifest_families :
    ∀ entry ∈ (compatibilityManifest library evidenceDigest targetBuild).capabilities,
      EntryFamily carriers entry := by
  simp only [compatibilityManifest, TargetCapabilityManifest.new, List.forall_mem_append]
  and_intros
  · exact integerEntries_families _ fun _ _ => .inl rfl
  · exact decimalEntries_families _
  · exact families_of_others rfl
  · exact varcharEntries_families _ _
  · exact charEntries_families _ _
  · exact varcharEntries_families _ _
  · exact textEntries_families _
  · exact binaryEntries_families _
  · exact bitEntries_families _
  · exact families_of_others rfl
  · exact families_of_others rfl
  · exact families_of_others rfl
  · exact families_of_others rfl
  · exact structuredEntries_families _
  · exact families_of_others rfl
  · exact fun _ h => List.mem_singleton.mp h ▸ family_exactText _ _ _ _
  · exact families_explicitText _ _
  · exact families_of_others rfl
  · exact families_of_others rfl

theorem capabilityManifest_families (connectorVersion codePrefix : String) :
    ∀ entry ∈ (capabilityManifest library evidenceDigest targetBuild connectorVersion
      codePrefix).capabilities, EntryFamily carriers entry := by
  simp only [capabilityManifest, TargetCapabilityManifest.new, List.forall_mem_append]
  and_intros
  · exact integerEntries_families _ fun _ _ => .inr rfl
  · exact decimalEntries_families _
  · exact families_of_others rfl
  · exact varcharEntries_families _ _
  · exact charEntries_families _ _
  · exact textEntries_families _
  · exact fun _ h => List.mem_singleton.mp h ▸ family_exactText _ _ _ _
  · exact families_explicitText _ _
  · exact families_of_others rfl
  · exact bitEntries_families _
  · exact binaryEntries_families _
  · exact families_of_others rfl
  · exact families_of_others rfl
  · exact families_of_others rfl
  · exact families_of_others rfl
  · exact structuredEntries_families _
  · exact families_of_others rfl
  · exact families_of_others rfl
  · exact families_of_others rfl

theorem manifests_families : ∀ manifest ∈ manifests library evidenceDigest targetBuild,
    ∀ entry ∈ manifest.capabilities, EntryFamily carriers entry := by
  intro manifest hmanifest
  simp only [manifests, List.mem_cons, List.not_mem_nil, or_false] at hmanifest
  rcases hmanifest with rfl | rfl | rfl
  · exact capabilityManifest_families library evidenceDigest targetBuild "5.7" "mysql57"
  · exact compatibilityManifest_families library evidenceDigest targetBuild
  · exact capabilityManifest_families library evidenceDigest targetBuild "8.4" "mysql84"

variable {library evidenceDigest targetBuild} {x : PlanningInput}

/-- A MySQL sink writes a column for integers by an entry for integers. -/
theorem writesInteger_of_manifests {source target : IntegerColumn}
    (hmanifest : x.manifest ∈ manifests library evidenceDigest targetBuild)
    (hsource : x.sourceField.logicalType = integerType source)
    (htarget : x.targetField.logicalType = integerType target)
    (hdeclared : declaredInteger x.targetField.nativeType = (target.signed, target.bits)) :
    x.WritesInteger :=
  writesInteger_of_families (manifests_families library evidenceDigest targetBuild _ hmanifest)
    (by decide) hsource htarget hdeclared

/-- A MySQL sink writes a column for texts by an entry for texts, unless it is one for documents. -/
theorem writesText_of_manifests
    (hmanifest : x.manifest ∈ manifests library evidenceDigest targetBuild)
    (hsource : x.sourceField.logicalType.isText = true ∨ x.sourceField.logicalType.isJson = true)
    (htarget : x.targetField.logicalType.isText = true)
    (hcolumn : eqIgnoreAsciiCase "json" x.targetField.nativeType = false) : x.WritesText :=
  writesText_of_families (manifests_families library evidenceDigest targetBuild _ hmanifest)
    hsource htarget fun _ hcarrier => List.mem_singleton.mp hcarrier ▸ hcolumn

end Manifests

/-- The native types of the entries declare the integers that the entries are for. -/
theorem declaredInteger_integerNatives {bits : ℕ} {nativeType : String} (signed : Bool)
    (h : (bits, nativeType) ∈ integerNatives) :
    declaredInteger (mysqlIntegerType nativeType signed none) = (signed, bits) := by
  have hall : ∀ entry ∈ integerNatives, ∀ signed,
      declaredInteger (mysqlIntegerType entry.2 signed none) = (signed, entry.1) := by
    decide +kernel
  exact hall (bits, nativeType) h signed

end DatabaseSync.MysqlSink
