import DatabaseSync.Planner.Manifest

/-! # The manifests of the PostgreSQL sinks

PostgreSQL 15 builds its manifest, 16 and 17 rename its entries.
-/

namespace DatabaseSync.PostgresqlSink

open ChangeEvent Planner TargetRepresentation Text Planner.CapabilityModule

section Entries

variable (m : CapabilityModule)

/-! ## Numbers -/

def scalarEntries : List CapabilityEntry :=
  [m.addExact .boolean "boolean" "boolean", m.addExact .uuid "uuid" "uuid",
    m.addExact (.integer true 16) "smallint" "integer.16.signed",
    m.addExact (.integer true 32) "integer" "integer.32.signed",
    m.addExact (.integer true 64) "bigint" "integer.64.signed",
    m.addExact (.float 32) "real" "float.32", m.addExact (.float 64) "double precision" "float.64",
    m.addExact .date "date" "date", m.addExact .year "smallint" "year"]

def integerNatives : List (ℕ × String) := [(16, "smallint"), (32, "integer"), (64, "bigint")]

def rangeCheckedIntegers : List CapabilityEntry :=
  integerNatives.map fun (bits, native) =>
    m.addRangeCheckedInteger true bits native ("integer." ++ toString bits)

def unsignedIntegers : List CapabilityEntry :=
  [(8, "smallint"), (16, "integer"), (24, "integer"), (32, "bigint"),
    (64, "numeric(20,0)")].map fun (bits, native) =>
      m.addExact (.integer false bits) native ("integer." ++ toString bits ++ ".unsigned")

def decimalEntries : List CapabilityEntry :=
  (decimalParameters 1000).map (fun (precision, scale) =>
    m.addExactWithTarget (.decimal precision scale)
      (insertAll ⟨"numeric(" ++ toString precision ++ "," ++ toString scale ++ ")", []⟩
        [("decimal_special_values", "NaN")])
      ("decimal." ++ toString precision ++ "." ++ toString scale)) ++
  (decimalParameters 1000).map fun (precision, scale) =>
    m.addRangeCheckedDecimal "numeric" [("decimal_special_values", "NaN")] precision scale

/-! ## Texts -/

def textEntries : List CapabilityEntry :=
  ["UTF8", "utf8", "utf8mb4"].flatMap (fun charset =>
    [m.addExact (.textOf charset none .characters) "text" ("text." ++ charset ++ ".unbounded")] ++
    textLengths.map fun length =>
      m.addExact (.textOf charset (some length) .characters)
        ("character varying(" ++ toString length ++ ")")
        ("text." ++ charset ++ ".varchar." ++ toString length)) ++
  ["utf8", "utf8mb4"].flatMap fun charset =>
    [255, 65535, 16777215, 4294967295].map fun length =>
      m.addExact (.textOf charset (some length) .bytes) "text"
        ("text." ++ charset ++ ".bytes." ++ toString length)

def textTargetTypes : List String :=
  textLengths.map (fun length => "character varying(" ++ toString length ++ ")") ++ ["text"]

/-! ## Bytes and bits -/

def binaryEntries : List CapabilityEntry :=
  [m.addExact (.binary none) "bytea" "binary.unbounded"] ++ binaryLengths.map fun length =>
    m.addExact (.binary (some length)) "bytea" ("binary." ++ toString length)

/-- The greatest length stands for every length. -/
def addExactBitString (length : ℕ) : CapabilityEntry :=
  let dynamicLength : Bool := length = 18446744073709551615
  m.addExactWithTarget (.bitString length)
    (insertAll ⟨if dynamicLength then "bit" else "bit(" ++ toString length ++ ")", []⟩
      [("bit_length_unit", "bits"), ("target_bit_order", "msb_first"),
        ("target_padding", if dynamicLength then "auto"
          else if length % 8 = 0 then "none" else "zero")])
    (if dynamicLength then "bit.any" else "bit." ++ toString length)

def bitEntries : List CapabilityEntry :=
  [1, 8, 12, 16, 32, 64, 128, 256, 512, 1024, 18446744073709551615].map (addExactBitString m)

/-! ## Dates and times -/

def timestampType (precision : ℕ) (withTimeZone : Bool) : String :=
  let suffix := if precision = 0 then "" else "(" ++ toString precision ++ ")"
  "timestamp" ++ suffix ++ " " ++ if withTimeZone then "with time zone" else "without time zone"

def temporalEntries : List CapabilityEntry :=
  (List.range 7).flatMap fun precision =>
    [m.addExact (.localDatetime precision) (timestampType precision false)
        ("local_datetime." ++ toString precision),
      m.addExact (.instant precision) (timestampType precision true)
        ("instant." ++ toString precision),
      m.addExact (.duration precision) "interval" ("duration." ++ toString precision),
      m.addExplicitTemporal (.localDatetime 255) (timestampType precision false)
        ("local_datetime." ++ toString precision),
      m.addExplicitTemporal (.instant 255) (timestampType precision true)
        ("instant." ++ toString precision),
      m.addExplicitTemporal (.duration 255) "interval" ("duration." ++ toString precision),
      m.addExplicitTemporal (.localDatetime 255) (timestampType precision true)
        ("local_datetime_to_instant." ++ toString precision),
      m.addExplicitTemporal (.instant 255) (timestampType precision false)
        ("instant_to_local_datetime." ++ toString precision)]

/-! ## Structured values -/

/-- The tagged document is stored as text, since JSONB refuses U+0000. -/
def carrierEntries : List CapabilityEntry :=
  [m.addStructured .normalizedJson (insertAll ⟨"jsonb", []⟩ [("json_strategy", "structured")])
      "jsonb",
    m.addLogicalValueJsonCarrier
      (insertAll ⟨"text", []⟩ [("conversion_kind", "logical_value_json"),
        ("logical_value_schema", "change_event.logical_value.v0_3"),
        ("value_strategy", "tagged_json_v0_3"), ("target_storage", "postgresql_text_tagged_json"),
        ("target_capacity_bytes", "1073741823")]),
    m.addSourceRepresentationCarrier
      (insertAll ⟨"bytea", []⟩ [("conversion_kind", "source_representation"),
        ("source_representation_codec", "source_representation_envelope_json_v1"),
        ("target_storage", "postgresql_bytea"), ("target_capacity_bytes", "1073741823")])]

def enumEntries : List CapabilityEntry :=
  [m.addStructured (.enum []) (insertAll ⟨"enum", []⟩ [("value_strategy", "enum_label")]) "enum",
    m.addEnumByLabel]

def structuredEntries : List CapabilityEntry :=
  [m.addExact (.array (.integer true 32)) "integer[]" "array.integer32",
    m.addExact (.arrayWithMetadata (.integer true 32) 1 [1]) "integer[]"
      "array_with_metadata.integer32",
    m.addExact (.struct (.cons "value" (.integer true 32) false .nil)) "cdc_composite"
      "composite.integer32",
    m.addExact (.domain "cdc_domain" (.integer true 32) [] false none "catalog-bound") "cdc_domain"
      "domain.integer32",
    m.addExact (.range (.integer true 32)) "int4range" "range.integer32",
    m.addExact (.multiRange (.integer true 32)) "int4multirange" "multirange.integer32",
    m.addExact (.spatial "*" none 0) "geometry" "spatial.geometry",
    m.addExact (.spatial "*" none 0) "geography" "spatial.geography",
    m.addExact (.network "inet" false) "inet" "network.inet", m.addExact .xml "xml" "xml",
    m.addExact (.raw "postgresql.user-defined.v1" "USER-DEFINED" "catalog-bound" "binary")
      "USER-DEFINED" "custom.raw",
    m.explicitEntry "set.text_array" (.set []) (insertAll ⟨"text[]", []⟩
      [("set_strategy", "ordered_text_array")]) []]

end Entries

/-! ## Manifests -/

section Manifests

variable (library : DigestLibrary) (evidenceDigest : EvidenceDigest)
  (targetBuild : ServerBuildIdentity)

def postgresql15Module : CapabilityModule where
  codePrefix := "postgresql15"
  ruleVersion := "postgresql-15.sink-conversion.v1"
  structuredVersion := "postgresql-15.sink-conversion.v2"
  explicitVersion := "postgresql-15.sink-conversion.v1"
  carrierVersion := "postgresql-15.sink-carrier.v1"
  rangeRulePrefix := "postgresql15.conversion."
  evidenceDigest := evidenceDigest "postgresql-15.sink-conversion.v1"

/-- The manifest of PostgreSQL 15. -/
def compatibilityManifest : TargetCapabilityManifest :=
  let m := postgresql15Module evidenceDigest
  .new library ⟨"postgresql", "15"⟩ targetBuild (scalarEntries m ++ carrierEntries m ++
    enumEntries m ++ structuredEntries m ++ rangeCheckedIntegers m ++ unsignedIntegers m ++
    decimalEntries m ++ [m.addRangeCheckedFloat "real"] ++ textEntries m ++
    m.explicitTextEntries textTargetTypes ++ binaryEntries m ++ bitEntries m ++
    temporalEntries m) true

/-- The entry of another version. -/
def renamed (connectorVersion : String) (capability : CapabilityEntry) : CapabilityEntry :=
  let versionedPrefix := "postgresql" ++ connectorVersion
  let code := capability.code.replace "postgresql15" versionedPrefix
  { capability with
    code := code
    rule :=
      { capability.rule with
        id := capability.rule.id.replace "postgresql15" versionedPrefix
        version := capability.rule.version.replace "postgresql-15"
          ("postgresql-" ++ connectorVersion)
        evidenceDigest := evidenceDigest
          ("postgresql-" ++ connectorVersion ++ ".sink-conversion.v1") code
          capability.sourceLogicalType capability.target } }

/-- The manifest of a version, without entries for one that is not supported. -/
def buildCompatibilityManifestForVersion (connectorVersion : String) : TargetCapabilityManifest :=
  if connectorVersion = "15" then compatibilityManifest library evidenceDigest targetBuild
  else if connectorVersion = "16" ∨ connectorVersion = "17" then
    .new library ⟨"postgresql", connectorVersion⟩ targetBuild
      ((compatibilityManifest library evidenceDigest targetBuild).capabilities.map
        (renamed evidenceDigest connectorVersion)) true
  else .new library ⟨"postgresql", connectorVersion⟩ targetBuild [] true

end Manifests

/-! ## Families of the entries -/

/-- Documents are stored as JSONB and tagged values as text. -/
def carriers : List String := ["jsonb", "text"]

section Families

variable (m : CapabilityModule)

theorem mem_postgresqlIntegers {entry : (Bool × ℕ) × String} (h : entry ∈ postgresqlIntegers) :
    entry ∈ mysqlIntegers ++ postgresqlIntegers :=
  List.mem_append_right _ h

theorem scalarEntries_families : ∀ entry ∈ scalarEntries m, EntryFamily carriers entry := by
  intro entry hentry
  simp only [scalarEntries, List.mem_cons, List.not_mem_nil, or_false] at hentry
  rcases hentry with rfl | rfl | rfl | rfl | rfl | rfl | rfl | rfl | rfl
  · exact .other rfl
  · exact .other rfl
  · exact family_exactInteger m (mem_postgresqlIntegers (by decide))
  · exact family_exactInteger m (mem_postgresqlIntegers (by decide))
  · exact family_exactInteger m (mem_postgresqlIntegers (by decide))
  · exact .other rfl
  · exact .other rfl
  · exact .other rfl
  · exact .other rfl

theorem carrierEntries_families : ∀ entry ∈ carrierEntries m, EntryFamily carriers entry := by
  intro entry hentry
  simp only [carrierEntries, List.mem_cons, List.not_mem_nil, or_false] at hentry
  rcases hentry with rfl | rfl | rfl
  · exact .carrier List.mem_cons_self rfl
  · exact .carrier (List.mem_cons_of_mem _ List.mem_cons_self) rfl
  · exact .other rfl

theorem rangeCheckedIntegers_families :
    ∀ entry ∈ rangeCheckedIntegers m, EntryFamily carriers entry := by
  intro entry hentry
  obtain ⟨⟨bits, native⟩, -, rfl⟩ := List.mem_map.mp hentry
  exact family_rangeCheckedInteger m true bits

theorem unsignedIntegers_families : ∀ entry ∈ unsignedIntegers m, EntryFamily carriers entry := by
  intro entry hentry
  obtain ⟨⟨bits, native⟩, hnative, rfl⟩ := List.mem_map.mp hentry
  have hmem : ((false, bits), native) ∈ postgresqlIntegers := by
    simp only [List.mem_cons, Prod.mk.injEq, List.not_mem_nil, or_false] at hnative
    rcases hnative with ⟨rfl, rfl⟩ | ⟨rfl, rfl⟩ | ⟨rfl, rfl⟩ | ⟨rfl, rfl⟩ | ⟨rfl, rfl⟩
    all_goals decide
  exact family_exactInteger m (mem_postgresqlIntegers hmem)

theorem decimalEntries_families : ∀ entry ∈ decimalEntries m, EntryFamily carriers entry := by
  intro entry hentry
  rw [decimalEntries, List.mem_append, List.mem_map, List.mem_map] at hentry
  rcases hentry with ⟨_, -, rfl⟩ | ⟨_, -, rfl⟩
  · exact .other rfl
  · exact .other rfl

theorem textEntries_families : ∀ entry ∈ textEntries m, EntryFamily carriers entry := by
  intro entry hentry
  rw [textEntries, List.mem_append, List.mem_flatMap, List.mem_flatMap] at hentry
  rcases hentry with ⟨charset, -, hentry⟩ | ⟨charset, -, hentry⟩
  · rcases List.mem_append.mp hentry with hentry | hentry
    · rw [List.mem_singleton.mp hentry]
      exact family_exactText m charset none .characters
    · obtain ⟨length, -, rfl⟩ := List.mem_map.mp hentry
      exact family_exactText m charset (some length) .characters
  · obtain ⟨length, -, rfl⟩ := List.mem_map.mp hentry
    exact family_exactText m charset (some length) .bytes

theorem binaryEntries_families : ∀ entry ∈ binaryEntries m, EntryFamily carriers entry := by
  intro entry hentry
  rcases List.mem_append.mp hentry with hentry | hentry
  · rw [List.mem_singleton.mp hentry]
    exact .other rfl
  · obtain ⟨length, -, rfl⟩ := List.mem_map.mp hentry
    exact .other rfl

end Families

section Versions

variable (library : DigestLibrary) (evidenceDigest : EvidenceDigest)
  (targetBuild : ServerBuildIdentity)

theorem compatibilityManifest_families :
    ∀ entry ∈ (compatibilityManifest library evidenceDigest targetBuild).capabilities,
      EntryFamily carriers entry := by
  simp only [compatibilityManifest, TargetCapabilityManifest.new, List.forall_mem_append]
  and_intros
  · exact scalarEntries_families _
  · exact carrierEntries_families _
  · exact families_of_others rfl
  · exact families_of_others rfl
  · exact rangeCheckedIntegers_families _
  · exact unsignedIntegers_families _
  · exact decimalEntries_families _
  · exact families_of_others rfl
  · exact textEntries_families _
  · exact families_explicitText _ _
  · exact binaryEntries_families _
  · exact families_of_others rfl
  · exact families_of_others rfl

/-- Another name keeps an entry in its family. -/
theorem family_renamed {connectorVersion : String} {capability : CapabilityEntry}
    (h : EntryFamily carriers capability) :
    EntryFamily carriers (renamed evidenceDigest connectorVersion capability) := by
  cases h with
  | integer hsource hentry =>
    refine .integer hsource ?_
    cases hentry with
    | exact hsource hmem hnone => exact .exact hsource hmem hnone
    | ranged hsource hranged => exact .ranged hsource hranged
  | text hsource hentry =>
    refine .text hsource ?_
    cases hentry with
    | exact htext hqualification hnone => exact .exact htext hqualification hnone
    | text htext hkind => exact .text htext hkind
    | json hjson hkind => exact .json hjson hkind
  | carrier hcarrier hgeometry => exact .carrier hcarrier hgeometry
  | other hother => exact .other hother

theorem buildCompatibilityManifestForVersion_families (connectorVersion : String) :
    ∀ entry ∈ (buildCompatibilityManifestForVersion library evidenceDigest targetBuild
      connectorVersion).capabilities, EntryFamily carriers entry := by
  unfold buildCompatibilityManifestForVersion
  split_ifs
  · exact compatibilityManifest_families library evidenceDigest targetBuild
  · intro entry hentry
    obtain ⟨capability, hcapability, rfl⟩ := List.mem_map.mp hentry
    exact family_renamed evidenceDigest
      (compatibilityManifest_families library evidenceDigest targetBuild _ hcapability)
  · exact fun _ hentry => absurd hentry List.not_mem_nil

variable {library evidenceDigest targetBuild} {x : PlanningInput} {connectorVersion : String}

/-- A PostgreSQL sink writes a column for integers by an entry for integers. -/
theorem writesInteger_of_manifest {source target : IntegerColumn}
    (hmanifest : x.manifest = buildCompatibilityManifestForVersion library evidenceDigest
      targetBuild connectorVersion)
    (hsource : x.sourceField.logicalType = integerType source)
    (htarget : x.targetField.logicalType = integerType target)
    (hdeclared : declaredInteger x.targetField.nativeType = (target.signed, target.bits)) :
    x.WritesInteger := by
  have hfamilies := buildCompatibilityManifestForVersion_families library evidenceDigest
    targetBuild connectorVersion
  rw [← hmanifest] at hfamilies
  exact writesInteger_of_families hfamilies (by decide) hsource htarget hdeclared

/-- A PostgreSQL sink writes a column for texts by an entry for texts, unless its native type is
that of a carrier. -/
theorem writesText_of_manifest
    (hmanifest : x.manifest = buildCompatibilityManifestForVersion library evidenceDigest
      targetBuild connectorVersion)
    (hsource : x.sourceField.logicalType.isText = true ∨ x.sourceField.logicalType.isJson = true)
    (htarget : x.targetField.logicalType.isText = true)
    (hcolumn : ∀ carrier ∈ carriers, eqIgnoreAsciiCase carrier x.targetField.nativeType = false) :
    x.WritesText := by
  have hfamilies := buildCompatibilityManifestForVersion_families library evidenceDigest
    targetBuild connectorVersion
  rw [← hmanifest] at hfamilies
  exact writesText_of_families hfamilies hsource htarget hcolumn

end Versions

/-- The native types of the range-checked entries declare the integers that they are for. -/
theorem declaredInteger_integerNatives {bits : ℕ} {native : String}
    (h : (bits, native) ∈ integerNatives) : declaredInteger native = (true, bits) := by
  have hall : ∀ entry ∈ integerNatives, declaredInteger entry.2 = (true, entry.1) := by
    decide +kernel
  exact hall (bits, native) h

end DatabaseSync.PostgresqlSink
