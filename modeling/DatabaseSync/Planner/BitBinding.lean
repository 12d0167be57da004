import DatabaseSync.ChangeEvent.BitString
import DatabaseSync.Library.Digits
import DatabaseSync.Planner.Entries

/-! # Exact bit string bindings

What the connectors say of their bit strings, and the layout that the plan of the catalog planner
takes from it.
-/

namespace DatabaseSync.Planner

open ChangeEvent Checked TargetRepresentation Text

/-! ## The connectors -/

def orderText : BitOrder → String
  | .msbFirst => "msb_first"
  | .lsbFirst => "lsb_first"

def zeroPaddingText (bitLength : ℕ) : String := if bitLength % 8 = 0 then "none" else "zero"

/-- The layout that a connector writes into its source type mapping. -/
def bitValueRepresentation (order : BitOrder) (bitLength : ℕ) : List (String × String) :=
  [("bit_order", orderText order), ("bit_padding", zeroPaddingText bitLength)]

/-- The exact bit string entries of a sink's manifest: the lengths that have one, with the length
that stands for all others, and the bit order of the sink. -/
structure BitStringEntries where
  lengths : List ℕ
  anyLength : Option ℕ
  order : BitOrder
  lengths_ne : 18446744073709551615 ∉ lengths
  anyLength_eq : ∀ n, anyLength = some n → n = 18446744073709551615

/-- `add_exact_bit_string` -/
def BitStringEntries.target (entries : BitStringEntries) (bitLength : ℕ) : TargetRepresentation :=
  let dynamicLength := entries.anyLength = some bitLength
  ⟨if dynamicLength then "bit" else "bit(" ++ toString bitLength ++ ")",
    [("bit_length_unit", "bits"), ("target_bit_order", orderText entries.order),
      ("target_padding", if dynamicLength then "auto" else zeroPaddingText bitLength)]⟩

/-- PostgreSQL's entries. The greatest number of 64 bits stands for every length. -/
def postgresqlBitStrings : BitStringEntries where
  lengths := [1, 8, 12, 16, 32, 64, 128, 256, 512, 1024]
  anyLength := some 18446744073709551615
  order := .msbFirst
  lengths_ne := by decide
  anyLength_eq := by simp

def mysqlBitStrings : BitStringEntries where
  lengths := List.range' 1 64
  anyLength := none
  order := .lsbFirst
  lengths_ne := by simp
  anyLength_eq := by simp

/-- An entry that `add_exact_bit_string` adds for one of the lengths. -/
structure BitStringEntries.Adds (entries : BitStringEntries) (capability : CapabilityEntry) :
    Prop where
  target : ∃ bitLength, (bitLength ∈ entries.lengths ∨ entries.anyLength = some bitLength) ∧
    capability.sourceLogicalType = .bitString bitLength ∧
    capability.target = entries.target bitLength
  options : capability.rule.options = []

/-- A source column and a target column of bit strings of one length. The entries of the manifest
that write the target column are those for bit strings. -/
structure FieldCompatibilityInput.BindsBitStrings (x : FieldCompatibilityInput)
    (sourceOrder : BitOrder) (entries : BitStringEntries) (bitLength : ℕ) : Prop where
  source : x.sourceField.logicalType = .bitString bitLength
  destination : x.targetField.logicalType = .bitString bitLength
  mapping : x.sourceTypeMapping.valueRepresentation = bitValueRepresentation sourceOrder bitLength
  entries : ∀ capability ∈ x.manifest.capabilities,
    targetRepresentationMatchesBinding capability x.targetField = true → entries.Adds capability

/-! ## The planned layout -/

/-- The parameters that no source evidence is bound to. -/
def bitStringNames : List String :=
  ["conversion_kind", "source_bit_length", "target_bit_length", "source_bit_order",
    "target_bit_order", "source_padding", "target_padding"]

theorem notMem_evidenceNames : ∀ name ∈ bitStringNames, name ∉ evidenceNames := by decide

section Target

variable {library : DigestLibrary} {representation : TargetRepresentation}
  {parameters : List (String × String)} {bitLength : ℕ} {name value : String}

theorem bitStringEntries_names :
    (bitStringEntries representation parameters bitLength bitLength).map Prod.fst =
      bitStringNames := rfl

theorem parameter_planTargetRepresentation
    (h : (name, value) ∈ bitStringEntries representation parameters bitLength bitLength) :
    parameter (planTargetRepresentation library representation parameters (.bitString bitLength)
      (.bitString bitLength)) name = some value := by
  refine parameter_insertAll_of_mem ?_ h
  exact (by decide : bitStringNames.Nodup)

/-- The plan has the bit string parameters of its target representation. -/
theorem parameter_planTarget {x : PlanningInput} {candidate : TargetTypeCandidate}
    (hsource : x.sourceField.logicalType = .bitString bitLength)
    (hdestination : x.targetField.logicalType = .bitString bitLength)
    (h : (name, value) ∈ bitStringEntries candidate.target
      (insertEntry "target_native_type" x.targetField.nativeType
        (insertEntry "source_native_type" x.sourceField.nativeType parameters))
      bitLength bitLength) :
    parameter (x.planTarget library candidate parameters) name = some value := by
  have hraw : rawEntries x.sourceField = [] := by simp [rawEntries, hsource]
  have hmem : name ∈ bitStringNames := by
    rw [← bitStringEntries_names]
    exact List.mem_map_of_mem h
  have hcollation : ∀ name ∈ bitStringNames, name ∉ ["source_collation", "target_collation"] := by
    decide
  rw [parameter_planTarget_eq hraw (notMem_evidenceNames _ hmem) (hcollation _ hmem), hsource,
    hdestination]
  exact parameter_planTargetRepresentation h

end Target

/-! ## The plan -/

section Plan

variable {library : DigestLibrary} {x : FieldCompatibilityInput} {r : CompatibilityResult}
  {plan : ColumnConversionPlan} {sourceOrder : BitOrder} {entries : BitStringEntries}
  {bitLength : ℕ}

@[simp]
theorem bitOrderOf_orderText (order : BitOrder) :
    bitOrderOf (some (orderText order)) = some order := by
  cases order <;> rfl

@[simp]
theorem bitPaddingOf_zeroPaddingText (n : ℕ) :
    bitPaddingOf (some (zeroPaddingText n)) = some (zeroPadding n) := by
  unfold zeroPaddingText zeroPadding
  split <;> rfl

/-- The plan of the catalog planner is built for one of the entries, without parameters. -/
theorem FieldCompatibilityInput.BindsBitStrings.exists_candidate
    (h : x.BindsBitStrings sourceOrder entries bitLength)
    (hexplain : explainFieldCompatibility library x = .ok r) (hplan : r.plan = some plan) :
    ∃ candidate capability, entries.Adds capability ∧
      capabilityMatchesSource capability x.sourceField.logicalType = true ∧
      candidate.target.parameters = capability.target.parameters ∧ plan.parameters = [] ∧
      plan.target = x.planTarget library candidate (x.bitParameters []) := by
  have hcatalog : (PlannerInput.catalog x : PlannerInput sampleValidation).explain library =
      .ok r := hexplain
  obtain ⟨hcheck, candidate, chosen, hchoose, rfl⟩ := PlannerInput.explain_plan hcatalog hplan
  obtain ⟨-, -, -, hmem, -, parameters, hparameters, hchosen⟩ :=
    FieldCompatibilityInput.choosePlan_eq_ok.mp hchoose
  obtain ⟨hnodup, -⟩ :=
    TargetCapabilityManifest.validate_ok (PlannerInput.check_manifest hcheck)
  obtain ⟨hcapability, heligible, hcandidate⟩ := PlanningInput.capabilityOf_spec hnodup hmem
  obtain ⟨hmatches, hbinds⟩ := PlanningInput.eligible_matches heligible
  have hadds := h.entries _ hcapability hbinds
  obtain rfl := PlanningInput.checkParameters_eq_nil hparameters hadds.options
  obtain ⟨confirmation, hsettled⟩ :=
    CompatibilityInput.settle_plan x.toPlanningInput candidate chosen
  have hplan : plan = { chosen with confirmation := confirmation } :=
    Option.some.inj (hplan.symm.trans hsettled)
  have hfields : chosen.parameters = [] ∧
      chosen.target = x.planTarget library candidate (x.bitParameters []) := by
    rw [hchosen]
    split
    · rw [FieldCompatibilityInput.parameters_addCollationLoss,
        FieldCompatibilityInput.target_addCollationLoss,
        FieldCompatibilityInput.parameters_buildFieldPlan,
        FieldCompatibilityInput.target_buildFieldPlan]
      exact ⟨rfl, rfl⟩
    · rw [FieldCompatibilityInput.parameters_buildFieldPlan,
        FieldCompatibilityInput.target_buildFieldPlan]
      exact ⟨rfl, rfl⟩
  refine ⟨candidate, _, hadds, hmatches, ?_, ?_, ?_⟩
  · exact (congrArg (fun candidate => candidate.target.parameters) hcandidate).symm.trans
      (candidateTarget_parameters _ _)
  · rw [hplan]
    exact hfields.1
  · rw [hplan]
    exact hfields.2

/-- An entry that matches is for the length of the source, or for every length. -/
theorem BitStringEntries.Adds.parameters {capability : CapabilityEntry}
    (h : entries.Adds capability)
    (hsource : capabilityMatchesSource capability (.bitString bitLength) = true) :
    capability.target.parameters = [("bit_length_unit", "bits"),
        ("target_bit_order", orderText entries.order), ("target_padding", "auto")] ∨
      capability.target.parameters = [("bit_length_unit", "bits"),
        ("target_bit_order", orderText entries.order),
        ("target_padding", zeroPaddingText bitLength)] := by
  obtain ⟨n, hn, htype, htarget⟩ := h.target
  rw [htarget]
  by_cases hdynamic : entries.anyLength = some n
  · left
    simp [BitStringEntries.target, hdynamic]
  · right
    have hmem : n ∈ entries.lengths := hn.resolve_right hdynamic
    have hne : n ≠ 18446744073709551615 := fun heq => entries.lengths_ne (heq ▸ hmem)
    have heq : n = bitLength := by
      rw [capabilityMatchesSource, htype, Bool.or_eq_true] at hsource
      rcases hsource with heq | htemplate
      · simpa using heq
      · simp [templateMatchesSource, hne] at htemplate
    subst heq
    simp [BitStringEntries.target, hdynamic]

/-- The layout of the source comes with its type mapping. -/
theorem FieldCompatibilityInput.BindsBitStrings.lookup_bitParameters
    (h : x.BindsBitStrings sourceOrder entries bitLength) (name : String) :
    (x.bitParameters []).lookup name =
      if name = "source_padding" then some (zeroPaddingText bitLength)
      else if name = "source_bit_order" then some (orderText sourceOrder) else none := by
  have hbits : x.sourceField.logicalType.isBitString = true := by
    rw [h.source]
    rfl
  have horder : x.sourceTypeMapping.valueRepresentation.lookup "bit_order" =
      some (orderText sourceOrder) := by
    rw [h.mapping]
    rfl
  have hpadding : x.sourceTypeMapping.valueRepresentation.lookup "bit_padding" =
      some (zeroPaddingText bitLength) := by
    rw [h.mapping]
    rfl
  unfold FieldCompatibilityInput.bitParameters
  rw [if_pos hbits, horder, hpadding]
  simp

/-- The plan of an exact bit string binding has the layouts of both connectors. -/
theorem FieldCompatibilityInput.BindsBitStrings.bitStringPlan
    (h : x.BindsBitStrings sourceOrder entries bitLength) (hlength : bitLength < 2 ^ 64)
    (hexplain : explainFieldCompatibility library x = .ok r) (hplan : r.plan = some plan) :
    BitStringPlan plan.toColumnConversionPlan bitLength sourceOrder entries.order := by
  obtain ⟨candidate, capability, hadds, hmatches, hcandidate, hparameters, htarget⟩ :=
    h.exists_candidate hexplain hplan
  rw [h.source] at hmatches
  have hentry := hadds.parameters hmatches
  rw [← hcandidate] at hentry
  generalize hplanning : insertEntry "target_native_type" x.targetField.nativeType
    (insertEntry "source_native_type" x.sourceField.nativeType (x.bitParameters [])) = planning
  have hlookup : ∀ name, name ≠ "target_native_type" → name ≠ "source_native_type" →
      planning.lookup name = (x.bitParameters []).lookup name := by
    intro name htargetName hsourceName
    rw [← hplanning, lookup_insertEntry, if_neg htargetName, lookup_insertEntry,
      if_neg hsourceName]
  have hsourceOrder : parameterOr candidate.target planning "source_bit_order" =
      some (orderText sourceOrder) := by
    rw [parameterOr, hlookup _ (by decide) (by decide), h.lookup_bitParameters]
    rfl
  have hsourcePadding : parameterOr candidate.target planning "source_padding" =
      some (zeroPaddingText bitLength) := by
    rw [parameterOr, hlookup _ (by decide) (by decide), h.lookup_bitParameters]
    rfl
  have htargetOrder : parameterOr candidate.target planning "target_bit_order" =
      some (orderText entries.order) := by
    rw [parameterOr, hlookup _ (by decide) (by decide), h.lookup_bitParameters, parameter]
    rcases hentry with hentry | hentry
    · rw [hentry]
      rfl
    · rw [hentry]
      rfl
  have htargetPadding : ((parameterOr candidate.target planning "target_padding").filter
      (· != "auto")).getD (zeroPaddingText bitLength) = zeroPaddingText bitLength := by
    rw [parameterOr, hlookup _ (by decide) (by decide), h.lookup_bitParameters,
      if_neg (by decide), if_neg (by decide), parameter]
    rcases hentry with hentry | hentry
    · rw [hentry]
      rfl
    · rw [hentry]
      unfold zeroPaddingText
      split
      · rfl
      · rfl
  have hentries : bitStringEntries candidate.target planning bitLength bitLength =
      [("conversion_kind", "bit_string"), ("source_bit_length", toString bitLength),
        ("target_bit_length", toString bitLength), ("source_bit_order", orderText sourceOrder),
        ("target_bit_order", orderText entries.order),
        ("source_padding", zeroPaddingText bitLength),
        ("target_padding", zeroPaddingText bitLength)] := by
    unfold bitStringEntries
    rw [hsourceOrder, hsourcePadding, htargetOrder]
    dsimp only [Option.getD_some]
    exact congrArg (fun padding => [_, _, _, _, _, _, ("target_padding", padding)]) htargetPadding
  have hparameter : ∀ name value, (name, value) ∈
      bitStringEntries candidate.target planning bitLength bitLength →
      plan.toColumnConversionPlan.parameter name = some value := by
    intro name value hmem
    subst hplanning
    have hplanned : TargetRepresentation.parameter
        (x.planTarget library candidate (x.bitParameters [])) name = some value :=
      parameter_planTarget h.source h.destination hmem
    rw [ChangeEvent.ColumnConversionPlan.parameter, hparameters, htarget, List.lookup_nil]
    exact hplanned
  rw [hentries] at hparameter
  refine ⟨?_, ?_, ?_, ?_, ?_, ?_⟩
  · have hkind := hparameter "conversion_kind" "bit_string" (by simp)
    rwa [ChangeEvent.ColumnConversionPlan.parameter, hparameters] at hkind
  · rw [hparameter "source_bit_length" (toString bitLength) (by simp), Option.bind_some]
    exact parseU64_toString hlength
  · rw [hparameter "source_bit_order" (orderText sourceOrder) (by simp), bitOrderOf_orderText]
  · rw [hparameter "target_bit_order" (orderText entries.order) (by simp), bitOrderOf_orderText]
  · rw [hparameter "source_padding" (zeroPaddingText bitLength) (by simp),
      bitPaddingOf_zeroPaddingText]
  · rw [hparameter "target_padding" (zeroPaddingText bitLength) (by simp),
      bitPaddingOf_zeroPaddingText]

end Plan

section Sample

/-- A sink with one entry for bit strings, for the length or for all of them. -/
def bitManifest (sink : ConnectorIdentity) (entries : BitStringEntries) (entryLength : ℕ) :
    TargetCapabilityManifest :=
  { sampleManifest with
    connector := sink
    capabilities := [⟨"exact.bit", .bitString entryLength, entries.target entryLength,
      sampleRule "bit" .exact, [], []⟩] }

def bitInput (source sink : ConnectorIdentity) (sourceOrder : BitOrder)
    (entries : BitStringEntries) (bitLength entryLength : ℕ) : FieldCompatibilityInput where
  sourceField := sampleField "source" 1 "flags" ("bit(" ++ toString bitLength ++ ")")
    (.bitString bitLength) none false
  targetField := sampleField "target" 1 "flags" ("bit(" ++ toString bitLength ++ ")")
    (.bitString bitLength) none false
  sourceTypeMapping := ⟨source, "bit(" ++ toString bitLength ++ ")", .bitString bitLength,
    source.kind ++ ".bit", "1", none, none, none, none, none,
    bitValueRepresentation sourceOrder bitLength⟩
  sourceConnector := source
  sinkConnector := sink
  sourceBuild := none
  targetBuild := none
  manifest := bitManifest sink entries entryLength
  options := ⟨"route", "1", none, [], [], none⟩
  operations := [.insert]
  presences := [.value]
  sourceHasPrimaryKey := true

/-- From MySQL to PostgreSQL, with the entry for every length. -/
def bitsToPostgresql (bitLength : ℕ) : FieldCompatibilityInput :=
  bitInput ⟨"mysql", "8.0"⟩ ⟨"postgresql", "15"⟩ .lsbFirst postgresqlBitStrings bitLength
    18446744073709551615

def bitsToMysql (bitLength : ℕ) : FieldCompatibilityInput :=
  bitInput ⟨"postgresql", "15"⟩ ⟨"mysql", "8.0"⟩ .msbFirst mysqlBitStrings bitLength bitLength

theorem bindsBitStrings_bitsToPostgresql (bitLength : ℕ) :
    (bitsToPostgresql bitLength).BindsBitStrings .lsbFirst postgresqlBitStrings bitLength := by
  refine ⟨rfl, rfl, rfl, ?_⟩
  intro capability hcapability _
  obtain rfl := List.mem_singleton.mp hcapability
  exact ⟨⟨_, .inr rfl, rfl, rfl⟩, rfl⟩

theorem bindsBitStrings_bitsToMysql {bitLength : ℕ} (h : bitLength ∈ mysqlBitStrings.lengths) :
    (bitsToMysql bitLength).BindsBitStrings .msbFirst mysqlBitStrings bitLength := by
  refine ⟨rfl, rfl, rfl, ?_⟩
  intro capability hcapability _
  obtain rfl := List.mem_singleton.mp hcapability
  exact ⟨⟨_, .inl h, rfl, rfl⟩, rfl⟩

example : (explainFieldCompatibility sampleDigests (bitsToPostgresql 10)).map (·.status) =
    .ok .compatible := rfl

end Sample

end DatabaseSync.Planner
