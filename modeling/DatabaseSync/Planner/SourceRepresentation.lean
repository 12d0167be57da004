import DatabaseSync.ChangeEvent.DecimalPlan
import DatabaseSync.Planner.TextPlan

/-! # Source representations under a plan

A plan for a source-representation carrier records which type of which source build its payloads
belong to. An envelope is written under the plan only where it carries the same evidence.
-/

namespace DatabaseSync.Planner

open ChangeEvent Checked TargetRepresentation Text

/-! ## The check -/

/-- What `serde_json` reads back, and the length of an envelope that it writes. -/
structure EvidenceJson where
  readMetadata : String → Option (List (String × String))
  readNames : String → Option (List String)
  encodedLength : SourceRepresentationEnvelope → ℕ

/-- The same keys as sets. -/
def sameKeys (left right : List String) : Bool :=
  left.all (right.contains ·) && right.all (left.contains ·)

theorem sameKeys_iff {left right : List String} :
    sameKeys left right = true ↔ ∀ key, key ∈ left ↔ key ∈ right := by
  rw [sameKeys, Bool.and_eq_true, List.all_eq_true, List.all_eq_true]
  simp only [List.contains_iff_mem]
  constructor
  · rintro ⟨hleft, hright⟩ key
    exact ⟨hleft key, hright key⟩
  · intro h
    exact ⟨fun key => (h key).mp, fun key => (h key).mpr⟩

section Check

variable (library : DigestLibrary) (validation : ValidationLibrary) (json : EvidenceJson)
  (plan : ColumnConversionPlan) (envelope : SourceRepresentationEnvelope)

/-- `plan.target.parameters.get(name)` -/
def targetParameter (name : String) : Option String := parameter plan.target name

/-- The carrier has room for the envelope. -/
def checkCarrierCapacity : Except TargetCapabilityFailure Unit :=
  match targetParameter plan "target_capacity_bytes" with
  | none => .ok ()
  | some capacity => do
    let capacity ← plan.needs (parseU64 capacity)
      "target_capability.source_representation_capacity_invalid"
      "the source representation carrier capacity is invalid"
    plan.check (json.encodedLength envelope ≤ capacity)
      "target_capability.source_representation_capacity_exceeded"
      "the source representation envelope exceeds the qualified target carrier capacity"

/-- The source, its build, the type and the protocol are those of the plan. -/
def checkSourceIdentity : Except TargetCapabilityFailure Unit := do
  plan.check (envelope.context.connector == plan.sourceConnector)
    "target_capability.source_representation_connector_mismatch"
    "the source representation envelope belongs to another source connector"
  plan.check (plan.sourceBuild == some envelope.context.serverBuild)
    "target_capability.source_representation_build_mismatch"
    "the source representation envelope build differs from the approved plan"
  let expectedIdentity ← plan.needs (targetParameter plan "source_representation_type_identity")
    "target_capability.source_representation_identity_missing"
    "the approved plan is missing the source protocol type identity"
  plan.check (envelope.context.sourceTypeIdentity == expectedIdentity)
    "target_capability.source_representation_identity_mismatch"
    "the source representation envelope belongs to another protocol type identity"
  let expectedProtocol ← plan.needs (targetParameter plan "source_representation_protocol")
    "target_capability.source_representation_protocol_missing"
    "the approved plan is missing the source protocol identity"
  let expectedFormat ← plan.needs (targetParameter plan "source_representation_format")
    "target_capability.source_representation_format_missing"
    "the approved plan is missing the source protocol format"
  plan.check (envelope.context.protocol == expectedProtocol &&
      representationFormat envelope.context.format == expectedFormat)
    "target_capability.source_representation_protocol_mismatch"
    "the source representation protocol or format differs from the approved plan"

/-- The fixed metadata has its values, and no key is neither fixed nor allowed. -/
def checkTypeMetadata : Except TargetCapabilityFailure Unit := do
  let expectedMetadataJson ← plan.needs
    (targetParameter plan "source_representation_type_metadata_json")
    "target_capability.source_representation_metadata_missing"
    "the approved plan is missing stable source type metadata"
  let expectedMetadata ← plan.needs (json.readMetadata expectedMetadataJson)
    "target_capability.source_representation_metadata_invalid"
    "the approved source type metadata is not valid serialized evidence"
  plan.check (!expectedMetadata.isEmpty &&
      targetParameter plan "source_representation_type_metadata_digest" ==
        some (library.stableDigest (.metadata expectedMetadata)))
    "target_capability.source_representation_metadata_invalid"
    "the approved source type metadata digest is missing or invalid"
  let expectedContextKeysJson ← plan.needs
    (targetParameter plan "source_representation_context_metadata_keys_json")
    "target_capability.source_representation_context_metadata_missing"
    "the approved plan is missing its runtime context metadata policy"
  let expectedContextKeys ← plan.needs (json.readNames expectedContextKeysJson)
    "target_capability.source_representation_context_metadata_invalid"
    "the approved runtime context metadata policy is invalid"
  plan.check (targetParameter plan "source_representation_context_metadata_keys_digest" ==
        some (library.stableDigest (.names expectedContextKeys)) &&
      !(expectedMetadata.any fun entry => expectedContextKeys.contains entry.1) &&
      !(expectedContextKeys.any isBlank))
    "target_capability.source_representation_context_metadata_invalid"
    ("the approved runtime context metadata keys are missing, duplicated, or overlap type " ++
      "metadata")
  plan.check (expectedMetadata.all fun entry =>
      envelope.context.typeMetadata.lookup entry.1 == some entry.2)
    "target_capability.source_representation_metadata_mismatch"
    "the source representation type metadata differs from the approved definition evidence"
  plan.check (sameKeys (envelope.context.typeMetadata.map Prod.fst)
      (expectedMetadata.map Prod.fst ++ expectedContextKeys))
    "target_capability.source_representation_metadata_unbound"
    ("the source representation contains metadata keys that are absent from the approved type " ++
      "or runtime-context policy")

/-- The definition and the encoding of the type are those of the plan. -/
def checkTypeDefinition : Except TargetCapabilityFailure Unit := do
  let expectedDigest ← plan.needs (targetParameter plan "source_type_definition_digest")
    "target_capability.source_representation_definition_missing"
    "the approved plan is missing the source type definition digest"
  plan.check (stripSha256 envelope.context.sourceTypeDefinitionDigest == expectedDigest)
    "target_capability.source_representation_definition_mismatch"
    "the source representation envelope belongs to another type definition"
  let expectedNative ← plan.needs (targetParameter plan "source_type_native")
    "target_capability.source_representation_native_type_missing"
    "the approved plan is missing the source native type identity"
  plan.check (envelope.encoding == (targetParameter plan "source_type_encoding").getD "" &&
      !isBlank envelope.context.sourceTypeIdentity &&
      (envelope.context.typeMetadata.lookup "native_type").all (· == expectedNative) &&
      (targetParameter plan "source_codec_identity").any (!·.isEmpty))
    "target_capability.source_representation_codec_mismatch"
    "the source representation envelope codec evidence differs from the approved plan"

def validateSourceRepresentationEnvelopeAgainstPlan : Except TargetCapabilityFailure Unit := do
  plan.check (targetParameter plan "conversion_kind" == some "source_representation" &&
      targetParameter plan "source_representation_codec" ==
        some "source_representation_envelope_json_v1")
    "target_capability.source_representation_not_supported"
    "this plan does not provide an explicit Source Representation Envelope carrier"
  plan.check (!plan.target.nativeType.isEmpty &&
      (targetParameter plan "target_storage").any (!·.isEmpty))
    "target_capability.source_representation_target_missing"
    "the plan does not identify its qualified binary carrier target"
  (envelope.validate validation).mapError fun error =>
    plan.failure error.code "the source representation envelope failed integrity validation"
  -- a map of strings is always written, so that its encoding does not fail
  checkCarrierCapacity json plan envelope
  checkSourceIdentity plan envelope
  checkTypeMetadata library json plan envelope
  checkTypeDefinition plan envelope

end Check

/-! ## What the check accepts -/

/-- The type of a source whose payloads are kept in their protocol form. -/
structure RawType where
  codecIdentity : String
  nativeType : String
  definitionDigest : String
  encoding : String
deriving DecidableEq, Repr

section Accepts

variable {library : DigestLibrary} {validation : ValidationLibrary} {json : EvidenceJson}
  {plan : ColumnConversionPlan} {envelope : SourceRepresentationEnvelope}
  {evidence : SourceRepresentationTypeEvidence} {type : RawType}

def rawTypeEntries (type : RawType) : List (String × String) :=
  [("source_codec_identity", type.codecIdentity), ("source_type_native", type.nativeType),
    ("source_type_definition_digest", stripSha256 type.definitionDigest),
    ("source_type_encoding", type.encoding)]

/-- The target of a plan records the type and its evidence. -/
def RecordsEvidence (library : DigestLibrary) (target : TargetRepresentation) (type : RawType)
    (evidence : SourceRepresentationTypeEvidence) : Prop :=
  ∀ entry ∈ rawTypeEntries type ++ representationEvidenceEntries library evidence,
    parameter target entry.1 = some entry.2

/-- The metadata and the context keys of the evidence are read back as they were written. -/
structure ReadsEvidence (library : DigestLibrary) (json : EvidenceJson)
    (evidence : SourceRepresentationTypeEvidence) : Prop where
  metadata : json.readMetadata (library.toJson (.metadata evidence.typeMetadata)) =
    some evidence.typeMetadata
  names : json.readNames (library.toJson (.names evidence.allowedContextMetadataKeys)) =
    some evidence.allowedContextMetadataKeys

/-- The recorded evidence can be checked: there is fixed metadata, the context keys are named and
apart from it, and the codec is known. -/
structure EvidenceUsable (type : RawType) (evidence : SourceRepresentationTypeEvidence) :
    Prop where
  metadata : evidence.typeMetadata ≠ []
  apart : ∀ entry ∈ evidence.typeMetadata, entry.1 ∉ evidence.allowedContextMetadataKeys
  named : ∀ key ∈ evidence.allowedContextMetadataKeys, isBlank key = false
  codec : type.codecIdentity.isEmpty = false

/-- The plan writes envelopes to a carrier. -/
structure CarrierTarget (target : TargetRepresentation) : Prop where
  kind : parameter target "conversion_kind" = some "source_representation"
  codec : parameter target "source_representation_codec" =
    some "source_representation_envelope_json_v1"
  native : target.nativeType.isEmpty = false
  storage : ∃ storage, parameter target "target_storage" = some storage ∧ storage.isEmpty = false

/-- The envelope fits into the carrier. -/
def FitsCarrier (json : EvidenceJson) (plan : ColumnConversionPlan)
    (envelope : SourceRepresentationEnvelope) : Prop :=
  ∀ capacity, parameter plan.target "target_capacity_bytes" = some capacity →
    ∃ bound, parseU64 capacity = some bound ∧ json.encodedLength envelope ≤ bound

/-- The envelope comes from the source, the type and the protocol of the plan. -/
structure SameEvidence (plan : ColumnConversionPlan) (type : RawType)
    (evidence : SourceRepresentationTypeEvidence) (envelope : SourceRepresentationEnvelope) :
    Prop where
  connector : envelope.context.connector = plan.sourceConnector
  build : plan.sourceBuild = some envelope.context.serverBuild
  identity : envelope.context.sourceTypeIdentity = evidence.sourceTypeIdentity
  protocol : envelope.context.protocol = evidence.protocol
  format : envelope.context.format = evidence.format
  encoding : envelope.encoding = type.encoding
  definition : stripSha256 envelope.context.sourceTypeDefinitionDigest =
    stripSha256 type.definitionDigest
  fixed : ∀ entry ∈ evidence.typeMetadata,
    envelope.context.typeMetadata.lookup entry.1 = some entry.2
  keys : ∀ key, key ∈ envelope.context.typeMetadata.map Prod.fst ↔
    key ∈ evidence.typeMetadata.map Prod.fst ∨ key ∈ evidence.allowedContextMetadataKeys
  native : ∀ native, envelope.context.typeMetadata.lookup "native_type" = some native →
    native = type.nativeType

theorem checkCarrierCapacity_iff :
    checkCarrierCapacity json plan envelope = .ok () ↔ FitsCarrier json plan envelope := by
  unfold checkCarrierCapacity FitsCarrier targetParameter
  cases parameter plan.target "target_capacity_bytes" with
  | none => simp
  | some capacity => simp [bind_eq_ok]

theorem representationFormat_injective : Function.Injective representationFormat := by
  intro left right h
  cases left <;> cases right <;> first | rfl | exact absurd h (by decide)

/-- A valid envelope names its type. -/
theorem identity_of_validate (h : envelope.validate validation = .ok ()) :
    isBlank envelope.context.sourceTypeIdentity = false := by
  unfold SourceRepresentationEnvelope.validate at h
  obtain ⟨⟨⟩, hcontext, -⟩ := bind_eq_ok.mp h
  unfold SourceRepresentationContext.validate at hcontext
  cases hmissing : missingEvidence
      [("connector.kind", envelope.context.connector.kind),
       ("connector.version", envelope.context.connector.version),
       ("server_build.product", envelope.context.serverBuild.product),
       ("server_build.distribution", envelope.context.serverBuild.distribution),
       ("server_build.version", envelope.context.serverBuild.version),
       ("server_build.build", envelope.context.serverBuild.build),
       ("source_type_identity", envelope.context.sourceTypeIdentity),
       ("source_type_definition_digest", envelope.context.sourceTypeDefinitionDigest),
       ("protocol", envelope.context.protocol),
       ("source_cursor.format", envelope.context.sourceCursor.format),
       ("source_cursor.value", envelope.context.sourceCursor.value)] with
  | some field =>
    rw [hmissing] at hcontext
    cases hcontext
  | none =>
    rw [missingEvidence, Option.map_eq_none_iff, List.find?_eq_none] at hmissing
    have hnamed := hmissing ("source_type_identity", envelope.context.sourceTypeIdentity) (by simp)
    simp only [Bool.or_eq_true, not_or, Bool.not_eq_true] at hnamed
    exact hnamed.1

variable (h : RecordsEvidence library plan.target type evidence)

include h

theorem RecordsEvidence.entry {name value : String}
    (hmem : (name, value) ∈ rawTypeEntries type ++ representationEvidenceEntries library evidence) :
    targetParameter plan name = some value := h _ hmem

theorem checkSourceIdentity_iff : checkSourceIdentity plan envelope = .ok () ↔
    envelope.context.connector = plan.sourceConnector ∧
      plan.sourceBuild = some envelope.context.serverBuild ∧
        envelope.context.sourceTypeIdentity = evidence.sourceTypeIdentity ∧
          envelope.context.protocol = evidence.protocol ∧
            envelope.context.format = evidence.format := by
  have hidentity : targetParameter plan "source_representation_type_identity" =
      some evidence.sourceTypeIdentity := h.entry (by simp [representationEvidenceEntries])
  have hprotocol : targetParameter plan "source_representation_protocol" =
      some evidence.protocol := h.entry (by simp [representationEvidenceEntries])
  have hformat : targetParameter plan "source_representation_format" =
      some (representationFormat evidence.format) :=
    h.entry (by simp [representationEvidenceEntries])
  unfold checkSourceIdentity
  simp only [hidentity, hprotocol, hformat, bind_eq_ok, ColumnConversionPlan.needs_eq_ok,
    ColumnConversionPlan.check_eq_ok, Option.some.injEq, exists_eq_left', exists_const,
    beq_iff_eq, Bool.and_eq_true, representationFormat_injective.eq_iff]

theorem checkTypeMetadata_iff (hread : ReadsEvidence library json evidence) :
    checkTypeMetadata library json plan envelope = .ok () ↔
      evidence.typeMetadata ≠ [] ∧
        ((∀ entry ∈ evidence.typeMetadata, entry.1 ∉ evidence.allowedContextMetadataKeys) ∧
          ∀ key ∈ evidence.allowedContextMetadataKeys, isBlank key = false) ∧
          (∀ entry ∈ evidence.typeMetadata,
            envelope.context.typeMetadata.lookup entry.1 = some entry.2) ∧
            ∀ key, key ∈ envelope.context.typeMetadata.map Prod.fst ↔
              key ∈ evidence.typeMetadata.map Prod.fst ∨
                key ∈ evidence.allowedContextMetadataKeys := by
  have hmetadata : targetParameter plan "source_representation_type_metadata_json" =
      some (library.toJson (.metadata evidence.typeMetadata)) :=
    h.entry (by simp [representationEvidenceEntries])
  have hmetadataDigest : targetParameter plan "source_representation_type_metadata_digest" =
      some (library.stableDigest (.metadata evidence.typeMetadata)) :=
    h.entry (by simp [representationEvidenceEntries])
  have hkeys : targetParameter plan "source_representation_context_metadata_keys_json" =
      some (library.toJson (.names evidence.allowedContextMetadataKeys)) :=
    h.entry (by simp [representationEvidenceEntries])
  have hkeysDigest : targetParameter plan "source_representation_context_metadata_keys_digest" =
      some (library.stableDigest (.names evidence.allowedContextMetadataKeys)) :=
    h.entry (by simp [representationEvidenceEntries])
  unfold checkTypeMetadata
  simp only [hmetadata, hmetadataDigest, hkeys, hkeysDigest, hread.metadata, hread.names,
    bind_eq_ok, ColumnConversionPlan.needs_eq_ok, ColumnConversionPlan.check_eq_ok,
    Option.some.injEq, exists_eq_left', exists_const, Bool.and_eq_true, Bool.not_eq_true',
    List.isEmpty_eq_false_iff, List.any_eq_false, List.all_eq_true, beq_iff_eq,
    List.contains_iff_mem, sameKeys_iff, List.mem_append, Bool.not_eq_true, ne_eq, and_true,
    true_and]

theorem checkTypeDefinition_iff (hidentity : isBlank envelope.context.sourceTypeIdentity = false) :
    checkTypeDefinition plan envelope = .ok () ↔
      stripSha256 envelope.context.sourceTypeDefinitionDigest =
          stripSha256 type.definitionDigest ∧
        envelope.encoding = type.encoding ∧
          (∀ native, envelope.context.typeMetadata.lookup "native_type" = some native →
            native = type.nativeType) ∧
            type.codecIdentity.isEmpty = false := by
  have hdigest : targetParameter plan "source_type_definition_digest" =
      some (stripSha256 type.definitionDigest) := h.entry (by simp [rawTypeEntries])
  have hnative : targetParameter plan "source_type_native" = some type.nativeType :=
    h.entry (by simp [rawTypeEntries])
  have hencoding : targetParameter plan "source_type_encoding" = some type.encoding :=
    h.entry (by simp [rawTypeEntries])
  have hcodec : targetParameter plan "source_codec_identity" = some type.codecIdentity :=
    h.entry (by simp [rawTypeEntries])
  unfold checkTypeDefinition
  simp only [hdigest, hnative, hencoding, hcodec, hidentity, bind_eq_ok,
    ColumnConversionPlan.needs_eq_ok, ColumnConversionPlan.check_eq_ok, Option.some.injEq,
    exists_eq_left', exists_const, beq_iff_eq, Bool.and_eq_true, Bool.not_eq_true',
    Option.getD_some, Option.any_some, Option.all_eq_true, and_assoc, true_and]

/-- The check of an envelope, for a plan that records the evidence. -/
theorem validateEnvelope_iff (hread : ReadsEvidence library json evidence) :
    validateSourceRepresentationEnvelopeAgainstPlan library validation json plan envelope =
        .ok () ↔
      CarrierTarget plan.target ∧ EvidenceUsable type evidence ∧
        envelope.validate validation = .ok () ∧ FitsCarrier json plan envelope ∧
          SameEvidence plan type evidence envelope := by
  unfold validateSourceRepresentationEnvelopeAgainstPlan
  simp only [bind_eq_ok, ColumnConversionPlan.check_eq_ok, mapError_eq_ok, exists_const,
    Bool.and_eq_true, beq_iff_eq, Bool.not_eq_true', Option.any_eq_true]
  constructor
  · rintro ⟨⟨hkind, hcodec⟩, ⟨hnative, hstorage⟩, _, hvalid, _, hfits, _, hsource, _, hmetadata,
      hdefinition⟩
    obtain ⟨hconnector, hbuild, hidentity, hprotocol, hformat⟩ :=
      (checkSourceIdentity_iff h).mp hsource
    obtain ⟨hnonempty, ⟨hapart, hnamed⟩, hfixed, hkeys⟩ :=
      (checkTypeMetadata_iff h hread).mp hmetadata
    obtain ⟨hdigest, hencoding, hnativeType, hcodecIdentity⟩ :=
      (checkTypeDefinition_iff h (identity_of_validate hvalid)).mp hdefinition
    exact ⟨⟨hkind, hcodec, hnative, hstorage⟩, ⟨hnonempty, hapart, hnamed, hcodecIdentity⟩, hvalid,
      checkCarrierCapacity_iff.mp hfits, hconnector, hbuild, hidentity, hprotocol, hformat,
      hencoding, hdigest, hfixed, hkeys, hnativeType⟩
  · rintro ⟨htarget, husable, hvalid, hfits, hsame⟩
    refine ⟨⟨htarget.kind, htarget.codec⟩, ⟨htarget.native, htarget.storage⟩, (), hvalid, (),
      checkCarrierCapacity_iff.mpr hfits, (), (checkSourceIdentity_iff h).mpr ?_, (),
      (checkTypeMetadata_iff h hread).mpr ?_,
      (checkTypeDefinition_iff h (identity_of_validate hvalid)).mpr ?_⟩
    · exact ⟨hsame.connector, hsame.build, hsame.identity, hsame.protocol, hsame.format⟩
    · exact ⟨husable.metadata, ⟨husable.apart, husable.named⟩, hsame.fixed, hsame.keys⟩
    · exact ⟨hsame.definition, hsame.encoding, hsame.native, husable.codec⟩

end Accepts

/-! ## The plan of the planner -/

section Planned

variable {library : DigestLibrary} {source : FieldDefinition} {mapping : SourceTypeMapping}
  {evidence : SourceRepresentationTypeEvidence} {type : RawType}

def rawType? (field : FieldDefinition) : Option RawType :=
  match field.logicalType with
  | .raw codecIdentity _ sourceDefinitionDigest encoding =>
    some ⟨codecIdentity, field.nativeType, sourceDefinitionDigest, encoding⟩
  | _ => none

theorem rawType?_eq_some (h : rawType? source = some type) : ∃ nativeType,
    source.logicalType = .raw type.codecIdentity nativeType type.definitionDigest type.encoding ∧
      source.nativeType = type.nativeType := by
  unfold rawType? at h
  split at h
  · next hraw =>
    obtain rfl := Option.some.inj h
    exact ⟨_, hraw, rfl⟩
  · cases h

theorem rawEntries_eq (h : rawType? source = some type) :
    rawEntries source = rawTypeEntries type := by
  obtain ⟨nativeType, hraw, hnative⟩ := rawType?_eq_some h
  rw [rawEntries, hraw, hnative]
  rfl

/-- The names under which the evidence of a type is recorded. -/
def recordedNames : List String :=
  ["source_codec_identity", "source_type_native", "source_type_definition_digest",
    "source_type_encoding", "source_representation_type_identity",
    "source_representation_protocol", "source_representation_format",
    "source_representation_type_metadata_json", "source_representation_type_metadata_digest",
    "source_representation_context_metadata_keys_json",
    "source_representation_context_metadata_keys_digest"]

theorem map_recorded : (rawTypeEntries type ++ representationEvidenceEntries library evidence).map
    Prod.fst = recordedNames := rfl

theorem insertAll_append (target : TargetRepresentation) (first second : List (String × String)) :
    insertAll target (first ++ second) = insertAll (insertAll target first) second :=
  List.foldl_append

theorem outcomeEntries_free (kind : Option String) :
    ∀ name ∈ recordedNames, name ∉ (outcomeEntries kind).map Prod.fst := by
  unfold outcomeEntries
  split
  · decide
  · decide
  · decide
  · simp

/-- The evidence of a raw source is bound into the target as it is. -/
theorem recordsEvidence_bind (hraw : rawType? source = some type)
    (hevidence : mapping.sourceRepresentationEvidence = some evidence)
    (target : TargetRepresentation) :
    RecordsEvidence library (bindSourceRepresentationEvidence library target source mapping) type
      evidence := by
  rintro ⟨name, value⟩ hmem
  have hname : name ∈ recordedNames := by
    rw [← map_recorded]
    exact List.mem_map_of_mem hmem
  unfold bindSourceRepresentationEvidence
  dsimp only
  rw [parameter_insertAll_of_notMem (outcomeEntries_free _ name hname), rawEntries_eq hraw,
    hevidence, Option.elim_some, List.append_assoc _ (rawTypeEntries type), insertAll_append]
  apply parameter_insertAll_of_mem _ hmem
  rw [map_recorded]
  decide

/-- A plan for a raw source records the evidence of its type. -/
theorem recordsEvidence_planTarget {x : PlanningInput} {candidate : TargetTypeCandidate}
    {parameters : List (String × String)} (hraw : rawType? x.sourceField = some type)
    (hevidence : x.sourceTypeMapping.sourceRepresentationEvidence = some evidence) :
    RecordsEvidence library (x.planTarget library candidate parameters) type evidence := by
  have hbound := @recordsEvidence_bind library _ _ _ _ hraw hevidence
  unfold PlanningInput.planTarget bindCollations
  dsimp only
  split
  · rintro ⟨name, value⟩ hmem
    have hname : name ∈ recordedNames := by
      rw [← map_recorded]
      exact List.mem_map_of_mem hmem
    have hfree : ∀ name ∈ recordedNames, name ∉ ["source_collation", "target_collation"] := by
      decide
    rw [parameter_insertAll_of_notMem (hfree name hname)]
    exact hbound _ _ hmem
  · exact hbound _

variable {validation : ValidationLibrary} {x : PlannerInput validation} {r : CompatibilityResult}
  {plan : ColumnConversionPlan}

/-- The plan for a raw source accepts exactly the valid envelopes with the evidence that it
records. -/
theorem planned_envelope_accepted_iff (hraw : rawType? x.binding.sourceField = some type)
    (hevidence : x.binding.sourceTypeMapping.sourceRepresentationEvidence = some evidence)
    (hexplain : x.explain library = .ok r) (hplan : r.plan = some plan) {json : EvidenceJson}
    (hread : ReadsEvidence library json evidence) (envelope : SourceRepresentationEnvelope) :
    validateSourceRepresentationEnvelopeAgainstPlan library validation json plan envelope =
        .ok () ↔
      CarrierTarget plan.target ∧ EvidenceUsable type evidence ∧
        envelope.validate validation = .ok () ∧ FitsCarrier json plan envelope ∧
          SameEvidence plan type evidence envelope := by
  have hbits : x.binding.sourceField.logicalType.isBitString = false := by
    unfold rawType? at hraw
    split at hraw
    · next h =>
      rw [h]
      rfl
    · cases hraw
  obtain ⟨candidate, -, parameters, -, -, -, -, -, htarget⟩ :=
    PlannerInput.exists_capability hbits hexplain hplan
  refine validateEnvelope_iff ?_ hread
  rw [htarget]
  exact recordsEvidence_planTarget hraw hevidence

section Sample

def tagType : RawType where
  codecIdentity := "postgresql.source-representation.v1"
  nativeType := "inventory.tag"
  definitionDigest :=
    "sha256:9f86d081884c7d659a2feaa0c55ad015a3bf4f1b2b0b822cd15d6c15b0f00a08"
  encoding := "postgresql.text.UTF8"

def tagEvidence : SourceRepresentationTypeEvidence where
  sourceTypeIdentity := "postgresql.pg_type.v1:16500:inventory.tag"
  protocol := "pgoutput.v1"
  format := .text
  typeMetadata := [("native_type", "inventory.tag"), ("type_name", "tag")]
  allowedContextMetadataKeys := ["relation_oid"]

def tagBuild : ServerBuildIdentity := ⟨"postgresql", "community", "15.6", "150006"⟩

def tagLibrary : DigestLibrary where
  digestOf := sampleDigests.digestOf
  stableDigest
    | .metadata _ => "digest of metadata"
    | .names _ => "digest of names"
    | .logicalType _ => "digest of type"
  toJson
    | .metadata _ => "\x7b\"native_type\":\"inventory.tag\",\"type_name\":\"tag\"\x7d"
    | .names _ => "[\"relation_oid\"]"
    | .logicalType _ => "\"raw\""

def tagJson : EvidenceJson where
  readMetadata text :=
    if text = tagLibrary.toJson (.metadata tagEvidence.typeMetadata) then
      some tagEvidence.typeMetadata
    else none
  readNames text :=
    if text = tagLibrary.toJson (.names tagEvidence.allowedContextMetadataKeys) then
      some tagEvidence.allowedContextMetadataKeys
    else none
  encodedLength envelope := 512 + envelope.payloadBase64url.utf8ByteSize

def tagLogicalType : LogicalType :=
  .raw tagType.codecIdentity tagType.nativeType tagType.definitionDigest tagType.encoding

/-- A sink with a carrier for source representations. -/
def carrierManifest : TargetCapabilityManifest :=
  { sampleManifest with
    connector := ⟨"postgresql", "15"⟩
    capabilities := [⟨"postgresql15.explicit.source_representation.bytea",
      .opaqueType "*" "source_representation",
      ⟨"bytea", [("conversion_kind", "source_representation"),
        ("source_representation_codec", "source_representation_envelope_json_v1"),
        ("target_capacity_bytes", "1073741823"), ("target_storage", "postgresql_bytea")]⟩,
      { sampleRule "source_representation" .explicitConversion with
        supportedPresence := [.sourceRepresentation] }, [], [.sourceRepresentation]⟩] }

def tagInput : FieldCompatibilityInput where
  sourceField := sampleField "source" 1 "label" tagType.nativeType tagLogicalType none false
  targetField := sampleField "target" 1 "label" "bytea" (.binary none) none false
  sourceTypeMapping := ⟨⟨"postgresql", "15"⟩, tagType.nativeType, tagLogicalType,
    "postgresql15.source-type.tag", "1", none, none, none, none, some tagEvidence, []⟩
  sourceConnector := ⟨"postgresql", "15"⟩
  sinkConnector := ⟨"postgresql", "15"⟩
  sourceBuild := some tagBuild
  targetBuild := none
  manifest := carrierManifest
  options := ⟨"route", "1", some (sampleRule "source_representation" .explicitConversion).reference,
    [], [], none⟩
  operations := [.insert]
  presences := [.sourceRepresentation]
  sourceHasPrimaryKey := true

/-- An empty payload of the type at a position of the source. -/
def tagEnvelope (position : String) : SourceRepresentationEnvelope where
  context := ⟨⟨"postgresql", "15"⟩, tagBuild, tagEvidence.sourceTypeIdentity,
    tagType.definitionDigest, "pgoutput.v1", .text,
    [("native_type", "inventory.tag"), ("relation_oid", "16501"), ("type_name", "tag")],
    ⟨"postgresql.lsn.v1", position, position⟩⟩
  encoding := tagType.encoding
  payloadBase64url := ""
  payloadLength := 0
  payloadSha256 := sampleValidation.digestBytes []

theorem tagEvidence_usable : EvidenceUsable tagType tagEvidence :=
  ⟨by decide, by simp [tagEvidence], List.forall_mem_singleton.mpr rfl, by decide⟩

theorem tagEvidence_read : ReadsEvidence tagLibrary tagJson tagEvidence := ⟨rfl, rfl⟩

/-- The envelope comes from the source of every plan for this source. -/
theorem tagEnvelope_same {plan : ColumnConversionPlan} (position : String)
    (hconnector : plan.sourceConnector = ⟨"postgresql", "15"⟩)
    (hbuild : plan.sourceBuild = some tagBuild) :
    SameEvidence plan tagType tagEvidence (tagEnvelope position) where
  connector := hconnector.symm
  build := hbuild
  identity := rfl
  protocol := rfl
  format := rfl
  encoding := rfl
  definition := rfl
  fixed := by
    rintro entry hentry
    simp only [tagEvidence, List.mem_cons, List.not_mem_nil, or_false] at hentry
    rcases hentry with rfl | rfl
    · rfl
    · rfl
  keys key := by
    simp only [tagEnvelope, tagEvidence, List.map_cons, List.map_nil, List.mem_cons,
      List.not_mem_nil, or_false]
    tauto
  native native hnative := (Option.some.inj hnative).symm

theorem tagEnvelope_valid : (tagEnvelope "0/16B3748").validate sampleValidation = .ok () := by
  decide +kernel

theorem tagEnvelope_fits {plan : ColumnConversionPlan} (position : String)
    (h : parameter plan.target "target_capacity_bytes" = some "1073741823") :
    FitsCarrier tagJson plan (tagEnvelope position) := by
  intro capacity hcapacity
  have hread : parseU64 "1073741823" = some 1073741823 := by decide
  rw [h, Option.some.injEq] at hcapacity
  subst hcapacity
  exact ⟨1073741823, hread, by change 512 + 0 ≤ 1073741823; omega⟩

/-- The plan of the sample writes to the carrier and keeps the build of the source. -/
theorem tagInput_planned : ∃ r plan,
    explainFieldCompatibility tagLibrary tagInput = .ok r ∧ r.plan = some plan ∧
      CarrierTarget plan.target ∧
        parameter plan.target "target_capacity_bytes" = some "1073741823" ∧
          plan.sourceConnector = ⟨"postgresql", "15"⟩ ∧ plan.sourceBuild = some tagBuild :=
  ⟨_, _, rfl, rfl, ⟨rfl, rfl, rfl, _, rfl, rfl⟩, rfl, rfl, rfl⟩

theorem tag_envelope_accepted : ∃ r plan,
    explainFieldCompatibility tagLibrary tagInput = .ok r ∧ r.plan = some plan ∧
      validateSourceRepresentationEnvelopeAgainstPlan tagLibrary sampleValidation tagJson plan
        (tagEnvelope "0/16B3748") = .ok () := by
  obtain ⟨r, plan, hexplain, hplan, hcarrier, hcapacity, hconnector, hbuild⟩ := tagInput_planned
  refine ⟨r, plan, hexplain, hplan, ?_⟩
  refine (@planned_envelope_accepted_iff tagLibrary tagEvidence tagType sampleValidation
    (.catalog tagInput) r plan rfl rfl hexplain hplan tagJson tagEvidence_read _).mpr
    ⟨hcarrier, tagEvidence_usable, tagEnvelope_valid, ?_, ?_⟩
  · exact tagEnvelope_fits _ hcapacity
  · exact tagEnvelope_same _ hconnector hbuild

/-- A payload with its digest and all the recorded evidence is refused where its position is
blank. -/
theorem blank_position_refused : ∃ r plan,
    explainFieldCompatibility tagLibrary tagInput = .ok r ∧ r.plan = some plan ∧
      (CarrierTarget plan.target ∧ EvidenceUsable tagType tagEvidence) ∧
        (Base64.decode (tagEnvelope " ").payloadBase64url).map sampleValidation.digestBytes =
            some (tagEnvelope " ").payloadSha256 ∧
          FitsCarrier tagJson plan (tagEnvelope " ") ∧
            SameEvidence plan tagType tagEvidence (tagEnvelope " ") ∧
              validateSourceRepresentationEnvelopeAgainstPlan tagLibrary sampleValidation tagJson
                plan (tagEnvelope " ") ≠ .ok () := by
  obtain ⟨r, plan, hexplain, hplan, hcarrier, hcapacity, hconnector, hbuild⟩ := tagInput_planned
  refine ⟨r, plan, hexplain, hplan, ⟨hcarrier, tagEvidence_usable⟩, rfl,
    tagEnvelope_fits _ hcapacity, tagEnvelope_same _ hconnector hbuild, ?_⟩
  intro haccepted
  have hrefused : (tagEnvelope " ").validate sampleValidation =
      .error (.missingEvidence "source_cursor.value") := rfl
  unfold validateSourceRepresentationEnvelopeAgainstPlan at haccepted
  simp only [hrefused, bind_eq_ok, mapError_eq_ok] at haccepted
  obtain ⟨-, -, -, -, _, hvalid, -⟩ := haccepted
  cases hvalid

end Sample

end Planned

end DatabaseSync.Planner
