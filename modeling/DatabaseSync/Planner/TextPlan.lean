import DatabaseSync.Planner.Entries
import DatabaseSync.Planner.TextBinding

/-! # Plans for text columns

The connectors list three kinds of entries for their text columns: exact ones, conversions of
texts and conversions of JSON documents. A plan for a conversion names the character set, the
length and the length unit of its target column; an exact plan names nothing.
-/

namespace DatabaseSync.Planner

open ChangeEvent Checked TargetRepresentation Text

/-! ## The entries of the connectors -/

/-- `add_exact`, `add_explicit_text` and `add_explicit_json_text`, as far as a text or a JSON
document meets them. -/
inductive TextEntry (capability : CapabilityEntry) : Prop
  | exact : capability.sourceLogicalType.isText = true → capability.rule.qualification = .exact →
      capability.target.parameters = [] → TextEntry capability
  | text : capability.sourceLogicalType = .text "*" none .bytes none →
      capability.target.parameters = [("conversion_kind", "text")] → TextEntry capability
  | json {profile : JsonProfile} : capability.sourceLogicalType = .json profile →
      capability.target.parameters =
        [("conversion_kind", "json"), ("json_strategy", "normalized_text")] → TextEntry capability

/-- The entries for this source type that write this target column are those of the connectors. -/
def PlanningInput.WritesText (x : PlanningInput) : Prop :=
  ∀ capability ∈ x.manifest.capabilities,
    capabilityMatchesSource capability x.sourceField.logicalType = true →
    targetRepresentationMatchesBinding capability x.targetField = true → TextEntry capability

/-! ## The parameters of a conversion -/

section Parameters

variable {x : PlanningInput} {candidate : TargetTypeCandidate} {capability : CapabilityEntry}
  {parameters : List (String × String)}

/-- The parameters of a plan have passed the checks on an explicit conversion. -/
theorem PlanningInput.checkParameters_explicit
    (h : x.checkParameters candidate capability = .ok parameters) :
    validateExplicitParameters capability.target x.sourceField x.targetField parameters =
      .ok () := by
  unfold PlanningInput.checkParameters at h
  simp only [guard_eq_ok, Bool.not_eq_true', Bool.not_eq_false, Except.ok.injEq] at h
  obtain ⟨hinvalid, hmissing, rfl⟩ := h
  unfold PlanningInput.checkedOptions at *
  dsimp only at *
  split
  · next hnone =>
    rw [if_pos hnone] at hinvalid
    split
    · next hok =>
      exact hok
    · next reason herror =>
      rw [herror] at hinvalid
      simp at hinvalid
  · next hsome =>
    rw [if_neg hsome] at hmissing
    exact absurd hmissing hsome

theorem requiredParameter_eq_ok {name value : String} :
    requiredParameter parameters name = .ok value ↔
      parameters.lookup name = some value ∧ value.isEmpty = false := by
  unfold requiredParameter
  cases hlookup : parameters.lookup name with
  | none => simp
  | some found =>
    dsimp only
    split
    · next hempty =>
      constructor
      · rintro ⟨⟩
      · rintro ⟨heq, hvalue⟩
        rw [← Option.some.inj heq, hempty] at hvalue
        cases hvalue
    · next hfilled =>
      constructor
      · intro h
        cases h
        exact ⟨rfl, by simpa using hfilled⟩
      · rintro ⟨heq, -⟩
        rw [Option.some.inj heq]

/-- The parameters describe the text column. -/
structure DescribesColumn (parameters : List (String × String)) (target : TextType) : Prop where
  charset : ∃ charset, parameters.lookup "target_charset" = some charset ∧
    charset.isEmpty = false ∧ textCharsetSupported charset = true ∧
    eqIgnoreAsciiCase charset target.charset = true
  length : parameters.lookup "target_length" = some (formatLength target.maxLength)
  lengthUnit : parameters.lookup "target_length_unit" = some (formatLengthUnit target.lengthUnit)

variable {source destination : FieldDefinition} {s t : TextType}

theorem DescribesColumn.of_matches {charset length unit : String}
    (htarget : destination.logicalType.textType? = some t)
    (hcharset : parameters.lookup "target_charset" = some charset ∧ charset.isEmpty = false)
    (hlength : parameters.lookup "target_length" = some length)
    (hunit : parameters.lookup "target_length_unit" = some unit)
    (hsupported : textCharsetSupported charset = true)
    (hmatch : textParametersMatch charset length unit destination.logicalType = true) :
    DescribesColumn parameters t := by
  cases hdestination : destination.logicalType with
  | text targetCharset targetLength targetUnit collation =>
    rw [hdestination] at htarget hmatch
    cases htarget
    simp only [textParametersMatch, Bool.and_eq_true, beq_iff_eq] at hmatch
    obtain ⟨⟨hname, rfl⟩, rfl⟩ := hmatch
    exact ⟨⟨charset, hcharset.1, hcharset.2, hsupported, hname⟩, hlength, hunit⟩
  | _ =>
    rw [hdestination] at htarget
    cases htarget

theorem validateTextParameters_ok (hsource : source.logicalType.textType? = some s)
    (htarget : destination.logicalType.textType? = some t)
    (h : validateTextParameters source destination parameters = .ok ()) :
    textCharsetSupported s.charset = true ∧ DescribesColumn parameters t := by
  unfold validateTextParameters at h
  split at h
  · next charset maxLength lengthUnit collation hsourceType =>
    rw [hsourceType] at hsource
    cases hsource
    simp only [bind_eq_ok, ensure_eq_ok, requiredParameter_eq_ok] at h
    obtain ⟨-, hcharset, targetCharset, htargetCharset, targetLength, htargetLength, targetUnit,
      htargetUnit, -, -, -, hsupported, -, -, -, -, -, -, -, hmatch, -⟩ := h
    exact ⟨hcharset, .of_matches htarget htargetCharset htargetLength.1 htargetUnit.1 hsupported
      hmatch⟩
  · cases h

theorem validateJsonParameters_ok (htarget : destination.logicalType.textType? = some t)
    (h : validateJsonParameters source destination parameters = .ok ()) :
    DescribesColumn parameters t := by
  unfold validateJsonParameters at h
  split at h
  · simp only [bind_eq_ok, ensure_eq_ok, requiredParameter_eq_ok, Bool.and_eq_true] at h
    obtain ⟨-, -, strategy, -, -, -, -, -, -, -, targetCharset, htargetCharset, targetLength,
      htargetLength, targetUnit, htargetUnit, -, -, -, hsupported, -, -, -, -, hmatch, -⟩ := h
    exact .of_matches htarget htargetCharset htargetLength.1 htargetUnit.1 hsupported hmatch
  · cases h

end Parameters

/-! ## The target of a plan -/

section Target

variable {library : DigestLibrary} {x : PlanningInput} {candidate : TargetTypeCandidate}
  {parameters : List (String × String)} {t : TextType}

/-- The length and the character set that a plan declares for a text column. -/
structure DeclaresColumn (target : TargetRepresentation) (t : TextType) : Prop where
  charset : ∃ charset, parameter target "target_charset" = some charset ∧
    charset.isEmpty = false ∧ textCharsetSupported charset = true ∧
    eqIgnoreAsciiCase charset t.charset = true
  length : parameter target "target_length" = some (formatLength t.maxLength)
  lengthUnit : parameter target "target_length_unit" = some (formatLengthUnit t.lengthUnit)

def kindNames : List String := ["conversion_kind", "range_kind", "value_strategy"]

def columnNames : List String := ["target_charset", "target_length", "target_length_unit"]

/-- The planned entries for a text column have the parameters that describe it. -/
theorem mem_textEntries {targetType : LogicalType} {name value : String}
    (hname : name ∈ columnNames) (hvalue : parameters.lookup name = some value) :
    (name, value) ∈ textEntries targetType parameters := by
  simp only [columnNames, List.mem_cons, List.not_mem_nil, or_false] at hname
  unfold textEntries targetTextDetails
  rcases hname with rfl | rfl | rfl
  all_goals
    rw [hvalue]
    simp

/-- What the plan adds to its parameters under the native types gets into its target. -/
theorem parameter_planTarget_of_mem {name value : String} (hraw : rawEntries x.sourceField = [])
    (hname : name ∈ columnNames)
    (hnodup : ∀ parameters, ((plannedEntries library candidate.target parameters
      x.sourceField.logicalType x.targetField.logicalType).map Prod.fst).Nodup)
    (hmem : ∀ planning : List (String × String), planning.lookup name = parameters.lookup name →
      (name, value) ∈ plannedEntries library candidate.target planning x.sourceField.logicalType
        x.targetField.logicalType) :
    parameter (x.planTarget library candidate parameters) name = some value := by
  have hevidence : ∀ name ∈ columnNames, name ∉ evidenceNames := by decide
  have hcollation : ∀ name ∈ columnNames, name ∉ ["source_collation", "target_collation"] := by
    decide
  have hnative : ∀ name ∈ columnNames,
      name ≠ "target_native_type" ∧ name ≠ "source_native_type" := by decide
  obtain ⟨htarget, hsource⟩ := hnative name hname
  rw [parameter_planTarget_eq hraw (hevidence _ hname) (hcollation _ hname)]
  apply parameter_insertAll_of_mem (hnodup _)
  apply hmem
  rw [lookup_insertEntry, if_neg htarget, lookup_insertEntry, if_neg hsource]

/-- The planned parameters leave the kinds of the entry as they are. -/
theorem parameter_planTarget_of_notMem {name : String}
    (hraw : rawEntries x.sourceField = [])
    (hname : name ∈ kindNames)
    (hplanned : ∀ parameters, name ∉ (plannedEntries library candidate.target parameters
      x.sourceField.logicalType x.targetField.logicalType).map Prod.fst) :
    parameter (x.planTarget library candidate parameters) name =
      parameter candidate.target name := by
  have hevidence : ∀ name ∈ kindNames, name ∉ evidenceNames := by decide
  have hcollation : ∀ name ∈ kindNames, name ∉ ["source_collation", "target_collation"] := by
    decide
  rw [parameter_planTarget_eq hraw (hevidence _ hname) (hcollation _ hname)]
  exact parameter_insertAll_of_notMem (hplanned _)

section Planned

variable {representation : TargetRepresentation} {charset targetCharset : String}
  {maxLength targetMaxLength : Option ℕ} {lengthUnit targetLengthUnit : LengthUnit}
  {collation targetCollation : Option String} {profile : JsonProfile}

theorem plannedEntries_exact (h : conversionKind representation = none) :
    plannedEntries library representation parameters (.text charset maxLength lengthUnit collation)
      (.text targetCharset targetMaxLength targetLengthUnit targetCollation) = [] := by
  simp [plannedEntries, conversionEntries, recursiveTypeKind, h, temporalEntries]

theorem plannedEntries_text (h : conversionKind representation = some "text") :
    plannedEntries library representation parameters (.text charset maxLength lengthUnit collation)
        (.text targetCharset targetMaxLength targetLengthUnit targetCollation) =
      [("source_charset", charset), ("source_length", formatLength maxLength),
        ("source_length_unit", formatLengthUnit lengthUnit),
        ("source_collation", collation.getD "none")] ++
      textEntries (.text targetCharset targetMaxLength targetLengthUnit targetCollation)
        parameters := by
  simp [plannedEntries, conversionEntries, recursiveTypeKind, h]

theorem plannedEntries_json (h : conversionKind representation = some "json") :
    plannedEntries library representation parameters (.json profile)
        (.text targetCharset targetMaxLength targetLengthUnit targetCollation) =
      [("source_charset", "UTF8"), ("source_length", "unbounded"),
        ("source_length_unit", "characters"), ("source_collation", "none")] ++
      textEntries (.text targetCharset targetMaxLength targetLengthUnit targetCollation)
        parameters ++
      [("json_strategy", (parameters.lookup "json_strategy").getD "normalized_text")] := by
  simp [plannedEntries, conversionEntries, recursiveTypeKind, LogicalType.isText, h]

end Planned

/-- Planned entries that hold those of the text column declare it. -/
theorem declaresColumn_planTarget (hraw : rawEntries x.sourceField = [])
    (hdescribes : DescribesColumn parameters t)
    (hnodup : ∀ parameters, ((plannedEntries library candidate.target parameters
      x.sourceField.logicalType x.targetField.logicalType).map Prod.fst).Nodup)
    (htext : ∀ parameters, ∀ entry ∈ textEntries x.targetField.logicalType parameters,
      entry ∈ plannedEntries library candidate.target parameters x.sourceField.logicalType
        x.targetField.logicalType) :
    DeclaresColumn (x.planTarget library candidate parameters) t := by
  have hparameter : ∀ name ∈ columnNames, ∀ value, parameters.lookup name = some value →
      parameter (x.planTarget library candidate parameters) name = some value := by
    intro name hname value hvalue
    apply parameter_planTarget_of_mem hraw hname hnodup
    intro planning hlookup
    exact htext _ _ (mem_textEntries hname (hlookup.trans hvalue))
  obtain ⟨charset, hcharset, hfilled, hsupported, hname⟩ := hdescribes.charset
  constructor
  · exact ⟨charset, hparameter _ (by decide) _ hcharset, hfilled, hsupported, hname⟩
  · exact hparameter _ (by decide) _ hdescribes.length
  · exact hparameter _ (by decide) _ hdescribes.lengthUnit

end Target

/-! ## The plan -/

section Plan

variable {library : DigestLibrary} {validation : ValidationLibrary} {x : PlannerInput validation}
  {r : CompatibilityResult} {plan : ColumnConversionPlan} {s t : TextType}

/-- A plan is built for an entry of the manifest that fits both columns. -/
theorem PlannerInput.exists_capability
    (hbits : x.binding.sourceField.logicalType.isBitString = false)
    (hexplain : x.explain library = .ok r) (hplan : r.plan = some plan) :
    ∃ candidate capability parameters, capability ∈ x.binding.manifest.capabilities ∧
      x.binding.eligible x.operations x.presences capability = true ∧
      candidate.target.parameters = capability.target.parameters ∧
      x.binding.checkParameters candidate capability = .ok parameters ∧
      plan.parameters = parameters ∧
      plan.target = x.binding.planTarget library candidate parameters := by
  obtain ⟨hcheck, candidate, chosen, hchoose, rfl⟩ := PlannerInput.explain_plan hexplain hplan
  obtain ⟨-, hmem, -, -, -, parameters, hparameters, hchosen⟩ :=
    PlannerInput.choosePlan_eq_ok.mp hchoose
  obtain ⟨hnodup, -⟩ :=
    TargetCapabilityManifest.validate_ok (PlannerInput.check_manifest hcheck)
  obtain ⟨hcapability, heligible, hcandidate⟩ := PlanningInput.capabilityOf_spec hnodup hmem
  obtain ⟨confirmation, hsettled⟩ := CompatibilityInput.settle_plan x.binding candidate chosen
  have hplan : plan = { chosen with confirmation := confirmation } :=
    Option.some.inj (hplan.symm.trans hsettled)
  have hfields : chosen.parameters = parameters ∧
      chosen.target = x.binding.planTarget library candidate parameters := by
    rw [hchosen]
    cases x with
    | transaction x =>
      rw [PlannerInput.buildPlan, CompatibilityInput.parameters_buildPlan,
        CompatibilityInput.target_buildPlan]
      exact ⟨rfl, rfl⟩
    | catalog x =>
      have hbitParameters : x.bitParameters parameters = parameters := by
        unfold FieldCompatibilityInput.bitParameters
        rw [if_neg]
        exact Bool.eq_false_iff.mp hbits
      have htarget : (x.buildFieldPlan library candidate
          ((PlannerInput.catalog x : PlannerInput validation).capabilityOf candidate hmem).rule
          parameters).target = x.planTarget library candidate parameters := by
        rw [FieldCompatibilityInput.target_buildFieldPlan, hbitParameters]
      unfold PlannerInput.buildPlan
      dsimp only
      split
      · rw [FieldCompatibilityInput.parameters_addCollationLoss,
          FieldCompatibilityInput.target_addCollationLoss, htarget,
          FieldCompatibilityInput.parameters_buildFieldPlan]
        exact ⟨rfl, rfl⟩
      · rw [htarget, FieldCompatibilityInput.parameters_buildFieldPlan]
        exact ⟨rfl, rfl⟩
  refine ⟨candidate, _, parameters, hcapability, heligible, ?_, hparameters, ?_, ?_⟩
  · exact (congrArg (fun candidate => candidate.target.parameters) hcandidate).symm.trans
      (candidateTarget_parameters _ _)
  · rw [hplan]
    exact hfields.1
  · rw [hplan]
    exact hfields.2

/-- What the plan for a text column is, by its conversion kind. -/
inductive PlannedText (x : PlanningInput) (target : TargetRepresentation) (t : TextType) : Prop
  | exact : x.sourceField.logicalType.isText = true → conversionKind target = none →
      parameter target "range_kind" = none → parameter target "value_strategy" = none →
      textBindingIsExact x.sourceField x.targetField = true → PlannedText x target t
  | text : x.sourceField.logicalType.isText = true → conversionKind target = some "text" →
      parameter target "range_kind" = none →
      (∀ s, x.sourceField.logicalType.textType? = some s →
        textCharsetSupported s.charset = true) →
      DeclaresColumn target t → PlannedText x target t
  | json : x.sourceField.logicalType.isJson = true → conversionKind target = some "json" →
      parameter target "range_kind" = none → DeclaresColumn target t → PlannedText x target t

theorem eligible_exact {x : PlanningInput} {operations : List Operation}
    {presences : List PresenceState} {capability : CapabilityEntry}
    (h : x.eligible operations presences capability = true) :
    exactCandidateMatchesBinding capability x.sourceField x.targetField = true := by
  simp only [PlanningInput.eligible, Bool.and_eq_true] at h
  obtain ⟨⟨⟨⟨⟨-, hexact⟩, -⟩, -⟩, -⟩, -⟩ := h
  exact hexact

theorem exists_of_isText {type : LogicalType} (h : type.isText = true) :
    ∃ charset maxLength lengthUnit collation,
      type = .text charset maxLength lengthUnit collation := by
  cases type with
  | text charset maxLength lengthUnit collation => exact ⟨_, _, _, _, rfl⟩
  | _ => cases h

theorem exists_of_isJson {type : LogicalType} (h : type.isJson = true) :
    ∃ profile, type = .json profile := by
  cases type with
  | json profile => exact ⟨_, rfl⟩
  | _ => cases h

/-- An entry for texts takes texts alone. -/
theorem isText_of_matchesSource {capability : CapabilityEntry} {type : LogicalType}
    (hentry : capability.sourceLogicalType.isText = true)
    (h : capabilityMatchesSource capability type = true) : type.isText = true := by
  obtain ⟨charset, maxLength, lengthUnit, collation, hentry⟩ := exists_of_isText hentry
  rw [capabilityMatchesSource, hentry, Bool.or_eq_true] at h
  rcases h with heq | htemplate
  · rw [← eq_of_beq heq]
    rfl
  · cases type with
    | text => rfl
    | _ => simp [templateMatchesSource] at htemplate

theorem isJson_of_matchesSource {capability : CapabilityEntry} {type : LogicalType}
    {profile : JsonProfile} (hentry : capability.sourceLogicalType = .json profile)
    (h : capabilityMatchesSource capability type = true) : type.isJson = true := by
  rw [capabilityMatchesSource, hentry, Bool.or_eq_true] at h
  rcases h with heq | htemplate
  · rw [← eq_of_beq heq]
    rfl
  · cases htemplate

section Kinds

variable {x : PlanningInput} {candidate : TargetTypeCandidate} {capability : CapabilityEntry}
  {parameters : List (String × String)} {charset : String} {maxLength : Option ℕ}
  {lengthUnit : LengthUnit} {collation : Option String}

/-- Where the planned names are no kinds, the kinds of a plan are those of its entry. -/
theorem parameter_kind (hraw : rawEntries x.sourceField = [])
    (hentry : candidate.target.parameters = capability.target.parameters) {names : List String}
    (hplanned : ∀ parameters, (plannedEntries library candidate.target parameters
      x.sourceField.logicalType x.targetField.logicalType).map Prod.fst = names)
    {name : String} (hname : name ∈ kindNames) (hnames : name ∉ names) :
    parameter (x.planTarget library candidate parameters) name =
      capability.target.parameters.lookup name := by
  rw [parameter_planTarget_of_notMem hraw hname, parameter, hentry]
  intro parameters
  rw [hplanned]
  exact hnames

theorem plannedText_exact (hraw : rawEntries x.sourceField = [])
    (htype : x.targetField.logicalType = .text charset maxLength lengthUnit collation)
    (hentryParameters : candidate.target.parameters = capability.target.parameters)
    (hisText : x.sourceField.logicalType.isText = true)
    (hexact : exactCandidateMatchesBinding capability x.sourceField x.targetField = true)
    (hqualification : capability.rule.qualification = .exact)
    (hnone : capability.target.parameters = []) :
    PlannedText x (x.planTarget library candidate parameters) t := by
  obtain ⟨_, _, _, _, hsourceType⟩ := exists_of_isText hisText
  have hnoKind : conversionKind candidate.target = none := by
    rw [conversionKind, parameter, hentryParameters, hnone]
    rfl
  have hplanned : ∀ parameters, (plannedEntries library candidate.target parameters
      x.sourceField.logicalType x.targetField.logicalType).map Prod.fst = [] := by
    intro parameters
    rw [hsourceType, htype, plannedEntries_exact hnoKind]
    rfl
  have hkept : ∀ name ∈ kindNames,
      parameter (x.planTarget library candidate parameters) name = none := by
    intro name hname
    rw [parameter_kind hraw hentryParameters hplanned hname List.not_mem_nil, hnone]
    rfl
  have hopaque : ¬ (x.targetField.logicalType.isOpaque &&
      !comparedWithOpaque x.sourceField.logicalType) = true := by
    rw [htype]
    exact Bool.false_ne_true
  rw [exactCandidateMatchesBinding, if_neg (not_not_intro hqualification), if_neg hopaque,
    exactTypesMatch, hsourceType] at hexact
  exact .exact hisText (hkept _ (by decide)) (hkept _ (by decide)) (hkept _ (by decide)) hexact

theorem plannedText_text (hraw : rawEntries x.sourceField = [])
    (htype : x.targetField.logicalType = .text charset maxLength lengthUnit collation)
    (htarget : x.targetField.logicalType.textType? = some t)
    (hentryParameters : candidate.target.parameters = capability.target.parameters)
    (hisText : x.sourceField.logicalType.isText = true)
    (hvalidated : validateTextParameters x.sourceField x.targetField parameters = .ok ())
    (hkind : capability.target.parameters = [("conversion_kind", "text")]) :
    PlannedText x (x.planTarget library candidate parameters) t := by
  obtain ⟨sourceCharset, sourceLength, sourceUnit, _, hsourceType⟩ := exists_of_isText hisText
  have htextKind : conversionKind candidate.target = some "text" := by
    rw [conversionKind, parameter, hentryParameters, hkind]
    rfl
  have hplanned : ∀ parameters, (plannedEntries library candidate.target parameters
      x.sourceField.logicalType x.targetField.logicalType).map Prod.fst =
      ["source_charset", "source_length", "source_length_unit", "source_collation",
        "target_charset", "target_length", "target_length_unit", "target_collation"] := by
    intro parameters
    rw [hsourceType, htype, plannedEntries_text htextKind]
    rfl
  have hs : x.sourceField.logicalType.textType? =
      some ⟨sourceCharset, sourceLength, sourceUnit⟩ := by
    rw [hsourceType]
    rfl
  refine .text hisText ?_ ?_ ?_ ?_
  · rw [conversionKind, parameter_kind hraw hentryParameters hplanned (by decide) (by decide),
      hkind]
    rfl
  · rw [parameter_kind hraw hentryParameters hplanned (by decide) (by decide), hkind]
    rfl
  · intro s hs
    exact (validateTextParameters_ok hs htarget hvalidated).1
  · apply declaresColumn_planTarget hraw (validateTextParameters_ok hs htarget hvalidated).2
    · intro parameters
      rw [hplanned]
      decide
    · intro parameters entry hmem
      rw [hsourceType, htype, plannedEntries_text htextKind, ← htype]
      exact List.mem_append_right _ hmem

theorem plannedText_json (hraw : rawEntries x.sourceField = [])
    (htype : x.targetField.logicalType = .text charset maxLength lengthUnit collation)
    (htarget : x.targetField.logicalType.textType? = some t)
    (hentryParameters : candidate.target.parameters = capability.target.parameters)
    (hisJson : x.sourceField.logicalType.isJson = true)
    (hvalidated : validateJsonParameters x.sourceField x.targetField parameters = .ok ())
    (hkind : capability.target.parameters =
      [("conversion_kind", "json"), ("json_strategy", "normalized_text")]) :
    PlannedText x (x.planTarget library candidate parameters) t := by
  obtain ⟨_, hsourceType⟩ := exists_of_isJson hisJson
  have hjsonKind : conversionKind candidate.target = some "json" := by
    rw [conversionKind, parameter, hentryParameters, hkind]
    rfl
  have hplanned : ∀ parameters, (plannedEntries library candidate.target parameters
      x.sourceField.logicalType x.targetField.logicalType).map Prod.fst =
      ["source_charset", "source_length", "source_length_unit", "source_collation",
        "target_charset", "target_length", "target_length_unit", "target_collation",
        "json_strategy"] := by
    intro parameters
    rw [hsourceType, htype, plannedEntries_json hjsonKind]
    rfl
  refine .json hisJson ?_ ?_ ?_
  · rw [conversionKind, parameter_kind hraw hentryParameters hplanned (by decide) (by decide),
      hkind]
    rfl
  · rw [parameter_kind hraw hentryParameters hplanned (by decide) (by decide), hkind]
    rfl
  · apply declaresColumn_planTarget hraw (validateJsonParameters_ok htarget hvalidated)
    · intro parameters
      rw [hplanned]
      decide
    · intro parameters entry hmem
      rw [hsourceType, htype, plannedEntries_json hjsonKind, ← htype]
      exact List.mem_append_left _ (List.mem_append_right _ hmem)

end Kinds

theorem rawEntries_eq_nil {source : FieldDefinition} (h : source.logicalType.isText = true ∨
    source.logicalType.isJson = true) : rawEntries source = [] := by
  rcases h with h | h
  · obtain ⟨_, _, _, _, h⟩ := exists_of_isText h
    rw [rawEntries, h]
  · obtain ⟨_, h⟩ := exists_of_isJson h
    rw [rawEntries, h]

theorem isBitString_eq_false {type : LogicalType} (h : type.isText = true ∨ type.isJson = true) :
    type.isBitString = false := by
  rcases h with h | h
  · obtain ⟨_, _, _, _, rfl⟩ := exists_of_isText h
    rfl
  · obtain ⟨_, rfl⟩ := exists_of_isJson h
    rfl

theorem isText_of_textType {type : LogicalType} (h : type.textType? = some t) :
    type.isText = true := by
  cases type with
  | text => rfl
  | _ => cases h

/-- The plan for a text column is exact, or it converts and declares the column. -/
theorem PlannerInput.plannedText (hwrites : x.binding.WritesText)
    (hsource : x.binding.sourceField.logicalType.isText = true ∨
      x.binding.sourceField.logicalType.isJson = true)
    (htarget : x.binding.targetField.logicalType.textType? = some t)
    (hexplain : x.explain library = .ok r) (hplan : r.plan = some plan) :
    PlannedText x.binding plan.target t := by
  have hraw := rawEntries_eq_nil hsource
  obtain ⟨_, _, _, _, htype⟩ := exists_of_isText (isText_of_textType htarget)
  obtain ⟨candidate, capability, parameters, hcapability, heligible, hentryParameters, hparameters,
    -, htargetPlan⟩ := PlannerInput.exists_capability (isBitString_eq_false hsource) hexplain hplan
  obtain ⟨hmatches, hbinds⟩ := PlanningInput.eligible_matches heligible
  have hvalidated := PlanningInput.checkParameters_explicit hparameters
  rw [htargetPlan]
  cases hwrites capability hcapability hmatches hbinds with
  | exact hentry hqualification hnone =>
    exact plannedText_exact hraw htype hentryParameters (isText_of_matchesSource hentry hmatches)
      (eligible_exact heligible) hqualification hnone
  | text hentry hkind =>
    rw [validateExplicitParameters, conversionKind, parameter, hkind] at hvalidated
    exact plannedText_text hraw htype htarget hentryParameters
      (isText_of_matchesSource (by rw [hentry]; rfl) hmatches) hvalidated hkind
  | json hentry hkind =>
    rw [validateExplicitParameters, conversionKind, parameter, hkind] at hvalidated
    exact plannedText_json hraw htype htarget hentryParameters
      (isJson_of_matchesSource hentry hmatches) hvalidated hkind

end Plan

end DatabaseSync.Planner
