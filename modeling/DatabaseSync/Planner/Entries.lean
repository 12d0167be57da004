import DatabaseSync.Planner.Agreement

/-! # Entries of a representation

The parameters of a plan's target: what an entry of the manifest brings, what the planner inserts
and what it leaves alone.
-/

namespace DatabaseSync.Planner

open ChangeEvent Checked TargetRepresentation

@[simp]
theorem lookup_insertEntry (key value name : String) (entries : List (String × String)) :
    (insertEntry key value entries).lookup name =
      if name = key then some value else entries.lookup name := by
  induction entries with
  | nil =>
    by_cases hname : name = key
    · simp [insertEntry, hname]
    · simp [insertEntry, List.lookup_cons, hname, beq_eq_false_iff_ne.mpr hname]
  | cons entry entries ih =>
    obtain ⟨k, v⟩ := entry
    rw [insertEntry]
    split
    · by_cases hname : name = key
      · simp [hname]
      · simp [List.lookup_cons, hname, beq_eq_false_iff_ne.mpr hname]
    · split
      case isTrue hkey =>
        subst hkey
        by_cases hname : name = key
        · simp [hname]
        · simp [List.lookup_cons, hname, beq_eq_false_iff_ne.mpr hname]
      case isFalse hkey =>
        by_cases hk : name = k
        · have hne : name ≠ key := fun h => hkey (by rw [← h, hk])
          simp [hk, Ne.symm hkey]
        · rw [List.lookup_cons, beq_eq_false_iff_ne.mpr hk]
          dsimp only
          rw [ih, List.lookup_cons, beq_eq_false_iff_ne.mpr hk]

theorem parameter_insert (target : TargetRepresentation) (key value name : String) :
    parameter (TargetRepresentation.insert target key value) name =
      if name = key then some value else parameter target name :=
  lookup_insertEntry key value name target.parameters

/-- Names that are not inserted keep their values. -/
theorem parameter_insertAll_of_notMem {target : TargetRepresentation}
    {entries : List (String × String)} {name : String} (h : name ∉ entries.map Prod.fst) :
    parameter (insertAll target entries) name = parameter target name := by
  unfold insertAll
  induction entries generalizing target with
  | nil => rfl
  | cons entry entries ih =>
    rw [List.map_cons, List.mem_cons, not_or] at h
    rw [List.foldl_cons, ih h.2, parameter_insert, if_neg h.1]

/-- A name that is inserted once has the inserted value. -/
theorem parameter_insertAll_of_mem {target : TargetRepresentation}
    {entries : List (String × String)} {name value : String}
    (hnodup : (entries.map Prod.fst).Nodup) (h : (name, value) ∈ entries) :
    parameter (insertAll target entries) name = some value := by
  unfold insertAll
  induction entries generalizing target with
  | nil => cases h
  | cons entry entries ih =>
    rw [List.map_cons, List.nodup_cons] at hnodup
    rw [List.foldl_cons]
    rcases List.mem_cons.mp h with rfl | hmem
    · exact (parameter_insertAll_of_notMem hnodup.1).trans (by rw [parameter_insert, if_pos rfl])
    · exact ih hnodup.2 hmem

/-- A rule without options takes no parameters. -/
theorem normalizeOptions_parameters {rule : ConversionRule} (h : rule.options = [])
    (parameters : List (String × String)) :
    (normalizeOptions rule parameters).parameters = [] := by
  have hadd : ∀ options : NormalizedOptions, ∀ entry,
      (options.addParameter rule entry).parameters = options.parameters := by
    intro options entry
    simp [NormalizedOptions.addParameter, h]
  have hfold : ∀ (parameters : List (String × String)) (options : NormalizedOptions),
      (parameters.foldl (fun options => options.addParameter rule) options).parameters =
        options.parameters := by
    intro parameters
    induction parameters with
    | nil => exact fun _ => rfl
    | cons entry parameters ih =>
      intro options
      rw [List.foldl_cons, ih, hadd]
  rw [normalizeOptions, h, List.foldl_nil, hfold]

theorem PlanningInput.checkParameters_eq_nil {x : PlanningInput} {candidate : TargetTypeCandidate}
    {capability : CapabilityEntry} {parameters : List (String × String)}
    (h : x.checkParameters candidate capability = .ok parameters)
    (hoptions : capability.rule.options = []) : parameters = [] := by
  have hchecked : (x.checkedOptions capability).parameters = [] := by
    unfold PlanningInput.checkedOptions
    dsimp only
    split
    · split
      · exact normalizeOptions_parameters hoptions _
      · exact normalizeOptions_parameters hoptions _
    · exact normalizeOptions_parameters hoptions _
  unfold PlanningInput.checkParameters at h
  simp only [guard_eq_ok, Except.ok.injEq] at h
  rw [← h.2.2, hchecked]

/-- Binding a candidate changes its native type alone. -/
theorem candidateTarget_parameters (capability : CapabilityEntry) (target : FieldDefinition) :
    (candidateTarget capability target).parameters = capability.target.parameters := by
  unfold candidateTarget
  dsimp only
  split_ifs <;> rfl

/-- An eligible entry fits both columns. -/
theorem PlanningInput.eligible_matches {x : PlanningInput} {operations : List Operation}
    {presences : List PresenceState} {capability : CapabilityEntry}
    (h : x.eligible operations presences capability = true) :
    capabilityMatchesSource capability x.sourceField.logicalType = true ∧
      targetRepresentationMatchesBinding capability x.targetField = true := by
  simp only [PlanningInput.eligible, Bool.and_eq_true] at h
  obtain ⟨⟨⟨⟨⟨⟨⟨⟨⟨⟨⟨-, hmatches, -⟩, -⟩, hbinds⟩, -⟩, -⟩, -⟩, -⟩, -⟩, -⟩, -⟩, -⟩ := h
  exact ⟨hmatches, hbinds⟩

/-- The names that source evidence is bound to, where the source is no raw type. -/
def evidenceNames : List String :=
  ["source_logical_type_digest", "source_logical_type_json", "source_mapping_id",
    "source_mapping_version", "source_mapping_evidence_digest", "source_definition_fingerprint",
    "source_environment_fingerprint", "source_representation_type_identity",
    "source_representation_protocol", "source_representation_format",
    "source_representation_type_metadata_json", "source_representation_type_metadata_digest",
    "source_representation_context_metadata_keys_json",
    "source_representation_context_metadata_keys_digest", "representation_outcome",
    "source_type_identity_policy"]

/-- Source evidence leaves the other parameters as they are. -/
theorem parameter_bindSourceRepresentationEvidence {library : DigestLibrary}
    {target : TargetRepresentation} {source : FieldDefinition} {mapping : SourceTypeMapping}
    {name : String} (hraw : rawEntries source = []) (hname : name ∉ evidenceNames) :
    parameter (bindSourceRepresentationEvidence library target source mapping) name =
      parameter target name := by
  have houtcome : ∀ conversionKind,
      ∀ name ∈ (outcomeEntries conversionKind).map Prod.fst, name ∈ evidenceNames := by
    intro conversionKind
    unfold outcomeEntries
    split <;> simp [evidenceNames]
  unfold bindSourceRepresentationEvidence
  dsimp only
  rw [parameter_insertAll_of_notMem fun hmem => hname (houtcome _ _ hmem),
    hraw]
  apply parameter_insertAll_of_notMem
  intro hmem
  apply hname
  simp only [List.map_append, List.mem_append, List.append_nil] at hmem
  rcases hmem with (((hmem | hmem) | hmem) | hmem) | hmem
  · simp only [List.map_cons, List.map_nil, List.mem_cons, List.not_mem_nil, or_false] at hmem
    rcases hmem with rfl | rfl | rfl | rfl <;> decide
  · cases hdigest : mapping.evidenceDigest with
    | none => simp [hdigest] at hmem
    | some digest =>
      obtain rfl : name = "source_mapping_evidence_digest" := by simpa [hdigest] using hmem
      decide
  · cases hfingerprint : mapping.sourceDefinitionFingerprint with
    | none => simp [hfingerprint] at hmem
    | some fingerprint =>
      obtain rfl : name = "source_definition_fingerprint" := by simpa [hfingerprint] using hmem
      decide
  · cases hfingerprint : mapping.environmentFingerprint with
    | none => simp [hfingerprint] at hmem
    | some fingerprint =>
      obtain rfl : name = "source_environment_fingerprint" := by simpa [hfingerprint] using hmem
      decide
  · cases hevidence : mapping.sourceRepresentationEvidence with
    | none => simp [hevidence] at hmem
    | some evidence =>
      simp only [hevidence, Option.elim_some, representationEvidenceEntries, List.map_cons,
        List.map_nil, List.mem_cons, List.not_mem_nil, or_false] at hmem
      rcases hmem with rfl | rfl | rfl | rfl | rfl | rfl | rfl <;> decide

/-- The target of a plan has the planned parameters, apart from evidence and collations. -/
theorem parameter_planTarget_eq {library : DigestLibrary} {x : PlanningInput}
    {candidate : TargetTypeCandidate} {parameters : List (String × String)} {name : String}
    (hraw : rawEntries x.sourceField = []) (hname : name ∉ evidenceNames)
    (hcollation : name ∉ ["source_collation", "target_collation"]) :
    parameter (x.planTarget library candidate parameters) name =
      parameter (planTargetRepresentation library candidate.target
        (insertEntry "target_native_type" x.targetField.nativeType
          (insertEntry "source_native_type" x.sourceField.nativeType parameters))
        x.sourceField.logicalType x.targetField.logicalType) name := by
  unfold PlanningInput.planTarget bindCollations
  dsimp only
  split
  · rw [parameter_insertAll_of_notMem hcollation,
      parameter_bindSourceRepresentationEvidence hraw hname]
  · exact parameter_bindSourceRepresentationEvidence hraw hname

namespace PlannerInput

variable {library : DigestLibrary} {validation : ValidationLibrary} {x : PlannerInput validation}
  {r : CompatibilityResult} {plan : ColumnConversionPlan}

/-- A planner answers with the plan that it has built for a candidate, confirmed or not. -/
theorem plan_built (hexplain : x.explain library = .ok r) (hplan : r.plan = some plan) :
    ∃ candidate rule parameters confirmation, plan =
      { x.buildPlan library candidate rule parameters with confirmation := confirmation } := by
  obtain ⟨-, candidate, chosen, hchoose, rfl⟩ := explain_plan hexplain hplan
  obtain ⟨-, hmem, -, -, -, parameters, -, rfl⟩ := choosePlan_eq_ok.mp hchoose
  obtain ⟨confirmation, hsettled⟩ := CompatibilityInput.settle_plan x.binding candidate
    (x.buildPlan library candidate (x.capabilityOf candidate hmem).rule parameters)
  exact ⟨candidate, _, parameters, confirmation, Option.some.inj (hplan.symm.trans hsettled)⟩

/-- A plan is built for a candidate that fits both columns. -/
theorem plan_target (hexplain : x.explain library = .ok r) (hplan : r.plan = some plan) :
    ∃ candidate parameters, plan.target = x.binding.planTarget library candidate parameters := by
  obtain ⟨candidate, rule, parameters, confirmation, rfl⟩ := plan_built hexplain hplan
  cases x with
  | transaction x => exact ⟨candidate, parameters, rfl⟩
  | catalog x =>
    refine ⟨candidate, x.bitParameters parameters, ?_⟩
    unfold buildPlan
    dsimp only
    split
    · rfl
    · rfl

/-- A plan names the two fields that it was made for. -/
theorem plan_fields (hexplain : x.explain library = .ok r) (hplan : r.plan = some plan) :
    plan.sourceField = x.binding.sourceField.reference ∧
      plan.targetField = x.binding.targetField.reference := by
  obtain ⟨candidate, rule, parameters, confirmation, rfl⟩ := plan_built hexplain hplan
  cases x with
  | transaction x => exact ⟨rfl, rfl⟩
  | catalog x =>
    unfold buildPlan
    dsimp only
    split
    · exact ⟨rfl, rfl⟩
    · exact ⟨rfl, rfl⟩

end PlannerInput

end DatabaseSync.Planner
