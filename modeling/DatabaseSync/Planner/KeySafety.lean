import DatabaseSync.Planner.Confirmation

/-! # Lossy conversions of keys

An entry for explicit conversions is never used for a key of the source. For a key of the target
alone it is held back only where the entry is a template.
-/

namespace DatabaseSync.Planner

open ChangeEvent Checked TargetRepresentation

variable {validation : ValidationLibrary} {library : DigestLibrary}

/-! ## Entries and candidates -/

namespace PlanningInput

variable {x : PlanningInput} {operations : List Operation} {presences : List PresenceState}
  {mismatch : Bool} {candidate : TargetTypeCandidate} {capability : CapabilityEntry}

theorem parameters_candidateTarget (capability : CapabilityEntry) (target : FieldDefinition) :
    (candidateTarget capability target).parameters = capability.target.parameters := by
  have hkeeps : ∀ (condition : Prop) [Decidable condition] (representation : TargetRepresentation),
      (if condition then withNativeType representation target.nativeType
        else representation).parameters = representation.parameters := by
    intro condition _ representation
    split
    · rfl
    · rfl
  simp only [candidateTarget, hkeeps]

/-- A candidate is a carrier if its entry is one. -/
theorem explicitCarrierCandidate_candidate (h : isExplicitTemplate capability = false) :
    explicitCarrierCandidate (x.candidate mismatch capability) = false := by
  have hkind : conversionKind (x.candidate mismatch capability).target = none := by
    rw [isExplicitTemplate, Option.isSome_eq_false_iff, Option.isNone_iff_eq_none] at h
    rw [← h, conversionKind, conversionKind, parameter, parameter]
    exact congrArg (List.lookup _) (parameters_candidateTarget capability x.targetField)
  simp [explicitCarrierCandidate, hkind]

theorem eligible_allowsKey (h : x.eligible operations presences capability = true)
    (hkey : x.sourceField.isKeyLike = true) : capability.rule.allowsKey = true := by
  simp only [eligible, Bool.and_eq_true, Bool.not_eq_true', hkey, Bool.true_and,
    Bool.not_eq_false'] at h
  exact h.1.1.1.1.1.2

/-- A template is for fields that are not keys on either side. -/
theorem eligible_not_template (h : x.eligible operations presences capability = true)
    (hkey : x.targetField.isKeyLike = true) : isExplicitTemplate capability = false := by
  simp only [eligible, Bool.and_eq_true] at h
  have hbinding := h.1.1.1.2
  unfold explicitTemplateMatchesBinding at hbinding
  by_contra htemplate
  rw [Bool.not_eq_false] at htemplate
  simp [htemplate, hkey] at hbinding

theorem candidates_eq_singleton :
    x.candidates operations presences mismatch = [candidate] ↔
      ∃ capability, x.manifest.capabilities.filter (x.eligible operations presences) =
        [capability] ∧ x.candidate mismatch capability = candidate := by
  unfold candidates
  constructor
  · intro h
    have hperm := (List.perm_insertionSort (fun a b => TargetTypeCandidate.before a b = true)
      ((x.manifest.capabilities.filter (x.eligible operations presences)).map
        (x.candidate mismatch))).symm
    rw [h] at hperm
    exact List.map_eq_singleton_iff.mp (List.perm_singleton.mp hperm)
  · rintro ⟨capability, hcapability, rfl⟩
    rw [hcapability]
    rfl

theorem selectCandidate_of_singleton {candidates : List TargetTypeCandidate}
    (hcandidates : candidates = [candidate]) (h : explicitCarrierCandidate candidate = false)
    (result : CompatibilityResult)
    (ambiguous : TargetTypeCandidate → String → String → CompatibilityResult) :
    ∃ hmem, x.selectCandidate candidates result ambiguous = .ok ⟨candidate, hmem⟩ := by
  subst hcandidates
  exact ⟨_, selectCandidate_singleton h⟩

/-- Without a conversion kind the parameters are those of the rule's options. -/
theorem checkParameters_of_not_template (candidate : TargetTypeCandidate)
    (h : isExplicitTemplate capability = false) :
    (∃ parameters, x.checkParameters candidate capability = .ok parameters) ↔
      (normalizeOptions capability.rule x.options.parameters).invalid = [] ∧
        (normalizeOptions capability.rule x.options.parameters).missing = [] := by
  have hkind : conversionKind capability.target = none := by
    rwa [isExplicitTemplate, Option.isSome_eq_false_iff, Option.isNone_iff_eq_none] at h
  have hoptions : x.checkedOptions capability =
      normalizeOptions capability.rule x.options.parameters := by
    simp only [checkedOptions, validateExplicitParameters_of_not_template _ _ _ _ hkind]
    split
    · rfl
    · rfl
  simp only [checkParameters, hoptions]
  constructor
  · rintro ⟨parameters, hparameters⟩
    rw [guard_eq_ok, guard_eq_ok] at hparameters
    obtain ⟨hinvalid, hmissing, -⟩ := hparameters
    exact ⟨by simpa using hinvalid, by simpa using hmissing⟩
  · rintro ⟨hinvalid, hmissing⟩
    simp [hinvalid, hmissing]

end PlanningInput

/-! ## Keys -/

namespace PlannerInput

variable {x : PlannerInput validation} {r : CompatibilityResult} {candidate : TargetTypeCandidate}
  {plan p : ColumnConversionPlan}

variable (library) in
/-- No plan that can be used converts a key explicitly. -/
def KeysAreExact (x : PlannerInput validation) : Prop :=
  ∀ r p, x.explain library = .ok r → r.plan = some p →
    r.status = .compatible ∨ r.status = .needsConfirmation →
    p.qualification = .explicitConversion →
    x.binding.sourceField.isKeyLike = false ∧ x.binding.targetField.isKeyLike = false

/-- The entries that pass the filters. -/
def eligibleEntries (x : PlannerInput validation) : List CapabilityEntry :=
  x.binding.manifest.capabilities.filter (x.binding.eligible x.operations x.presences)

variable (library) in
/-- A valid input whose target alone is a key, and whose only entry is an explicit conversion with
all of its options. -/
structure LossyTargetKey (x : PlannerInput validation) : Prop where
  valid : x.check library = .ok ()
  keys : x.keyChecks = true
  target : x.binding.targetField.isKeyLike = true
  entry : ∃ capability, x.eligibleEntries = [capability] ∧
    capability.rule.qualification = .explicitConversion ∧
    (normalizeOptions capability.rule x.binding.options.parameters).invalid = [] ∧
    (normalizeOptions capability.rule x.binding.options.parameters).missing = []

theorem qualification_buildPlan {rule : ConversionRule} {parameters : List (String × String)} :
    (x.buildPlan library candidate rule parameters).qualification = candidate.qualification := by
  cases x with
  | transaction x => rfl
  | catalog x =>
    rw [buildPlan]
    split
    · rfl
    · rfl

theorem qualification_settle {b : PlanningInput} (h : (b.settle candidate plan).plan = some p) :
    p.qualification = plan.qualification := by
  cases h
  split
  · rfl
  · rfl

theorem status_settle {b : PlanningInput} :
    (b.settle candidate plan).status = .compatible ∨
      (b.settle candidate plan).status = .needsConfirmation := by
  unfold PlanningInput.settle
  dsimp only
  split
  · exact .inr rfl
  · exact .inl rfl

/-- The entry of the selected candidate is in the manifest and passes the filters. -/
theorem capabilityOf_spec (hvalid : x.check library = .ok ()) (h : candidate ∈ x.candidates) :
    x.capabilityOf candidate h ∈ x.eligibleEntries ∧
      x.binding.candidate x.collationMismatch (x.capabilityOf candidate h) = candidate ∧
      (x.capabilityOf candidate h).rule.KeySafe := by
  obtain ⟨hnodup, hsafe⟩ := TargetCapabilityManifest.validate_ok (check_manifest hvalid)
  obtain ⟨hcapability, heligible, hcandidate⟩ := PlanningInput.capabilityOf_spec hnodup h
  exact ⟨List.mem_filter.mpr ⟨hcapability, heligible⟩, hcandidate, hsafe _ hcapability⟩

/-- An explicit conversion is planned for a key only in the way described. -/
theorem lossyTargetKey_of_plan (h : x.explain library = .ok r) (hplan : r.plan = some p)
    (hexplicit : p.qualification = .explicitConversion)
    (hkey : ¬ (x.binding.sourceField.isKeyLike = false ∧
      x.binding.targetField.isKeyLike = false)) : x.LossyTargetKey library := by
  obtain ⟨hvalid, candidate, plan, hchoose, rfl⟩ := explain_plan h hplan
  obtain ⟨hkeys, hmem, result, ambiguous, hselect, parameters, hparameters, rfl⟩ :=
    choosePlan_eq_ok.mp hchoose
  obtain ⟨heligible, hcandidate, hsafe⟩ := capabilityOf_spec hvalid hmem
  have hqualification : candidate.qualification = .explicitConversion := by
    rw [← hexplicit, qualification_settle hplan, qualification_buildPlan]
  have hrule : (x.capabilityOf candidate hmem).rule.qualification = .explicitConversion :=
    (congrArg TargetTypeCandidate.qualification hcandidate).trans hqualification
  have hpasses := (List.mem_filter.mp heligible).2
  have hsource : x.binding.sourceField.isKeyLike = false := by
    by_contra hsource
    rw [Bool.not_eq_false] at hsource
    have hallows := PlanningInput.eligible_allowsKey hpasses hsource
    rw [hsafe hrule] at hallows
    cases hallows
  have htarget : x.binding.targetField.isKeyLike = true := by
    by_contra htarget
    exact hkey ⟨hsource, Bool.eq_false_iff.mpr htarget⟩
  have hsingle := PlanningInput.selectCandidate_explicit hselect (by simp [hqualification])
  obtain ⟨capability, hentries, -⟩ := PlanningInput.candidates_eq_singleton.mp hsingle
  have hentry : x.capabilityOf candidate hmem = capability := by
    rw [eligibleEntries, hentries] at heligible
    exact List.mem_singleton.mp heligible
  rw [hentry] at hrule hpasses hparameters
  obtain ⟨hinvalid, hmissing⟩ := (PlanningInput.checkParameters_of_not_template candidate
    (PlanningInput.eligible_not_template hpasses htarget)).mp ⟨parameters, hparameters⟩
  exact ⟨hvalid, hkeys, htarget, capability, hentries, hrule, hinvalid, hmissing⟩

/-- There the explicit conversion is planned. -/
theorem LossyTargetKey.planned (h : x.LossyTargetKey library) :
    ∃ r p, x.explain library = .ok r ∧ r.plan = some p ∧
      (r.status = .compatible ∨ r.status = .needsConfirmation) ∧
      p.qualification = .explicitConversion := by
  obtain ⟨capability, hentries, hrule, hinvalid, hmissing⟩ := h.entry
  have hmem : capability ∈ x.eligibleEntries := by simp [hentries]
  have htemplate := PlanningInput.eligible_not_template (List.mem_filter.mp hmem).2 h.target
  obtain ⟨candidate, hcandidates, hcarrier, hqualification⟩ : ∃ candidate,
      x.candidates = [candidate] ∧ explicitCarrierCandidate candidate = false ∧
      candidate.qualification = .explicitConversion :=
    ⟨_, PlanningInput.candidates_eq_singleton.mpr ⟨capability, hentries, rfl⟩,
      PlanningInput.explicitCarrierCandidate_candidate htemplate, hrule⟩
  obtain ⟨hcandidate, hselect⟩ := PlanningInput.selectCandidate_of_singleton (x := x.binding)
    hcandidates hcarrier (x.binding.noCandidate false) fun _ _ _ => x.binding.noCandidate false
  have hentry : x.capabilityOf candidate hcandidate = capability := by
    have heligible := (capabilityOf_spec h.valid hcandidate).1
    rw [hentries] at heligible
    exact List.mem_singleton.mp heligible
  obtain ⟨parameters, hparameters⟩ :=
    (PlanningInput.checkParameters_of_not_template candidate htemplate).mpr ⟨hinvalid, hmissing⟩
  rw [← hentry] at hparameters
  have hchoose : x.choosePlan library = .ok (candidate, _) := choosePlan_eq_ok.mpr
    ⟨h.keys, hcandidate, _, _, hselect, parameters, hparameters, rfl⟩
  refine ⟨_, _, explain_settle h.valid hchoose, rfl, status_settle, ?_⟩
  rw [qualification_settle rfl, qualification_buildPlan]
  exact hqualification

/-- Keys are converted exactly unless the target alone is a key and the only eligible entry is an
explicit conversion without a template. -/
theorem keysAreExact_iff (library : DigestLibrary) (x : PlannerInput validation) :
    x.KeysAreExact library ↔ ¬ x.LossyTargetKey library := by
  constructor
  · intro hexact hlossy
    obtain ⟨r, p, h, hplan, hstatus, hexplicit⟩ := hlossy.planned
    obtain ⟨-, htarget⟩ := hexact r p h hplan hstatus hexplicit
    rw [hlossy.target] at htarget
    cases htarget
  · intro hlossy r p h hplan _ hexplicit
    by_contra hkey
    exact hlossy (lossyTargetKey_of_plan h hplan hexplicit hkey)

/-- A UUID is converted to text for a unique column of the target. -/
theorem not_keysAreExact_token :
    ¬ (catalog ⟨tokenBinding true, [.insert], [.value], true⟩ :
      PlannerInput sampleValidation).KeysAreExact sampleDigests := by
  intro hexact
  obtain ⟨-, htarget⟩ := hexact _ _ rfl rfl (.inr rfl) rfl
  cases htarget

end PlannerInput

end DatabaseSync.Planner
