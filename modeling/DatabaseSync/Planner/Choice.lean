import DatabaseSync.Planner.Explain

/-! # What a plan was chosen from

Each planner succeeds with the plan of one eligible capability. The two inputs of the planners are
one type here, so that what holds of both is said once.
-/

namespace DatabaseSync.Planner

open ChangeEvent Checked TargetRepresentation

/-! ## Manifests that pass their check -/

/-- An explicit conversion is not for keys. -/
def ConversionRule.KeySafe (rule : ConversionRule) : Prop :=
  rule.qualification = .explicitConversion → rule.allowsKey = false

theorem validateRule_ok {rule : ConversionRule} (h : validateRule rule = .ok ()) :
    rule.KeySafe := by
  intro hexplicit
  unfold validateRule at h
  rw [if_neg (by simp [hexplicit]), bind_eq_ok] at h
  obtain ⟨_, h, -⟩ := h
  simpa [hexplicit] using h

theorem validateCapabilities_ok {codes : List String} {capabilities : List CapabilityEntry}
    (h : validateCapabilities codes capabilities = .ok ()) :
    (capabilities.map (·.code)).Nodup ∧ (∀ capability ∈ capabilities, capability.code ∉ codes) ∧
      ∀ capability ∈ capabilities, capability.rule.KeySafe := by
  induction capabilities generalizing codes with
  | nil => simp
  | cons capability capabilities ih =>
    simp only [validateCapabilities, bind_eq_ok, require_eq_ok, Bool.and_eq_true,
      Bool.not_eq_true', List.contains_eq_mem, decide_eq_false_iff_not] at h
    obtain ⟨_, ⟨-, hfresh⟩, _, hrule, hrest⟩ := h
    obtain ⟨hnodup, hcodes, hkeySafe⟩ := ih hrest
    refine ⟨?_, ?_, ?_⟩
    · rw [List.map_cons, List.nodup_cons]
      refine ⟨?_, hnodup⟩
      intro hmem
      obtain ⟨other, hother, hcode⟩ := List.mem_map.mp hmem
      exact hcodes other hother (by simp [hcode])
    · intro other hother
      rcases List.mem_cons.mp hother with rfl | hother
      · exact hfresh
      · exact fun hmem => hcodes other hother (List.mem_cons_of_mem _ hmem)
    · intro other hother
      rcases List.mem_cons.mp hother with rfl | hother
      · exact validateRule_ok hrule
      · exact hkeySafe other hother

variable {library : DigestLibrary}

theorem TargetCapabilityManifest.validate_ok {manifest : TargetCapabilityManifest}
    (h : manifest.validate library = .ok ()) :
    (manifest.capabilities.map (·.code)).Nodup ∧
      ∀ capability ∈ manifest.capabilities, capability.rule.KeySafe := by
  simp only [validate, bind_eq_ok] at h
  obtain ⟨-, -, h⟩ := h
  obtain ⟨hnodup, -, hsafe⟩ := validateCapabilities_ok h
  exact ⟨hnodup, hsafe⟩

/-- A result that no plan can be taken from. -/
structure CompatibilityResult.IsRefusal (r : CompatibilityResult) : Prop where
  plan : r.plan = none
  compatible : r.status ≠ .compatible
  needsConfirmation : r.status ≠ .needsConfirmation

namespace PlanningInput

variable {x : PlanningInput} {operations : List Operation} {presences : List PresenceState}
  {mismatch : Bool} {candidate : TargetTypeCandidate} {capability : CapabilityEntry}

/-! ## The selected candidate -/

/-- Codes tell the entries of a valid manifest apart. -/
theorem find?_code (hnodup : (x.manifest.capabilities.map (·.code)).Nodup)
    (hcapability : capability ∈ x.manifest.capabilities) :
    x.manifest.capabilities.find? (·.code == capability.code) = some capability := by
  generalize x.manifest.capabilities = capabilities at hnodup hcapability
  induction capabilities with
  | nil => cases hcapability
  | cons other capabilities ih =>
    rw [List.map_cons, List.nodup_cons] at hnodup
    by_cases hcode : other.code = capability.code
    · rcases List.mem_cons.mp hcapability with rfl | hmem
      · simp
      · exact absurd (List.mem_map.mpr ⟨capability, hmem, hcode.symm⟩) hnodup.1
    · rcases List.mem_cons.mp hcapability with rfl | hmem
      · exact absurd rfl hcode
      · rw [List.find?_cons_of_neg (by simpa using hcode)]
        exact ih hnodup.2 hmem

theorem find?_capabilityOf (h : candidate ∈ x.candidates operations presences mismatch) :
    x.manifest.capabilities.find? (·.code == candidate.capabilityCode) =
      some (x.capabilityOf candidate h) := by
  simp [capabilityOf]

/-- The capability of a candidate is the one it was made from. -/
theorem capabilityOf_spec (hnodup : (x.manifest.capabilities.map (·.code)).Nodup)
    (h : candidate ∈ x.candidates operations presences mismatch) :
    x.capabilityOf candidate h ∈ x.manifest.capabilities ∧
      x.eligible operations presences (x.capabilityOf candidate h) = true ∧
      x.candidate mismatch (x.capabilityOf candidate h) = candidate := by
  obtain ⟨capability, hcapability, heligible, rfl⟩ := x.mem_candidates.mp h
  have hfind := find?_capabilityOf h
  rw [show (x.candidate mismatch capability).capabilityCode = capability.code from rfl,
    find?_code hnodup hcapability, Option.some.injEq] at hfind
  rw [← hfind]
  exact ⟨hcapability, heligible, rfl⟩

theorem selectCandidate_eq_ok {candidates : List TargetTypeCandidate}
    {none none' : CompatibilityResult}
    {ambiguous ambiguous' : TargetTypeCandidate → String → String → CompatibilityResult}
    {chosen : { candidate // candidate ∈ candidates }}
    (h : x.selectCandidate candidates none ambiguous = .ok chosen) :
    x.selectCandidate candidates none' ambiguous' = .ok chosen := by
  unfold selectCandidate at h ⊢
  cases candidates with
  | nil => cases h
  | cons first rest =>
    dsimp only at h ⊢
    split
    · next hcondition =>
      rw [if_pos hcondition] at h
      split at h
      · cases h
      · cases h
    · next hcondition =>
      rwa [if_neg hcondition] at h

/-- The preferred candidate is exact. -/
theorem preferredExactNativeCandidate_exact {candidates : List TargetTypeCandidate} {index : ℕ}
    (h : preferredExactNativeCandidate candidates = some index) :
    ∃ candidate, candidates[index]? = some candidate ∧ candidate.qualification = .exact := by
  simp only [preferredExactNativeCandidate, Option.bind_eq_bind, Option.bind_eq_some_iff] at h
  obtain ⟨found, hfound, h⟩ := h
  split at h
  · cases h
    obtain ⟨hlt, hexact, -⟩ := List.findIdx?_eq_some_iff_getElem.mp hfound
    rw [Bool.and_eq_true, beq_iff_eq] at hexact
    exact ⟨candidates[index], List.getElem?_eq_getElem hlt, hexact.1⟩
  · cases h

/-- A candidate that is not exact is chosen when it is the only one. -/
theorem selectCandidate_explicit {candidates : List TargetTypeCandidate}
    {none : CompatibilityResult}
    {ambiguous : TargetTypeCandidate → String → String → CompatibilityResult}
    {chosen : { candidate // candidate ∈ candidates }}
    (h : x.selectCandidate candidates none ambiguous = .ok chosen)
    (hexact : chosen.1.qualification ≠ .exact) : candidates = [chosen.1] := by
  unfold selectCandidate at h
  cases candidates with
  | nil => cases h
  | cons first rest =>
    dsimp only at h
    split at h
    · split at h
      · cases h
      · cases h
    · next hcondition =>
      rw [Bool.or_eq_true, not_or] at hcondition
      cases hpreferred : preferredExactNativeCandidate (first :: rest) with
      | none =>
        have hrest : rest = [] := by simpa [hpreferred] using hcondition.1
        subst hrest
        exact congrArg (fun candidate => [candidate]) (List.mem_singleton.mp chosen.2).symm
      | some index =>
        obtain ⟨candidate, hindex, hqualification⟩ := preferredExactNativeCandidate_exact hpreferred
        split at h
        · next found hfound =>
          rw [hpreferred, Option.getD_some, hindex, Option.some.injEq] at hfound
          cases h
          exact absurd (hfound ▸ hqualification) hexact
        · next hfound =>
          rw [hpreferred, Option.getD_some, hindex] at hfound
          cases hfound

/-- The only candidate is chosen unless it is a carrier that has not been selected. -/
theorem selectCandidate_singleton {none : CompatibilityResult}
    {ambiguous : TargetTypeCandidate → String → String → CompatibilityResult}
    (h : explicitCarrierCandidate candidate = false) :
    x.selectCandidate [candidate] none ambiguous = .ok ⟨candidate, List.mem_singleton_self _⟩ := by
  unfold selectCandidate
  dsimp only
  rw [if_neg (by simp [h])]
  split
  · next found hfound =>
    have hmem := List.mem_of_getElem? hfound
    rw [List.mem_singleton] at hmem
    subst hmem
    rfl
  · rfl

/-! ## Refusals -/

theorem refuseWhen_refuses {condition : Bool} {result : CompatibilityResult}
    (h : result.IsRefusal) : FailsWith (·.IsRefusal) (refuseWhen condition result) := by
  unfold refuseWhen
  exact .ite (failsWith_error.mpr h) failsWith_ok

theorem blocked_isRefusal (code message : String) : (x.blocked code message).IsRefusal :=
  ⟨rfl, by simp [blocked, fieldResult, refusal], by simp [blocked, fieldResult, refusal]⟩

theorem noCandidate_isRefusal (keyBlocked : Bool) : (x.noCandidate keyBlocked).IsRefusal := by
  have hreason : (unsupportedReason x.sourceField.logicalType).1 = .unsupported ∨
      (unsupportedReason x.sourceField.logicalType).1 = .blocked := by
    unfold unsupportedReason
    split <;> simp
  refine ⟨rfl, ?_, ?_⟩
  all_goals
    simp only [noCandidate, fieldResult, refusal]
    split
    · simp
    · split
      · simp
      · rcases hreason with h | h
        · simp [h]
        · simp [h]

theorem selectCandidate_refuses {candidates : List TargetTypeCandidate}
    {result : CompatibilityResult}
    {ambiguous : TargetTypeCandidate → String → String → CompatibilityResult}
    (h : result.IsRefusal)
    (hambiguous : ∀ first code message, (ambiguous first code message).IsRefusal) :
    FailsWith (·.IsRefusal) (x.selectCandidate candidates result ambiguous) := by
  unfold selectCandidate
  cases candidates with
  | nil => exact failsWith_error.mpr h
  | cons first rest =>
    refine .ite (.ite ?_ ?_) ?_
    · exact failsWith_error.mpr (hambiguous _ _ _)
    · exact failsWith_error.mpr (hambiguous _ _ _)
    · split
      · exact failsWith_ok
      · exact failsWith_ok

theorem refusal_isRefusal {qualification : QualificationLevel} {risk : RiskLevel}
    {code message : String} {requiresConfirmation : Bool} {rule : Option RuleReference}
    {candidates : List TargetTypeCandidate} {failureClass : FailureClass} {phase : FailurePhase} :
    (x.refusal .needsConfiguration qualification risk code message requiresConfirmation rule
      candidates failureClass phase).IsRefusal :=
  ⟨rfl, by simp [refusal], by simp [refusal]⟩

theorem checkParameters_refuses :
    FailsWith (·.IsRefusal) (x.checkParameters candidate capability) := by
  unfold checkParameters
  refine .ite ?_ (.ite ?_ failsWith_ok)
  · exact failsWith_error.mpr
      ⟨rfl, by simp [fieldResult, refusal], by simp [fieldResult, refusal]⟩
  · exact failsWith_error.mpr refusal_isRefusal

end PlanningInput

/-! ## The outcome of a planner -/

namespace CompatibilityInput

variable {validation : ValidationLibrary} {x : CompatibilityInput validation}
  {candidate : TargetTypeCandidate} {plan : ColumnConversionPlan}

theorem choosePlan_eq_ok :
    x.choosePlan library = .ok (candidate, plan) ↔
      (x.manifest.requiresPrimaryKey && !x.transactionHasKey) = false ∧
      ∃ h, x.selectCandidate (x.candidates x.operations x.presences false)
          (x.noCandidate ((x.manifest.requiresPrimaryKey && !x.transactionHasKey) ||
            x.lossyKeyCapability))
          (fun first code message => x.refusal .needsConfiguration first.qualification first.risk
            code message false none (x.candidates x.operations x.presences false) .invalidInput
            .planConstruction) = .ok ⟨candidate, h⟩ ∧
        ∃ parameters, x.checkParameters candidate (x.capabilityOf candidate h) = .ok parameters ∧
          plan = x.buildPlan library candidate (x.capabilityOf candidate h).rule parameters := by
  unfold choosePlan
  simp only [pure_eq, bind_eq_ok, refuseWhen_eq_ok, Except.ok.injEq, Prod.mk.injEq]
  constructor
  · rintro ⟨-, hkey, ⟨_, h⟩, hselect, parameters, hparameters, rfl, rfl⟩
    exact ⟨hkey, h, hselect, parameters, hparameters, rfl⟩
  · rintro ⟨hkey, h, hselect, parameters, hparameters, rfl⟩
    exact ⟨(), hkey, ⟨_, h⟩, hselect, parameters, hparameters, rfl, rfl⟩

theorem choosePlan_refuses : FailsWith (·.IsRefusal) (x.choosePlan library) := by
  refine .bind (PlanningInput.refuseWhen_refuses (PlanningInput.blocked_isRefusal _ _)) fun _ => ?_
  refine .bind (PlanningInput.selectCandidate_refuses (PlanningInput.noCandidate_isRefusal _)
    fun _ _ _ => PlanningInput.refusal_isRefusal) fun ⟨_, _⟩ => ?_
  exact .bind PlanningInput.checkParameters_refuses fun _ => failsWith_ok

end CompatibilityInput

namespace FieldCompatibilityInput

variable {x : FieldCompatibilityInput} {candidate : TargetTypeCandidate}
  {plan : ColumnConversionPlan}

theorem choosePlan_eq_ok :
    x.choosePlan library = .ok (candidate, plan) ↔
      (x.manifest.requiresPrimaryKey && !x.sourceHasPrimaryKey) = false ∧
      x.sourceField.primaryKeyOrdinal = x.targetField.primaryKeyOrdinal ∧
      (x.fieldCollationMismatch && x.sourceField.isKeyLike) = false ∧
      ∃ h, x.selectCandidate (x.candidates x.operations x.presences x.fieldCollationMismatch)
          (x.noCandidate x.lossyKeyCapability)
          (fun first code message => x.fieldResult .needsConfiguration first.qualification
            first.risk code message
            (x.candidates x.operations x.presences x.fieldCollationMismatch) .invalidInput
            .planConstruction) = .ok ⟨candidate, h⟩ ∧
        ∃ parameters, x.checkParameters candidate (x.capabilityOf candidate h) = .ok parameters ∧
          plan = if x.fieldCollationMismatch then
              addCollationLoss library
                (x.buildFieldPlan library candidate (x.capabilityOf candidate h).rule parameters)
            else x.buildFieldPlan library candidate (x.capabilityOf candidate h).rule
              parameters := by
  unfold choosePlan
  simp only [pure_eq, bind_eq_ok, refuseWhen_eq_ok, Except.ok.injEq, Prod.mk.injEq]
  constructor
  · rintro ⟨-, hkey, -, hordinal, -, hcollation, ⟨_, h⟩, hselect, parameters, hparameters, rfl, rfl⟩
    exact ⟨hkey, by simpa using hordinal, hcollation, h, hselect, parameters, hparameters, rfl⟩
  · rintro ⟨hkey, hordinal, hcollation, h, hselect, parameters, hparameters, rfl⟩
    exact ⟨(), hkey, (), by simpa using hordinal, (), hcollation, ⟨_, h⟩, hselect, parameters,
      hparameters, rfl, rfl⟩

theorem choosePlan_refuses : FailsWith (·.IsRefusal) (x.choosePlan library) := by
  refine .bind (PlanningInput.refuseWhen_refuses (PlanningInput.blocked_isRefusal _ _)) fun _ => ?_
  refine .bind (PlanningInput.refuseWhen_refuses (PlanningInput.blocked_isRefusal _ _)) fun _ => ?_
  refine .bind (PlanningInput.refuseWhen_refuses (PlanningInput.blocked_isRefusal _ _)) fun _ => ?_
  refine .bind (PlanningInput.selectCandidate_refuses (PlanningInput.noCandidate_isRefusal _)
    fun _ _ _ => PlanningInput.refusal_isRefusal) fun ⟨_, _⟩ => ?_
  exact .bind PlanningInput.checkParameters_refuses fun _ => failsWith_ok

/-- A manifest that carries its check is planned with like one that is checked now. -/
theorem planFieldCompatibilityWithValidatedManifest_eq
    (manifest : ValidatedTargetCapabilityManifest library) :
    planFieldCompatibilityWithValidatedManifest library x manifest =
      explainFieldCompatibility library { x with manifest := manifest.manifest } := by
  unfold planFieldCompatibilityWithValidatedManifest explainFieldCompatibility
    explainFieldCompatibilityInner validateFieldInput
  simp only [manifest.valid, Bool.false_eq_true, if_true, if_false]

end FieldCompatibilityInput

/-! ## The inputs of both planners -/

inductive PlannerInput (validation : ValidationLibrary)
  | transaction (x : CompatibilityInput validation)
  | catalog (x : FieldCompatibilityInput)

namespace PlannerInput

variable {validation : ValidationLibrary}

def binding : PlannerInput validation → PlanningInput
  | transaction x => x.toPlanningInput
  | catalog x => x.toPlanningInput

def operations : PlannerInput validation → List Operation
  | transaction x => x.operations
  | catalog x => x.operations

def presences : PlannerInput validation → List PresenceState
  | transaction x => x.presences
  | catalog x => x.presences

def collationMismatch : PlannerInput validation → Bool
  | transaction _ => false
  | catalog x => x.fieldCollationMismatch

/-- The checks on the keys before any candidate is looked at. -/
def keyChecks : PlannerInput validation → Bool
  | transaction x => !(x.manifest.requiresPrimaryKey && !x.transactionHasKey)
  | catalog x => !(x.manifest.requiresPrimaryKey && !x.sourceHasPrimaryKey) &&
    x.sourceField.primaryKeyOrdinal == x.targetField.primaryKeyOrdinal &&
    !(x.fieldCollationMismatch && x.sourceField.isKeyLike)

def candidates (x : PlannerInput validation) : List TargetTypeCandidate :=
  x.binding.candidates x.operations x.presences x.collationMismatch

/-- The entry of a candidate. -/
def capabilityOf (x : PlannerInput validation) (candidate : TargetTypeCandidate)
    (h : candidate ∈ x.candidates) : CapabilityEntry :=
  x.binding.capabilityOf candidate h

section Library

variable (library : DigestLibrary)

def check : PlannerInput validation → Except CompatibilityError Unit
  | transaction x => x.validateInput library
  | catalog x => x.validateFieldInput library false

def buildPlan (candidate : TargetTypeCandidate) (rule : ConversionRule)
    (parameters : List (String × String)) : PlannerInput validation → ColumnConversionPlan
  | transaction x => x.buildPlan library candidate rule parameters
  | catalog x =>
    let plan := x.buildFieldPlan library candidate rule parameters
    if x.fieldCollationMismatch then FieldCompatibilityInput.addCollationLoss library plan else plan

def choosePlan :
    PlannerInput validation →
      Except CompatibilityResult (TargetTypeCandidate × ColumnConversionPlan)
  | transaction x => x.choosePlan library
  | catalog x => x.choosePlan library

def explain : PlannerInput validation → Except CompatibilityError CompatibilityResult
  | transaction x => explainCompatibility library x
  | catalog x => explainFieldCompatibility library x

end Library

variable {x : PlannerInput validation} {r : CompatibilityResult} {candidate : TargetTypeCandidate}
  {plan p : ColumnConversionPlan}

theorem explain_eq :
    x.explain library = x.check library >>= fun _ =>
      match x.choosePlan library with
      | .error result => pure result
      | .ok (candidate, plan) => pure (x.binding.settle candidate plan) := by
  cases x <;> rfl

theorem check_manifest (h : x.check library = .ok ()) :
    x.binding.manifest.validate library = .ok () := by
  cases x with
  | transaction x =>
    simp only [check, CompatibilityInput.validateInput, bind_eq_ok] at h
    obtain ⟨_, -, _, -, _, h, -⟩ := h
    exact h
  | catalog x =>
    simp only [check, FieldCompatibilityInput.validateFieldInput, bind_eq_ok] at h
    obtain ⟨_, -, _, -, _, h, -⟩ := h
    exact h

/-- A plan is that of the selected candidate. -/
theorem choosePlan_eq_ok :
    x.choosePlan library = .ok (candidate, plan) ↔
      x.keyChecks = true ∧ ∃ h result ambiguous,
        x.binding.selectCandidate x.candidates result ambiguous = .ok ⟨candidate, h⟩ ∧
        ∃ parameters,
          x.binding.checkParameters candidate (x.capabilityOf candidate h) = .ok parameters ∧
          plan = x.buildPlan library candidate (x.capabilityOf candidate h).rule parameters := by
  cases x with
  | transaction x =>
    have hkey : (transaction x).keyChecks = true ↔
        (x.manifest.requiresPrimaryKey && !x.transactionHasKey) = false := by
      rw [keyChecks, Bool.not_eq_true']
    rw [hkey]
    refine CompatibilityInput.choosePlan_eq_ok.trans (and_congr_right fun _ => ?_)
    constructor
    · rintro ⟨h, hselect, hplan⟩
      exact ⟨h, _, _, hselect, hplan⟩
    · rintro ⟨h, _, _, hselect, hplan⟩
      exact ⟨h, PlanningInput.selectCandidate_eq_ok hselect, hplan⟩
  | catalog x =>
    have hkey : (catalog x : PlannerInput validation).keyChecks = true ↔
        (x.manifest.requiresPrimaryKey && !x.sourceHasPrimaryKey) = false ∧
          x.sourceField.primaryKeyOrdinal = x.targetField.primaryKeyOrdinal ∧
          (x.fieldCollationMismatch && x.sourceField.isKeyLike) = false := by
      rw [keyChecks, Bool.and_eq_true, Bool.and_eq_true, Bool.not_eq_true', Bool.not_eq_true',
        beq_iff_eq, and_assoc]
    rw [hkey, and_assoc, and_assoc]
    refine FieldCompatibilityInput.choosePlan_eq_ok.trans (and_congr_right fun _ =>
      and_congr_right fun _ => and_congr_right fun _ => ?_)
    constructor
    · rintro ⟨h, hselect, hplan⟩
      exact ⟨h, _, _, hselect, hplan⟩
    · rintro ⟨h, _, _, hselect, hplan⟩
      exact ⟨h, PlanningInput.selectCandidate_eq_ok hselect, hplan⟩

theorem choosePlan_refuses : FailsWith (·.IsRefusal) (x.choosePlan library) := by
  cases x with
  | transaction x => exact x.choosePlan_refuses
  | catalog x => exact x.choosePlan_refuses

/-- A result is a refusal, or it settles the chosen plan. -/
theorem explain_ok (h : x.explain library = .ok r) :
    x.check library = .ok () ∧ (r.IsRefusal ∨
      ∃ candidate plan, x.choosePlan library = .ok (candidate, plan) ∧
        r = x.binding.settle candidate plan) := by
  rw [explain_eq, bind_eq_ok] at h
  obtain ⟨_, hcheck, h⟩ := h
  refine ⟨hcheck, ?_⟩
  cases hchoose : x.choosePlan library with
  | error result =>
    rw [hchoose] at h
    cases h
    exact .inl (choosePlan_refuses _ hchoose)
  | ok chosen =>
    rw [hchoose] at h
    cases h
    exact .inr ⟨chosen.1, chosen.2, rfl, rfl⟩

theorem explain_plan (h : x.explain library = .ok r) (hplan : r.plan = some p) :
    x.check library = .ok () ∧ ∃ candidate plan, x.choosePlan library = .ok (candidate, plan) ∧
      r = x.binding.settle candidate plan := by
  obtain ⟨hcheck, hrefusal | hsettles⟩ := explain_ok h
  · rw [hrefusal.plan] at hplan
    cases hplan
  · exact ⟨hcheck, hsettles⟩

theorem explain_settle (hcheck : x.check library = .ok ())
    (hchoose : x.choosePlan library = .ok (candidate, plan)) :
    x.explain library = .ok (x.binding.settle candidate plan) := by
  rw [explain_eq, hcheck, hchoose]
  rfl

end PlannerInput

end DatabaseSync.Planner
