import DatabaseSync.Planner.Choice
import Mathlib.Data.Countable.Basic
import Mathlib.Logic.Equiv.List
import Mathlib.Tactic.DeriveCountable

/-! # Confirmations

The digest of a plan does not depend on the confirmations, and it determines the definitions of
both fields and the rule. So a confirmation of a plan settles its input, and no other.
-/

namespace DatabaseSync.Planner

open ChangeEvent Checked

variable {validation : ValidationLibrary} {library : DigestLibrary}

/-! ## Inputs with other confirmations -/

def PlanningInput.withConfirmations (x : PlanningInput) (confirmations : List RiskConfirmation) :
    PlanningInput :=
  { x with options := { x.options with confirmations := confirmations } }

def CompatibilityInput.withConfirmations (x : CompatibilityInput validation)
    (confirmations : List RiskConfirmation) : CompatibilityInput validation :=
  ⟨x.toPlanningInput.withConfirmations confirmations, x.transaction⟩

def FieldCompatibilityInput.withConfirmations (x : FieldCompatibilityInput)
    (confirmations : List RiskConfirmation) : FieldCompatibilityInput :=
  ⟨x.toPlanningInput.withConfirmations confirmations, x.operations, x.presences,
    x.sourceHasPrimaryKey⟩

namespace PlannerInput

def withConfirmations (confirmations : List RiskConfirmation) :
    PlannerInput validation → PlannerInput validation
  | transaction x => transaction (x.withConfirmations confirmations)
  | catalog x => catalog (x.withConfirmations confirmations)

/-- What the input digest of a plan covers. -/
def digestInput (x : PlannerInput validation) (binding : BindingDigest) : DigestInput :=
  match x with
  | transaction x => .transaction ⟨binding, .of x.transaction.transaction⟩
  | catalog x => .field ⟨binding, x.operations, x.presences⟩

variable {x y : PlannerInput validation} {r : CompatibilityResult} {candidate : TargetTypeCandidate}
  {plan p q : ColumnConversionPlan} {confirmation : RiskConfirmation}
  {confirmations : List RiskConfirmation}

theorem check_withConfirmations :
    (x.withConfirmations confirmations).check library = x.check library := by
  cases x <;> rfl

theorem choosePlan_withConfirmations :
    (x.withConfirmations confirmations).choosePlan library = x.choosePlan library := by
  cases x <;> rfl

/-! ## What a plan says about its input -/

variable (library) in
/-- The digests of the plan for `candidate`. -/
structure Planned (x : PlannerInput validation) (candidate : TargetTypeCandidate)
    (plan : ColumnConversionPlan) : Prop where
  input : ∃ parameters, plan.inputDigest =
    library.digestOf (x.digestInput (x.binding.bindingDigest candidate parameters))
  rule : ∃ capability,
    x.binding.manifest.capabilities.find? (·.code == plan.capabilityCode) = some capability ∧
      plan.ruleDigest = library.digestOf (.rule capability.rule)
  digest : plan.planDigest = plan.computedDigest library
  probe : plan.targetProbeDigest = x.binding.options.targetProbeDigest

theorem Planned.addCollationLoss (h : x.Planned library candidate plan) :
    x.Planned library candidate (FieldCompatibilityInput.addCollationLoss library plan) where
  input := h.input
  rule := h.rule
  digest := rfl
  probe := h.probe

theorem buildPlan_planned {capability : CapabilityEntry} (hfind :
      x.binding.manifest.capabilities.find? (·.code == candidate.capabilityCode) = some capability)
    (parameters : List (String × String)) :
    x.Planned library candidate (x.buildPlan library candidate capability.rule parameters) := by
  cases x with
  | transaction x =>
    exact ⟨⟨parameters, rfl⟩, ⟨capability, hfind, rfl⟩,
      ColumnConversionPlan.planDigest_sealed library _, rfl⟩
  | catalog x =>
    have hplanned : (catalog x : PlannerInput validation).Planned library candidate
        (x.buildFieldPlan library candidate capability.rule parameters) :=
      ⟨⟨parameters, rfl⟩, ⟨capability, hfind, rfl⟩,
        ColumnConversionPlan.planDigest_sealed library _, rfl⟩
    rw [buildPlan]
    split
    · exact hplanned.addCollationLoss
    · exact hplanned

theorem choosePlan_planned (h : x.choosePlan library = .ok (candidate, plan)) :
    x.Planned library candidate plan := by
  obtain ⟨-, hmem, -, -, -, parameters, -, rfl⟩ := choosePlan_eq_ok.mp h
  exact buildPlan_planned (PlanningInput.find?_capabilityOf hmem) parameters

theorem digestInput_binding {b b' : BindingDigest} (h : x.digestInput b = y.digestInput b') :
    b = b' := by
  cases x with
  | transaction x =>
    cases y with
    | transaction y => exact (InputDigest.mk.inj (DigestInput.transaction.inj h)).1
    | catalog y => cases h
  | catalog x =>
    cases y with
    | transaction y => cases h
    | catalog y => exact (FieldInputDigest.mk.inj (DigestInput.field.inj h)).1

/-- Plans of one digest are for one pair of fields and one rule. -/
theorem Planned.eq_of_digest {candidate' : TargetTypeCandidate}
    (hfree : Function.Injective library.digestOf) (hp : x.Planned library candidate p)
    (hq : y.Planned library candidate' q) (h : p.planDigest = q.planDigest) :
    x.binding.sourceField = y.binding.sourceField ∧
      x.binding.targetField = y.binding.targetField ∧ ∃ capability capability',
        x.binding.manifest.capabilities.find? (·.code == p.capabilityCode) = some capability ∧
        y.binding.manifest.capabilities.find? (·.code == q.capabilityCode) = some capability' ∧
        capability.rule = capability'.rule := by
  have hinput : p.digestInput = q.digestInput := by
    rw [hp.digest, hq.digest] at h
    exact DigestInput.plan.inj (hfree h)
  obtain ⟨parameters, hpinput⟩ := hp.input
  obtain ⟨parameters', hqinput⟩ := hq.input
  obtain ⟨capability, hfind, hprule⟩ := hp.rule
  obtain ⟨capability', hfind', hqrule⟩ := hq.rule
  have hdigests : p.inputDigest = q.inputDigest := congrArg PlanDigestInput.inputDigest hinput
  have hrules : p.ruleDigest = q.ruleDigest := congrArg PlanDigestInput.ruleDigest hinput
  rw [hpinput, hqinput] at hdigests
  rw [hprule, hqrule] at hrules
  have hbinding := digestInput_binding (hfree hdigests)
  exact ⟨congrArg BindingDigest.sourceField hbinding, congrArg BindingDigest.targetField hbinding,
    capability, capability', hfind, hfind', DigestInput.rule.inj (hfree hrules)⟩

/-! ## Settled results -/

theorem settle_plan {b : PlanningInput} (h : (b.settle candidate plan).plan = some p) :
    p.planDigest = plan.planDigest ∧ p.capabilityCode = plan.capabilityCode := by
  cases h
  split
  · exact ⟨rfl, rfl⟩
  · exact ⟨rfl, rfl⟩

theorem settle_needsConfirmation {b : PlanningInput}
    (h : (b.settle candidate plan).status = .needsConfirmation) :
    candidate.requiresConfirmation = true ∧ (b.settle candidate plan).plan = some plan := by
  unfold PlanningInput.settle at h ⊢
  dsimp only at h ⊢
  split at h
  · next hneeds =>
    rw [Bool.and_eq_true, Bool.not_eq_true'] at hneeds
    exact ⟨hneeds.1, by rw [hneeds.2]; rfl⟩
  · cases h

theorem settle_confirmed {b : PlanningInput} (h : candidate.requiresConfirmation = true)
    (hconfirmed : b.options.confirmations.any plan.confirmationMatches = true) :
    (b.settle candidate plan).status = .compatible ∧
      (b.settle candidate plan).plan = some { plan with confirmation := .confirmed } := by
  simp [PlanningInput.settle, h, hconfirmed]

end PlannerInput

/-! ## A confirmation settles its input -/

/-- The confirmation names the lineages, the rule and the digest of the plan. -/
structure Names (confirmation : RiskConfirmation) (plan : ColumnConversionPlan) : Prop where
  source : confirmation.sourceFieldLineage = plan.sourceField.lineageId
  target : confirmation.targetFieldLineage = plan.targetField.lineageId
  rule : confirmation.rule = plan.rule
  digest : confirmation.planDigest = plan.planDigest

theorem names_iff {confirmation : RiskConfirmation} {plan : ColumnConversionPlan} :
    Names confirmation plan ↔ plan.confirmationMatches confirmation = true := by
  simp only [ColumnConversionPlan.confirmationMatches, Bool.and_eq_true, beq_iff_eq]
  constructor
  · rintro ⟨hsource, htarget, hrule, hdigest⟩
    exact ⟨⟨⟨hsource, htarget⟩, hrule⟩, hdigest⟩
  · rintro ⟨⟨⟨hsource, htarget⟩, hrule⟩, hdigest⟩
    exact ⟨hsource, htarget, hrule, hdigest⟩

/-- A plan is valid for an input whose plan has the same digest. -/
theorem ColumnConversionPlan.validateAgainst_ok {plan current : ColumnConversionPlan}
    {x : CompatibilityInput validation} {r : CompatibilityResult}
    (hdigest : plan.planDigest = plan.computedDigest library)
    (hprobe : plan.targetProbeDigest = x.options.targetProbeDigest)
    (hexplain : explainCompatibility library x = .ok r) (hplan : r.plan = some current)
    (hcurrent : current.planDigest = plan.planDigest) :
    plan.validateAgainst library x = .ok () := by
  unfold validateAgainst
  simp [verifyDigest, ← hdigest, hprobe, hexplain, hplan, hcurrent, require]

namespace PlannerInput

variable {x y : PlannerInput validation} {r : CompatibilityResult} {p : ColumnConversionPlan}
  {confirmation : RiskConfirmation} {confirmations : List RiskConfirmation}

/-- Planning again with a confirmation of the plan succeeds with the plan confirmed. -/
theorem explain_confirmed (h : x.explain library = .ok r) (hstatus : r.status = .needsConfirmation)
    (hplan : r.plan = some p) (hnames : Names confirmation p)
    (hmem : confirmation ∈ confirmations) :
    ∃ r' p', (x.withConfirmations confirmations).explain library = .ok r' ∧
      r'.status = .compatible ∧ r'.plan = some p' ∧ p'.confirmation = .confirmed ∧
      p'.planDigest = p.planDigest ∧ ∀ t, x = .transaction t →
        p'.validateAgainst library t = .ok () ∧
        p'.validateAgainst library (t.withConfirmations confirmations) = .ok () := by
  obtain ⟨hcheck, candidate, plan, hchoose, rfl⟩ := explain_plan h hplan
  obtain ⟨hrequires, hsettled⟩ := settle_needsConfirmation hstatus
  obtain rfl : plan = p := Option.some.inj (hsettled.symm.trans hplan)
  have hplanned := choosePlan_planned hchoose
  have hany : (x.withConfirmations confirmations).binding.options.confirmations.any
      plan.confirmationMatches = true := by
    have hconfirmations :
        (x.withConfirmations confirmations).binding.options.confirmations = confirmations := by
      cases x <;> rfl
    rw [hconfirmations, List.any_eq_true]
    exact ⟨confirmation, hmem, names_iff.mp hnames⟩
  obtain ⟨hcompatible, hconfirmed⟩ := settle_confirmed hrequires hany
  have hexplain : (x.withConfirmations confirmations).explain library =
      .ok ((x.withConfirmations confirmations).binding.settle candidate plan) :=
    explain_settle (check_withConfirmations.trans hcheck)
      (choosePlan_withConfirmations.trans hchoose)
  refine ⟨_, _, hexplain, hcompatible, hconfirmed, rfl, rfl, ?_⟩
  rintro t rfl
  exact ⟨ColumnConversionPlan.validateAgainst_ok hplanned.digest hplanned.probe h hplan rfl,
    ColumnConversionPlan.validateAgainst_ok hplanned.digest hplanned.probe hexplain hconfirmed rfl⟩

/-! ## A confirmation settles no other input -/

variable (library) in
/-- The rule of the plan. -/
def conversionRule (x : PlannerInput validation) : Option ConversionRule :=
  match x.explain library with
  | .ok r => r.plan.bind fun plan =>
    (x.binding.manifest.capabilities.find? (·.code == plan.capabilityCode)).map (·.rule)
  | .error _ => none

theorem conversionRule_eq {candidate : TargetTypeCandidate} {plan : ColumnConversionPlan}
    {capability : CapabilityEntry} (hcheck : x.check library = .ok ())
    (hchoose : x.choosePlan library = .ok (candidate, plan))
    (hfind : x.binding.manifest.capabilities.find? (·.code == plan.capabilityCode) =
      some capability) : x.conversionRule library = some capability.rule := by
  have hexplain : x.explain library = .ok (x.binding.settle candidate plan) :=
    explain_settle hcheck hchoose
  obtain ⟨p, hp⟩ : ∃ p, (x.binding.settle candidate plan).plan = some p := ⟨_, rfl⟩
  simp only [conversionRule, hexplain, hp, Option.bind_some, (settle_plan hp).2, hfind,
    Option.map_some]

theorem explain_unrelated (hfree : Function.Injective library.digestOf)
    (h : x.explain library = .ok r) (hplan : r.plan = some p) (hnames : Names confirmation p)
    (hdiffers : x.binding.sourceField ≠ y.binding.sourceField ∨
      x.binding.targetField ≠ y.binding.targetField ∨
      x.conversionRule library ≠ y.conversionRule library) (earlier later : List RiskConfirmation) :
    (y.withConfirmations (earlier ++ confirmation :: later)).explain library =
      (y.withConfirmations (earlier ++ later)).explain library := by
  rw [explain_eq, explain_eq, check_withConfirmations, check_withConfirmations,
    choosePlan_withConfirmations, choosePlan_withConfirmations]
  cases hycheck : y.check library with
  | error error => rfl
  | ok _ =>
    cases hychoose : y.choosePlan library with
    | error result => rfl
    | ok chosen =>
      obtain ⟨candidate', q⟩ := chosen
      -- the confirmation does not name the other plan
      have hother : q.confirmationMatches confirmation = false := by
        by_contra hmatches
        rw [Bool.not_eq_false] at hmatches
        obtain ⟨hcheck, candidate, plan, hchoose, rfl⟩ := explain_plan h hplan
        obtain ⟨hdigest, -⟩ := settle_plan hplan
        have hsame : plan.planDigest = q.planDigest :=
          hdigest.symm.trans (hnames.digest.symm.trans (names_iff.mpr hmatches).digest)
        obtain ⟨hsource, htarget, capability, capability', hfind, hfind', hrule⟩ :=
          (choosePlan_planned hchoose).eq_of_digest hfree (choosePlan_planned hychoose) hsame
        rcases hdiffers with hdiffers | hdiffers | hdiffers
        · exact hdiffers hsource
        · exact hdiffers htarget
        · apply hdiffers
          rw [conversionRule_eq hcheck hchoose hfind, conversionRule_eq hycheck hychoose hfind',
            hrule]
      cases y <;>
        simp [withConfirmations, CompatibilityInput.withConfirmations,
          FieldCompatibilityInput.withConfirmations, PlanningInput.withConfirmations, binding,
          PlanningInput.settle, List.any_append, hother]

end PlannerInput

/-- A confirmation makes the input of its plan compatible, whatever else is confirmed, and changes
nothing for an input with another source field, target field or rule. -/
theorem confirmation_settles_its_input_alone (library : DigestLibrary) :
    (∀ (x : PlannerInput validation) r p confirmation confirmations,
      x.explain library = .ok r → r.status = .needsConfirmation → r.plan = some p →
      Names confirmation p → confirmation ∈ confirmations →
      ∃ r' p', (x.withConfirmations confirmations).explain library = .ok r' ∧
        r'.status = .compatible ∧ r'.plan = some p' ∧ p'.confirmation = .confirmed ∧
        p'.planDigest = p.planDigest ∧ ∀ t, x = .transaction t →
          p'.validateAgainst library t = .ok () ∧
          p'.validateAgainst library (t.withConfirmations confirmations) = .ok ()) ∧
    (Function.Injective library.digestOf →
      ∀ (x y : PlannerInput validation) r p confirmation earlier later,
        x.explain library = .ok r → r.plan = some p → Names confirmation p →
        (x.binding.sourceField ≠ y.binding.sourceField ∨
          x.binding.targetField ≠ y.binding.targetField ∨
          x.conversionRule library ≠ y.conversionRule library) →
        (y.withConfirmations (earlier ++ confirmation :: later)).explain library =
          (y.withConfirmations (earlier ++ later)).explain library) := by
  constructor
  · intro x r p confirmation confirmations h hstatus hplan hnames hmem
    exact PlannerInput.explain_confirmed h hstatus hplan hnames hmem
  · intro hfree x y r p confirmation earlier later h hplan hnames hdiffers
    exact PlannerInput.explain_unrelated hfree h hplan hnames hdiffers earlier later

/-! ## Digests without collisions -/

section Countable

instance countableString : Countable String :=
  Function.Injective.countable (f := fun s : String => s.toList.map Char.toNat) fun _ _ h =>
    String.toList_inj.mp (List.map_injective_iff.mpr (fun _ _ => Char.toNat_inj.mp) h)

deriving instance Countable for LengthUnit
deriving instance Countable for DuplicateKeyPolicy
deriving instance Countable for JsonProfile
deriving instance Countable for LogicalType, LogicalFields
deriving instance Countable for DefinitionReference
deriving instance Countable for FieldDefinition
deriving instance Countable for ConnectorIdentity
deriving instance Countable for ServerBuildIdentity
deriving instance Countable for SourceRepresentationFormat
deriving instance Countable for SourceRepresentationTypeEvidence
deriving instance Countable for SourceTypeMapping
deriving instance Countable for RiskLevel
deriving instance Countable for QualificationLevel
deriving instance Countable for PresenceState
deriving instance Countable for OptionValueKind
deriving instance Countable for OptionSpec
deriving instance Countable for Operation
deriving instance Countable for FailurePolicy
deriving instance Countable for ConversionRule
deriving instance Countable for TargetRepresentation
deriving instance Countable for CapabilityEntry
deriving instance Countable for CapabilityProbeStatus
deriving instance Countable for CapabilityProbeEntry
deriving instance Countable for TargetColumnMetadata
deriving instance Countable for TargetSessionProfile
deriving instance Countable for ProbeDigestInput
deriving instance Countable for ManifestDigestInput
deriving instance Countable for RuleReference
deriving instance Countable for LossAssessment
deriving instance Countable for ConversionExample
deriving instance Countable for LocatorImpact
deriving instance Countable for PlanDigestInput
deriving instance Countable for SourceCursor
deriving instance Countable for Source
deriving instance Countable for ChangeShape
deriving instance Countable for TransactionShape
deriving instance Countable for RouteOptionsDigest
deriving instance Countable for TargetTypeCandidate
deriving instance Countable for BindingDigest
deriving instance Countable for InputDigest
deriving instance Countable for FieldInputDigest
deriving instance Countable for DigestInput

/-- What is digested is countable, so digests need not collide, whatever one of them is. -/
theorem exists_injective_digestOf (input : DigestInput) :
    ∃ digestOf : DigestInput → String,
      Function.Injective digestOf ∧ digestOf input = "manifest" := by
  classical
  obtain ⟨number, hnumber⟩ := Countable.exists_injective_nat DigestInput
  let zeros (n : ℕ) : String := String.ofList (List.replicate n '0')
  have hzeros : Function.Injective zeros := by
    intro m n h
    simpa [zeros] using congrArg (fun s : String => s.toList.length) h
  have hnot : ∀ n, zeros n ≠ "manifest" := by
    intro n h
    have hmem : 'm' ∈ (zeros n).toList := by
      rw [h]
      decide
    rw [String.toList_ofList, List.mem_replicate] at hmem
    exact absurd hmem.2 (by decide)
  refine ⟨Function.update (fun x => zeros (number x)) input "manifest", ?_,
    Function.update_self ..⟩
  intro a b h
  by_cases ha : a = input
  · by_cases hb : b = input
    · rw [ha, hb]
    · rw [ha, Function.update_self, Function.update_of_ne hb] at h
      exact absurd h.symm (hnot _)
  · by_cases hb : b = input
    · rw [hb, Function.update_self, Function.update_of_ne ha] at h
      exact absurd h (hnot _)
    · rw [Function.update_of_ne ha, Function.update_of_ne hb] at h
      exact hnumber (hzeros h)

end Countable

section Sample

def sampleConfirmation (plan : ColumnConversionPlan) : RiskConfirmation :=
  ⟨plan.sourceField.lineageId, plan.targetField.lineageId, plan.rule, plan.planDigest, "operator",
    "2026-01-01", none⟩

/-- What the digest of the sample manifest covers. -/
def sampleManifestInput : ManifestDigestInput :=
  ⟨sampleManifest.connector, sampleManifest.targetBuild, sampleManifest.contract,
    sampleManifest.requiresPrimaryKey, sampleManifest.capabilities⟩

/-- A UUID column of a source. -/
def tokenInput (name : String) : PlannerInput sampleValidation :=
  .catalog ⟨{ tokenBinding false with
    sourceField := sampleField "source" 1 name "uuid" .uuid none false },
    [.insert], [.value], true⟩

/-- A plan is found under every library that signs the manifest. -/
theorem tokenInput_explain (hsigned : library.digestOf (.manifest sampleManifestInput) = "manifest")
    {name : String} (hname : name = "token" ∨ name = "ticket") :
    ∃ r p, (tokenInput name).explain library = .ok r ∧ r.status = .needsConfirmation ∧
      r.plan = some p := by
  have hmanifest : sampleManifest.validate library = .ok () := by
    have hdigest : sampleManifest.verifyDigest library = true := by
      rw [TargetCapabilityManifest.verifyDigest, TargetCapabilityManifest.computedDigest]
      exact (congrArg (fun digest => !"manifest".isEmpty && "manifest" == digest) hsigned).trans rfl
    rw [TargetCapabilityManifest.validate, hdigest]
    rfl
  have hplanned : (tokenInput name).binding.validateBinding = .ok () ∧
      ∃ candidate plan, (tokenInput name).choosePlan sampleDigests = .ok (candidate, plan) ∧
        candidate.requiresConfirmation = true := by
    rcases hname with rfl | rfl
    · exact ⟨rfl, _, _, rfl, rfl⟩
    · exact ⟨rfl, _, _, rfl, rfl⟩
  obtain ⟨hbinding, candidate, _, hchoose, hrequires⟩ := hplanned
  have hcheck : (tokenInput name).check library = .ok () := by
    simp only [tokenInput, PlannerInput.check, FieldCompatibilityInput.validateFieldInput,
      bind_eq_ok]
    exact ⟨(), hbinding, (), rfl, (), hmanifest, rfl⟩
  obtain ⟨hkeys, h, result, ambiguous, hselect, parameters, hparameters, -⟩ :=
    PlannerInput.choosePlan_eq_ok.mp hchoose
  have hchosen : (tokenInput name).choosePlan library = .ok (candidate, _) :=
    PlannerInput.choosePlan_eq_ok.mpr
      ⟨hkeys, h, result, ambiguous, hselect, parameters, hparameters, rfl⟩
  refine ⟨_, _, PlannerInput.explain_settle hcheck hchosen, ?_, rfl⟩
  simp [PlanningInput.settle, hrequires, tokenInput, PlannerInput.binding, tokenBinding,
    sampleBinding]

/-- The UUID column is settled by a confirmation of its plan, and a column of another name is not:
it still needs its own. -/
theorem confirmation_settles_its_input_alone_sample : ∃ library : DigestLibrary,
    Function.Injective library.digestOf ∧
    ∃ r p, (tokenInput "token").explain library = .ok r ∧
      r.status = .needsConfirmation ∧ r.plan = some p ∧
      (∃ r', ((tokenInput "token").withConfirmations [sampleConfirmation p]).explain library =
        .ok r' ∧ r'.status = .compatible) ∧
      ∃ r', ((tokenInput "ticket").withConfirmations [sampleConfirmation p]).explain library =
        .ok r' ∧ r'.status = .needsConfirmation := by
  obtain ⟨digestOf, hfree, hsigned⟩ := exists_injective_digestOf (.manifest sampleManifestInput)
  let library : DigestLibrary := ⟨digestOf, fun _ => "", fun _ => ""⟩
  obtain ⟨r, p, hexplain, hstatus, hplan⟩ :=
    @tokenInput_explain library hsigned "token" (.inl rfl)
  obtain ⟨other, -, hother, hwaiting, -⟩ :=
    @tokenInput_explain library hsigned "ticket" (.inr rfl)
  obtain ⟨hsettles, halone⟩ :=
    @confirmation_settles_its_input_alone sampleValidation library
  obtain ⟨r', -, hconfirmed, hcompatible, -⟩ := hsettles _ r p (sampleConfirmation p)
    [sampleConfirmation p] hexplain hstatus hplan ⟨rfl, rfl, rfl, rfl⟩ (List.mem_singleton_self _)
  have hfields : (tokenInput "token").binding.sourceField ≠
      (tokenInput "ticket").binding.sourceField := by decide
  have hunrelated := halone hfree _ (tokenInput "ticket") r p (sampleConfirmation p) [] [] hexplain
    hplan ⟨rfl, rfl, rfl, rfl⟩ (.inl hfields)
  exact ⟨library, hfree, r, p, hexplain, hstatus, hplan, ⟨r', hconfirmed, hcompatible⟩, other,
    hunrelated.trans hother, hwaiting⟩

end Sample

end DatabaseSync.Planner
