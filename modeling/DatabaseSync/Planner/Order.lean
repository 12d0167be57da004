import DatabaseSync.Planner.Agreement
import Mathlib.Data.Prod.Lex
import Mathlib.Data.String.Basic

/-! # The order of the capabilities

The entries of a valid manifest have distinct codes, and the code is the last part of the order of
the candidates. So the order in which a manifest lists its entries decides nothing but its digest.
-/

namespace DatabaseSync.Planner

open ChangeEvent Checked TargetRepresentation

variable {validation : ValidationLibrary} {library : DigestLibrary}

/-! ## The order of the candidates -/

namespace TargetTypeCandidate

/-- What the candidates are sorted by. -/
def key (a : TargetTypeCandidate) : ℕ ×ₗ ℕ ×ₗ String :=
  toLex (qualificationRank a.qualification, toLex (a.risk.rank, a.capabilityCode))

theorem before_iff {a b : TargetTypeCandidate} : a.before b = true ↔ a.key ≤ b.key := by
  simp only [before, key, Prod.Lex.toLex_le_toLex]
  split
  · next hqualification => simp [hqualification]
  · next hqualification =>
    rw [ne_eq, not_not] at hqualification
    split
    · next hrisk => simp [hqualification, hrisk]
    · next hrisk =>
      rw [ne_eq, not_not] at hrisk
      simp [hqualification, hrisk]

instance : Std.Total fun a b : TargetTypeCandidate => a.before b = true where
  total a b := by
    simp only [before_iff]
    exact le_total _ _

instance : IsTrans TargetTypeCandidate fun a b => a.before b = true where
  trans a b c := by
    simp only [before_iff]
    exact le_trans

theorem code_eq_of_before {a b : TargetTypeCandidate} (hab : a.before b = true)
    (hba : b.before a = true) : a.capabilityCode = b.capabilityCode := by
  rw [before_iff] at hab hba
  have hkey : a.key = b.key := le_antisymm hab hba
  exact congrArg (fun key => (ofLex (ofLex key).2).2) hkey

/-- Candidates with distinct codes have one sorted list. -/
theorem insertionSort_before_eq {l l' : List TargetTypeCandidate} (h : l.Perm l')
    (hcodes : (l.map (·.capabilityCode)).Nodup) :
    l.insertionSort (fun a b => a.before b = true) =
      l'.insertionSort (fun a b => a.before b = true) := by
  have hinjective : ∀ a ∈ l, ∀ b ∈ l, a.capabilityCode = b.capabilityCode → a = b :=
    List.inj_on_of_nodup_map hcodes
  apply List.Perm.eq_of_pairwise
  · intro a b ha hb hab hba
    rw [List.mem_insertionSort] at ha hb
    exact hinjective a ha b (h.mem_iff.mpr hb) (code_eq_of_before hab hba)
  · exact List.pairwise_insertionSort _ _
  · exact List.pairwise_insertionSort _ _
  · exact (List.perm_insertionSort _ l).trans (h.trans (List.perm_insertionSort _ l').symm)

end TargetTypeCandidate

/-! ## Manifests of the same entries -/

theorem validateCapabilities_eq_ok {codes : List String} {capabilities : List CapabilityEntry} :
    validateCapabilities codes capabilities = .ok () ↔ (capabilities.map (·.code)).Nodup ∧
      ∀ capability ∈ capabilities, capability.isComplete = true ∧ capability.code ∉ codes ∧
        validateRule capability.rule = .ok () := by
  induction capabilities generalizing codes with
  | nil => simp [validateCapabilities]
  | cons capability capabilities ih =>
    simp only [validateCapabilities, bind_eq_ok, require_eq_ok, Bool.and_eq_true, Bool.not_eq_true',
      List.contains_eq_mem, decide_eq_false_iff_not, ih, List.map_cons, List.nodup_cons,
      List.mem_cons, forall_eq_or_imp, not_or]
    constructor
    · rintro ⟨_, ⟨hcomplete, hfresh⟩, _, hrule, hnodup, hrest⟩
      refine ⟨⟨?_, hnodup⟩, ⟨hcomplete, hfresh, hrule⟩, ?_⟩
      · intro hmem
        obtain ⟨other, hother, hcode⟩ := List.mem_map.mp hmem
        exact (hrest other hother).2.1.1 hcode
      · intro other hother
        exact ⟨(hrest other hother).1, (hrest other hother).2.1.2, (hrest other hother).2.2⟩
    · rintro ⟨⟨hhead, hnodup⟩, ⟨hcomplete, hfresh, hrule⟩, hrest⟩
      refine ⟨(), ⟨hcomplete, hfresh⟩, (), hrule, hnodup, ?_⟩
      intro other hother
      obtain ⟨hcomplete, hfresh, hrule⟩ := hrest other hother
      exact ⟨hcomplete, ⟨fun hcode => hhead (List.mem_map.mpr ⟨other, hother, hcode⟩), hfresh⟩,
        hrule⟩

variable (library) in
/-- The manifests list the same entries, and the digest of each is right or wrong alike. -/
structure TargetCapabilityManifest.SameEntries (manifest other : TargetCapabilityManifest) :
    Prop where
  connector : other.connector = manifest.connector
  targetBuild : other.targetBuild = manifest.targetBuild
  contract : other.contract = manifest.contract
  requiresPrimaryKey : other.requiresPrimaryKey = manifest.requiresPrimaryKey
  capabilities : manifest.capabilities.Perm other.capabilities
  verified : other.verifyDigest library = manifest.verifyDigest library

namespace TargetCapabilityManifest

variable {manifest other : TargetCapabilityManifest}

theorem SameEntries.validate_iff (h : manifest.SameEntries library other) :
    other.validate library = .ok () ↔ manifest.validate library = .ok () := by
  have hnodup : (other.capabilities.map (·.code)).Nodup ↔
      (manifest.capabilities.map (·.code)).Nodup := (h.capabilities.map _).nodup_iff.symm
  simp only [validate, bind_eq_ok, require_eq_ok, validateCapabilities_eq_ok, h.contract,
    h.verified, hnodup, h.capabilities.mem_iff]

end TargetCapabilityManifest

namespace PlanningInput

variable {x : PlanningInput} {other : TargetCapabilityManifest}

def withManifest (x : PlanningInput) (other : TargetCapabilityManifest) : PlanningInput :=
  { x with manifest := other }

theorem candidates_withManifest (h : x.manifest.SameEntries library other)
    (hnodup : (x.manifest.capabilities.map (·.code)).Nodup) (operations : List Operation)
    (presences : List PresenceState) (mismatch : Bool) :
    (x.withManifest other).candidates operations presences mismatch =
      x.candidates operations presences mismatch := by
  have hcodes : (((x.manifest.capabilities.filter (x.eligible operations presences)).map
      (x.candidate mismatch)).map (·.capabilityCode)).Nodup := by
    rw [List.map_map]
    exact hnodup.sublist (List.filter_sublist.map _)
  exact (TargetTypeCandidate.insertionSort_before_eq ((h.capabilities.filter _).map _) hcodes).symm

theorem lossyKeyCapability_withManifest (h : x.manifest.SameEntries library other) :
    (x.withManifest other).lossyKeyCapability = x.lossyKeyCapability :=
  congrArg (x.sourceField.isKeyLike && ·) (h.capabilities.any_eq).symm

/-- Both manifests have one entry for a candidate. -/
theorem capabilityOf_withManifest (h : x.manifest.SameEntries library other)
    (hnodup : (x.manifest.capabilities.map (·.code)).Nodup) {operations : List Operation}
    {presences : List PresenceState} {mismatch : Bool} {candidate : TargetTypeCandidate}
    (hmem : candidate ∈ x.candidates operations presences mismatch)
    (hmem' : candidate ∈ (x.withManifest other).candidates operations presences mismatch) :
    (x.withManifest other).capabilityOf candidate hmem' = x.capabilityOf candidate hmem := by
  obtain ⟨hcapability, -, hcandidate⟩ := capabilityOf_spec hnodup hmem
  have hcode : candidate.capabilityCode = (x.capabilityOf candidate hmem).code :=
    congrArg TargetTypeCandidate.capabilityCode hcandidate.symm
  have hfind : other.capabilities.find? (·.code == (x.capabilityOf candidate hmem).code) =
      some (x.capabilityOf candidate hmem) :=
    find?_code (x := x.withManifest other) ((h.capabilities.map _).nodup hnodup)
      (h.capabilities.mem_iff.mp hcapability)
  have hfind' := find?_capabilityOf hmem'
  rw [hcode] at hfind'
  exact Option.some.inj (hfind'.symm.trans hfind)

/-- A candidate, the entry it is from and the parameters of the plan. -/
def choice (x : PlanningInput) (candidates : List TargetTypeCandidate)
    (result : CompatibilityResult)
    (ambiguous : TargetTypeCandidate → String → String → CompatibilityResult)
    (entry : ∀ candidate ∈ candidates, CapabilityEntry) :
    Except CompatibilityResult (TargetTypeCandidate × ConversionRule × List (String × String)) := do
  let ⟨candidate, h⟩ ← x.selectCandidate candidates result ambiguous
  let parameters ← x.checkParameters candidate (entry candidate h)
  return (candidate, (entry candidate h).rule, parameters)

theorem choice_congr {candidates candidates' : List TargetTypeCandidate}
    {result result' : CompatibilityResult}
    {ambiguous ambiguous' : TargetTypeCandidate → String → String → CompatibilityResult}
    {entry : ∀ candidate ∈ candidates, CapabilityEntry}
    {entry' : ∀ candidate ∈ candidates', CapabilityEntry} (h : candidates' = candidates)
    (hresult : result' = result) (hambiguous : ambiguous' = ambiguous)
    (hentry : ∀ candidate hmem hmem', entry' candidate hmem' = entry candidate hmem) :
    (x.withManifest other).choice candidates' result' ambiguous' entry' =
      x.choice candidates result ambiguous entry := by
  subst h hresult hambiguous
  obtain rfl : entry' = entry :=
    funext fun candidate => funext fun hmem => hentry candidate hmem hmem
  rfl

end PlanningInput

/-! ## The choice of the plan -/

def CompatibilityInput.withManifest (x : CompatibilityInput validation)
    (other : TargetCapabilityManifest) : CompatibilityInput validation :=
  ⟨x.toPlanningInput.withManifest other, x.transaction⟩

def FieldCompatibilityInput.withManifest (x : FieldCompatibilityInput)
    (other : TargetCapabilityManifest) : FieldCompatibilityInput :=
  ⟨x.toPlanningInput.withManifest other, x.operations, x.presences, x.sourceHasPrimaryKey⟩

/-- What the planner checks of the transaction. -/
def CompatibilityInput.captured (x : CompatibilityInput validation) : Bool :=
  (x.transaction.transaction.source.kind == x.sourceConnector.kind &&
      Text.startsWith x.transaction.transaction.source.version x.sourceConnector.version) &&
    !x.fieldColumns.isEmpty && x.fieldColumns.all x.metadataMatches &&
    x.fieldColumns.all x.valueMatches

theorem CompatibilityInput.validateInput_eq_ok {x : CompatibilityInput validation} :
    x.validateInput library = .ok () ↔ x.validateBinding = .ok () ∧
      x.manifest.validate library = .ok () ∧ x.validateProbe library = .ok () ∧
      x.captured = true := by
  simp only [validateInput, captured, bind_eq_ok, require_eq_ok, Bool.and_eq_true]
  constructor
  · rintro ⟨_, hbinding, _, hsource, _, hmanifest, _, hprobe, _, hfound, _, hmetadata, hvalues⟩
    exact ⟨hbinding, hmanifest, hprobe, ⟨⟨hsource, hfound⟩, hmetadata⟩, hvalues⟩
  · rintro ⟨hbinding, hmanifest, hprobe, ⟨⟨hsource, hfound⟩, hmetadata⟩, hvalues⟩
    exact ⟨(), hbinding, (), hsource, (), hmanifest, (), hprobe, (), hfound, (), hmetadata, hvalues⟩

theorem FieldCompatibilityInput.validateFieldInput_eq_ok {x : FieldCompatibilityInput} :
    x.validateFieldInput library false = .ok () ↔ x.validateBinding = .ok () ∧
      x.manifest.validate library = .ok () ∧ x.validateProbe library = .ok () ∧
      (!x.operations.isEmpty && !x.presences.isEmpty) = true := by
  simp only [validateFieldInput, bind_eq_ok, require_eq_ok, Bool.false_eq_true, if_false]
  constructor
  · rintro ⟨_, hbinding, _, hrequirements, _, hmanifest, hprobe⟩
    exact ⟨hbinding, hmanifest, hprobe, hrequirements⟩
  · rintro ⟨hbinding, hmanifest, hprobe, hrequirements⟩
    exact ⟨(), hbinding, (), hrequirements, (), hmanifest, hprobe⟩

namespace PlannerInput

variable {x : PlannerInput validation} {other : TargetCapabilityManifest}
  {r : CompatibilityResult} {candidate : TargetTypeCandidate} {plan p : ColumnConversionPlan}

def withManifest (other : TargetCapabilityManifest) :
    PlannerInput validation → PlannerInput validation
  | transaction x => transaction (x.withManifest other)
  | catalog x => catalog (x.withManifest other)

/-- What is chosen before the plan is built. -/
def choice : PlannerInput validation →
    Except CompatibilityResult (TargetTypeCandidate × ConversionRule × List (String × String))
  | transaction x => do
    refuseWhen (x.manifest.requiresPrimaryKey && !x.transactionHasKey)
      (x.blocked "target_capability.primary_key_required"
        "the MySQL 8.0 Sink requires a primary-key Row Locator")
    let candidates := x.candidates x.operations x.presences false
    let keyBlocked :=
      (x.manifest.requiresPrimaryKey && !x.transactionHasKey) || x.lossyKeyCapability
    x.toPlanningInput.choice candidates (x.noCandidate keyBlocked)
      (fun first code message => x.refusal .needsConfiguration first.qualification first.risk code
        message false none candidates .invalidInput .planConstruction)
      fun candidate h => x.capabilityOf candidate h
  | catalog x => do
    refuseWhen (x.manifest.requiresPrimaryKey && !x.sourceHasPrimaryKey)
      (x.blocked "target_capability.primary_key_required"
        "the selected Sink requires a primary-key Row Locator")
    refuseWhen (x.sourceField.primaryKeyOrdinal != x.targetField.primaryKeyOrdinal)
      (x.blocked "target_capability.primary_key_mismatch"
        "source and target Row Locator key positions are not equivalent")
    refuseWhen (x.fieldCollationMismatch && x.sourceField.isKeyLike)
      (x.blocked "target_capability.key_collation_mismatch"
        ("source and target key collations differ; key equality and row location cannot be " ++
          "proven equivalent"))
    let candidates := x.candidates x.operations x.presences x.fieldCollationMismatch
    x.toPlanningInput.choice candidates (x.noCandidate x.lossyKeyCapability)
      (fun first code message => x.fieldResult .needsConfiguration first.qualification first.risk
        code message candidates .invalidInput .planConstruction)
      fun candidate h => x.capabilityOf candidate h

theorem choosePlan_eq_choice : x.choosePlan library = do
    let (candidate, rule, parameters) ← x.choice
    return (candidate, x.buildPlan library candidate rule parameters) := by
  cases x with
  | transaction x =>
    simp only [choosePlan, CompatibilityInput.choosePlan, choice, PlanningInput.choice, buildPlan,
      bind_assoc, pure_bind]
  | catalog x =>
    simp only [choosePlan, FieldCompatibilityInput.choosePlan, choice, PlanningInput.choice,
      buildPlan, bind_assoc, pure_bind]

theorem choice_withManifest (h : x.binding.manifest.SameEntries library other)
    (hnodup : (x.binding.manifest.capabilities.map (·.code)).Nodup) :
    (x.withManifest other).choice = x.choice := by
  cases x with
  | transaction x =>
    have hcandidates :=
      PlanningInput.candidates_withManifest h hnodup x.operations x.presences false
    have hlossy := PlanningInput.lossyKeyCapability_withManifest h
    have hkey : (x.withManifest other).manifest.requiresPrimaryKey =
      x.manifest.requiresPrimaryKey :=
      h.requiresPrimaryKey
    simp only [withManifest, choice, hkey]
    refine bind_congr fun _ => PlanningInput.choice_congr hcandidates ?_ ?_ ?_
    · exact congrArg (fun lossy => x.noCandidate
        ((x.manifest.requiresPrimaryKey && !x.transactionHasKey) || lossy)) hlossy
    · exact congrArg (fun candidates (first : TargetTypeCandidate) (code message : String) =>
        x.refusal .needsConfiguration first.qualification first.risk code message false none
          candidates .invalidInput .planConstruction) hcandidates
    · exact fun candidate hmem hmem' => PlanningInput.capabilityOf_withManifest h hnodup hmem hmem'
  | catalog x =>
    have hcandidates := PlanningInput.candidates_withManifest h hnodup x.operations x.presences
      x.fieldCollationMismatch
    have hlossy := PlanningInput.lossyKeyCapability_withManifest h
    have hkey : (x.withManifest other).manifest.requiresPrimaryKey =
      x.manifest.requiresPrimaryKey :=
      h.requiresPrimaryKey
    simp only [withManifest, choice, hkey]
    refine bind_congr fun _ => bind_congr fun _ => bind_congr fun _ =>
      PlanningInput.choice_congr hcandidates ?_ ?_ ?_
    · exact congrArg x.noCandidate hlossy
    · exact congrArg (fun candidates (first : TargetTypeCandidate) (code message : String) =>
        x.fieldResult .needsConfiguration first.qualification first.risk code message candidates
          .invalidInput .planConstruction) hcandidates
    · exact fun candidate hmem hmem' => PlanningInput.capabilityOf_withManifest h hnodup hmem hmem'

theorem check_withManifest (h : x.binding.manifest.SameEntries library other) :
    (x.withManifest other).check library = .ok () ↔ x.check library = .ok () := by
  have hbinding : (x.binding.withManifest other).validateBinding = .ok () ↔
      x.binding.validateBinding = .ok () := by
    simp only [PlanningInput.validateBinding, PlanningInput.withManifest,
      PlanningInput.mappingDescribesSource, h.connector, h.targetBuild]
  have hprobe : (x.binding.withManifest other).validateProbe library = .ok () ↔
      x.binding.validateProbe library = .ok () := by
    simp only [PlanningInput.validateProbe, PlanningInput.withManifest, h.targetBuild]
  cases x with
  | transaction x =>
    have hcaptured : (x.withManifest other).captured = x.captured := rfl
    simp only [withManifest, check, CompatibilityInput.validateInput_eq_ok, hcaptured]
    exact and_congr hbinding (and_congr h.validate_iff (and_congr_left' hprobe))
  | catalog x =>
    have hrequirements : (x.withManifest other).operations = x.operations ∧
        (x.withManifest other).presences = x.presences := ⟨rfl, rfl⟩
    simp only [withManifest, check, FieldCompatibilityInput.validateFieldInput_eq_ok, hrequirements]
    exact and_congr hbinding (and_congr h.validate_iff (and_congr_left' hprobe))

/-- The plans differ in the digests of the manifest, of the input and of the plan. -/
def Replanned (plan q : ColumnConversionPlan) : Prop :=
  ∃ manifestDigest inputDigest planDigest, q = { plan with
    capabilityManifestDigest := manifestDigest
    inputDigest := inputDigest
    planDigest := planDigest }

theorem Replanned.addCollationLoss {q : ColumnConversionPlan} (h : Replanned plan q) :
    Replanned (FieldCompatibilityInput.addCollationLoss library plan)
      (FieldCompatibilityInput.addCollationLoss library q) := by
  obtain ⟨manifestDigest, inputDigest, planDigest, rfl⟩ := h
  simp only [FieldCompatibilityInput.addCollationLoss, ColumnConversionPlan.sealed]
  exact ⟨manifestDigest, inputDigest, _, rfl⟩

theorem replanned_assemblePlan {b : PlanningInput} (rule : ConversionRule)
    (parameters : List (String × String)) (target : TargetRepresentation)
    (inputDigest inputDigest' : String) :
    Replanned (b.assemblePlan library candidate rule parameters target inputDigest)
      ((b.withManifest other).assemblePlan library candidate rule parameters target
        inputDigest') :=
  ⟨other.digest, inputDigest', _, rfl⟩

theorem buildPlan_withManifest (rule : ConversionRule) (parameters : List (String × String)) :
    Replanned (x.buildPlan library candidate rule parameters)
      ((x.withManifest other).buildPlan library candidate rule parameters) := by
  cases x with
  | transaction x => exact replanned_assemblePlan rule parameters _ _ _
  | catalog x =>
    have hplan : Replanned (x.buildFieldPlan library candidate rule parameters)
        ((x.withManifest other).buildFieldPlan library candidate rule parameters) :=
      replanned_assemblePlan rule parameters _ _ _
    have hmismatch : (x.withManifest other).fieldCollationMismatch = x.fieldCollationMismatch := rfl
    rw [withManifest, buildPlan, buildPlan, hmismatch]
    cases x.fieldCollationMismatch
    · exact hplan
    · exact hplan.addCollationLoss

/-! ## The result -/

/-- Some confirmation of the input names the plan. -/
def ConfirmedBy (x : PlannerInput validation) (plan : ColumnConversionPlan) : Prop :=
  ∃ confirmation ∈ x.binding.options.confirmations, Names confirmation plan

theorem settle_status_eq (b : PlanningInput) : (b.settle candidate plan).status =
    if candidate.requiresConfirmation && !(candidate.requiresConfirmation &&
      b.options.confirmations.any plan.confirmationMatches) then .needsConfirmation
    else .compatible := rfl

theorem settle_reasonCode_eq (b : PlanningInput) : (b.settle candidate plan).reasonCode =
    if candidate.requiresConfirmation && !(candidate.requiresConfirmation &&
      b.options.confirmations.any plan.confirmationMatches) then
      "target_capability.confirmation_required"
    else "target_capability.qualified" := rfl

theorem settle_status_iff {b b' : PlanningInput} {q : ColumnConversionPlan} :
    (b'.settle candidate q).status = (b.settle candidate plan).status ∧
        (b'.settle candidate q).reasonCode = (b.settle candidate plan).reasonCode ↔
      (candidate.requiresConfirmation = true →
        (b.options.confirmations.any plan.confirmationMatches = true ↔
          b'.options.confirmations.any q.confirmationMatches = true)) := by
  rw [settle_status_eq, settle_status_eq, settle_reasonCode_eq, settle_reasonCode_eq]
  generalize b.options.confirmations.any plan.confirmationMatches = confirmed
  generalize b'.options.confirmations.any q.confirmationMatches = confirmed'
  constructor
  · rintro ⟨hstatus, -⟩ hrequires
    rw [hrequires] at hstatus
    cases confirmed
    · cases confirmed'
      · exact Iff.rfl
      · cases hstatus
    · cases confirmed'
      · cases hstatus
      · exact Iff.rfl
  · intro h
    cases hrequires : candidate.requiresConfirmation with
    | false => exact ⟨rfl, rfl⟩
    | true =>
      obtain rfl : confirmed = confirmed' := Bool.eq_iff_iff.mpr (h hrequires)
      exact ⟨rfl, rfl⟩

theorem choosePlan_withManifest (h : x.binding.manifest.SameEntries library other)
    (hcheck : x.check library = .ok ()) :
    (∀ result, x.choosePlan library = .error result →
      (x.withManifest other).choosePlan library = .error result) ∧
    ∀ candidate plan, x.choosePlan library = .ok (candidate, plan) →
      ∃ q, (x.withManifest other).choosePlan library = .ok (candidate, q) ∧ Replanned plan q := by
  obtain ⟨hnodup, -⟩ := TargetCapabilityManifest.validate_ok (check_manifest hcheck)
  rw [choosePlan_eq_choice, choosePlan_eq_choice, choice_withManifest h hnodup]
  cases x.choice with
  | error result => exact ⟨fun _ hresult => hresult, fun _ _ hplan => by cases hplan⟩
  | ok chosen =>
    obtain ⟨candidate, rule, parameters⟩ := chosen
    constructor
    · rintro _ ⟨⟩
    · rintro _ _ ⟨⟩
      exact ⟨_, rfl, buildPlan_withManifest rule parameters⟩

theorem explain_error_iff :
    (∃ e, x.explain library = .error e) ↔ x.check library ≠ .ok () := by
  rw [explain_eq]
  cases x.check library with
  | error e => simp
  | ok _ =>
    rw [ok_bind]
    cases x.choosePlan library with
    | error result => simp
    | ok chosen => simp

/-- What a result says of its plan: the digests and the state of the confirmation are not looked at
by `target`, and the state is not looked at by a confirmation. -/
theorem settle_plan_eq {b : PlanningInput} (h : (b.settle candidate plan).plan = some p) :
    p.target = plan.target ∧ ∀ confirmation, Names confirmation p ↔ Names confirmation plan := by
  cases h
  split
  · exact ⟨rfl, fun confirmation => by rw [names_iff, names_iff]; exact Iff.rfl⟩
  · exact ⟨rfl, fun confirmation => Iff.rfl⟩

theorem confirmedBy_iff {b : PlanningInput} (h : (b.settle candidate plan).plan = some p) :
    x.ConfirmedBy p ↔ x.binding.options.confirmations.any plan.confirmationMatches = true := by
  simp only [ConfirmedBy, (settle_plan_eq h).2, names_iff, List.any_eq_true]

/-- With its entries in another order a manifest gives the same candidates, rule and target. The
status and the reason are the same if no confirmation is needed, or if the confirmations name both
plans or neither. -/
theorem order_decides_digests (library : DigestLibrary) (x : PlannerInput validation)
    (other : TargetCapabilityManifest) (h : x.binding.manifest.SameEntries library other) :
    ((∃ e, x.explain library = .error e) ↔
      ∃ e, (x.withManifest other).explain library = .error e) ∧
    ∀ r r', x.explain library = .ok r → (x.withManifest other).explain library = .ok r' →
      r'.candidates = r.candidates ∧ r'.rule = r.rule ∧
      r'.plan.map (·.target) = r.plan.map (·.target) ∧
      (r'.status = r.status ∧ r'.reasonCode = r.reasonCode ↔
        ∀ p p', r.plan = some p → r'.plan = some p' → r.requiresConfirmation = true →
          (x.ConfirmedBy p ↔ x.ConfirmedBy p')) := by
  constructor
  · rw [explain_error_iff, explain_error_iff, not_iff_not]
    exact (check_withManifest h).symm
  intro r r' hr hr'
  obtain ⟨hcheck, -⟩ := explain_ok hr
  have hcheck' := (check_withManifest h).mpr hcheck
  obtain ⟨hrefuses, hplans⟩ := choosePlan_withManifest h hcheck
  cases hchoose : x.choosePlan library with
  | error result =>
    have hresult : r = result := by
      rw [explain_eq, hcheck, hchoose] at hr
      exact (Except.ok.inj hr).symm
    have hresult' : r' = result := by
      rw [explain_eq, hcheck', hrefuses result hchoose] at hr'
      exact (Except.ok.inj hr').symm
    obtain rfl : r' = r := hresult'.trans hresult.symm
    have hplan : r'.plan = none := by
      rw [hresult]
      exact (choosePlan_refuses _ hchoose).plan
    refine ⟨rfl, rfl, rfl, fun _ p _ hp => ?_, fun _ => ⟨rfl, rfl⟩⟩
    rw [hplan] at hp
    cases hp
  | ok chosen =>
    obtain ⟨candidate, plan⟩ := chosen
    obtain ⟨q, hchoose', manifestDigest, inputDigest, planDigest, hq⟩ := hplans _ _ hchoose
    obtain rfl : x.binding.settle candidate plan = r :=
      Except.ok.inj ((explain_settle hcheck hchoose).symm.trans hr)
    obtain rfl : (x.withManifest other).binding.settle candidate q = r' :=
      Except.ok.inj ((explain_settle hcheck' hchoose').symm.trans hr')
    have hconfirmations : (x.withManifest other).binding.options.confirmations =
        x.binding.options.confirmations := by cases x <;> rfl
    obtain ⟨p, hp⟩ : ∃ p, (x.binding.settle candidate plan).plan = some p := ⟨_, rfl⟩
    obtain ⟨p', hp'⟩ : ∃ p', ((x.withManifest other).binding.settle candidate q).plan = some p' :=
      ⟨_, rfl⟩
    refine ⟨rfl, rfl, ?_, settle_status_iff.trans ?_⟩
    · rw [hp, hp', Option.map_some, Option.map_some, (settle_plan_eq hp).1, (settle_plan_eq hp').1,
        hq]
    · rw [hconfirmations]
      constructor
      · intro hsame p p' hp hp' hrequires
        rw [confirmedBy_iff hp, confirmedBy_iff hp']
        exact hsame hrequires
      · intro hsame hrequires
        rw [← confirmedBy_iff (x := x) hp, ← confirmedBy_iff (x := x) hp']
        exact hsame p p' hp hp' hrequires

section Sample

/-- Digests under which the manifest is named by its first entry, and a plan by its manifest. -/
def listedDigests : DigestLibrary where
  digestOf
    | .manifest manifest => (manifest.capabilities.head?.map (·.code)).getD ""
    | .plan plan => "plan under " ++ plan.capabilityManifestDigest
    | input => sampleDigests.digestOf input
  stableDigest _ := ""
  toJson _ := ""

def listedManifest : TargetCapabilityManifest :=
  { sampleManifest with digest := "mysql80.exact.int.signed.32" }

/-- The same entries from the last to the first. -/
def reversedManifest : TargetCapabilityManifest :=
  { sampleManifest with
    capabilities := sampleManifest.capabilities.reverse
    digest := "mysql80.explicit.uuid.char36" }

/-- The UUID column with a confirmation of its plan under the first manifest. -/
def listedToken : PlannerInput sampleValidation :=
  (catalog ⟨(tokenBinding false).withManifest listedManifest, [.insert], [.value], true⟩ :
    PlannerInput sampleValidation).withConfirmations
      [⟨"source.token", "target.token", (sampleRule "uuid.char36" .explicitConversion).reference,
        "plan under mysql80.exact.int.signed.32", "operator", "2026-01-01", none⟩]

theorem listedToken_sameEntries :
    listedToken.binding.manifest.SameEntries listedDigests reversedManifest where
  connector := rfl
  targetBuild := rfl
  contract := rfl
  requiresPrimaryKey := rfl
  capabilities := (List.reverse_perm _).symm
  verified := rfl

/-- The confirmation is for the plan under the first manifest alone. -/
theorem reversed_needsConfirmation :
    listedToken.binding.manifest.SameEntries listedDigests reversedManifest ∧ ∃ r r',
      listedToken.explain listedDigests = .ok r ∧ r.status = .compatible ∧
      (listedToken.withManifest reversedManifest).explain listedDigests = .ok r' ∧
      r'.status = .needsConfirmation :=
  ⟨listedToken_sameEntries, _, _, rfl, rfl, rfl, rfl⟩

theorem order_decides_digests_token : ∃ r r',
    listedToken.explain listedDigests = .ok r ∧
      (listedToken.withManifest reversedManifest).explain listedDigests = .ok r' ∧
      r'.candidates = r.candidates ∧ r'.rule = r.rule ∧
      r'.plan.map (·.target) = r.plan.map (·.target) := by
  obtain ⟨r, r', hr, hr'⟩ : ∃ r r', listedToken.explain listedDigests = .ok r ∧
      (listedToken.withManifest reversedManifest).explain listedDigests = .ok r' :=
    ⟨_, _, rfl, rfl⟩
  obtain ⟨hcandidates, hrule, htarget, -⟩ := (order_decides_digests listedDigests listedToken
    reversedManifest listedToken_sameEntries).2 r r' hr hr'
  exact ⟨r, r', hr, hr', hcandidates, hrule, htarget⟩

end Sample

end PlannerInput

end DatabaseSync.Planner
