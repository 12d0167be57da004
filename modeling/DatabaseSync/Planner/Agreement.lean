import DatabaseSync.Planner.KeySafety

/-! # The planners agree

What the transaction planner finds compatible, the catalog planner finds a plan of the same rule
for, if the fields have one key position and one collation. The digests of the plans differ, so
that a confirmation of the one does not settle the other.
-/

namespace DatabaseSync.Planner

open ChangeEvent Checked TargetRepresentation

variable {validation : ValidationLibrary} {library : DigestLibrary}

namespace CompatibilityInput

variable {x : CompatibilityInput validation} {hasPrimaryKey : Bool} {r : CompatibilityResult}
  {candidate : TargetTypeCandidate} {plan : ColumnConversionPlan}

/-- The fields of a transaction with its operations and presences. -/
def catalogInput (x : CompatibilityInput validation) (hasPrimaryKey : Bool) :
    FieldCompatibilityInput :=
  ⟨x.toPlanningInput, x.operations, x.presences, hasPrimaryKey⟩

/-! ## The checks on the input -/

theorem operations_ne_nil (h : x.fieldColumns ≠ []) : x.operations ≠ [] := by
  intro hoperations
  apply h
  have hchanges : x.changes = [] := List.map_eq_nil_iff.mp hoperations
  simp [fieldColumns, columns, hchanges]

theorem presences_ne_nil (h : x.fieldColumns ≠ []) : x.presences ≠ [] := by
  have hkeeps : ∀ (columns : List ColumnDatum) (presences : List PresenceState), presences ≠ [] →
      columns.foldl (fun presences column =>
        let presence := PresenceState.fromDatum column.datum column.generated
        if presences.contains presence then presences else presences ++ [presence]) presences ≠
          [] := by
    intro columns
    induction columns with
    | nil => exact fun _ hpresences => hpresences
    | cons column columns ih =>
      intro presences hpresences
      rw [List.foldl_cons]
      apply ih
      dsimp only
      split
      · exact hpresences
      · exact List.append_ne_nil_of_left_ne_nil hpresences _
  unfold presences
  obtain ⟨column, columns, hcolumns⟩ := List.exists_cons_of_ne_nil h
  rw [hcolumns, List.foldl_cons]
  apply hkeeps
  simp

/-- The catalog planner checks nothing that the transaction planner does not. -/
theorem validateFieldInput_catalogInput (h : x.validateInput library = .ok ()) :
    (x.catalogInput hasPrimaryKey).validateFieldInput library false = .ok () := by
  simp only [validateInput, bind_eq_ok, require_eq_ok, Bool.not_eq_true', List.isEmpty_eq_false_iff]
    at h
  obtain ⟨_, hbinding, _, -, _, hmanifest, _, hprobe, _, hcolumns, -⟩ := h
  have hoperations : (x.catalogInput hasPrimaryKey).operations ≠ [] := operations_ne_nil hcolumns
  have hpresences : (x.catalogInput hasPrimaryKey).presences ≠ [] := presences_ne_nil hcolumns
  simp only [FieldCompatibilityInput.validateFieldInput, bind_eq_ok, require_eq_ok,
    Bool.and_eq_true, Bool.not_eq_true', List.isEmpty_eq_false_iff]
  exact ⟨(), hbinding, (), ⟨hoperations, hpresences⟩, (), hmanifest, hprobe⟩

/-! ## The choice of the plan -/

theorem nativeType_planTarget {b : PlanningInput} (parameters : List (String × String)) :
    (b.planTarget library candidate parameters).nativeType = candidate.target.nativeType := by
  unfold PlanningInput.planTarget
  rw [nativeType_bindCollations, nativeType_bindSourceRepresentationEvidence,
    nativeType_planTargetRepresentation]

/-- Two plans of one rule and one target type. Only for bit strings do the catalogs add parameters
to the target. -/
structure SameChoice (x : PlanningInput) (p q : ColumnConversionPlan) : Prop where
  rule : p.rule = q.rule
  capabilityCode : p.capabilityCode = q.capabilityCode
  parameters : p.parameters = q.parameters
  nativeType : p.target.nativeType = q.target.nativeType
  target : x.sourceField.logicalType.isBitString = false → p.target = q.target

/-- The catalog planner takes the same candidate with the same parameters. -/
theorem choosePlan_catalogInput (h : x.choosePlan library = .ok (candidate, plan))
    (hkey : x.transactionHasKey = true → hasPrimaryKey = true)
    (hordinal : x.sourceField.primaryKeyOrdinal = x.targetField.primaryKeyOrdinal)
    (hcollation : (x.catalogInput hasPrimaryKey).fieldCollationMismatch = false) :
    ∃ q, (x.catalogInput hasPrimaryKey).choosePlan library = .ok (candidate, q) ∧
      SameChoice x.toPlanningInput q plan := by
  obtain ⟨hrequires, hmem, hselect, parameters, hparameters, rfl⟩ := choosePlan_eq_ok.mp h
  have hrequires' : (x.manifest.requiresPrimaryKey && !hasPrimaryKey) = false := by
    cases hhas : x.transactionHasKey with
    | true => simp [hkey hhas]
    | false =>
      rw [hhas, Bool.not_false, Bool.and_true] at hrequires
      rw [hrequires, Bool.false_and]
  refine ⟨(x.catalogInput hasPrimaryKey).buildFieldPlan library candidate
    (x.capabilityOf candidate hmem).rule parameters, ?_, rfl, rfl, rfl, ?_, ?_⟩
  · apply FieldCompatibilityInput.choosePlan_eq_ok.mpr
    refine ⟨hrequires', hordinal, by rw [hcollation, Bool.false_and], ?_⟩
    rw [hcollation]
    refine ⟨hmem, ?_, parameters, hparameters, ?_⟩
    · exact PlanningInput.selectCandidate_eq_ok hselect
    · exact (if_neg Bool.false_ne_true).symm
  · rw [FieldCompatibilityInput.target_buildFieldPlan, target_buildPlan, nativeType_planTarget,
      nativeType_planTarget]
  · intro hbits
    have hparameters : (x.catalogInput hasPrimaryKey).bitParameters parameters = parameters :=
      if_neg (Bool.eq_false_iff.mp hbits)
    rw [FieldCompatibilityInput.target_buildFieldPlan, target_buildPlan, hparameters]
    rfl

/-! ## The agreement -/

theorem settle_needsConfirmation_iff {b : PlanningInput} :
    (b.settle candidate plan).status = .needsConfirmation ↔
      candidate.requiresConfirmation = true ∧
        ∀ confirmation ∈ b.options.confirmations, ¬ Names confirmation plan := by
  have hnames : (∀ confirmation ∈ b.options.confirmations, ¬ Names confirmation plan) ↔
      b.options.confirmations.any plan.confirmationMatches = false := by
    simp only [List.any_eq_false, names_iff]
  rw [hnames]
  cases hrequires : candidate.requiresConfirmation with
  | false => simp [PlanningInput.settle, hrequires]
  | true =>
    cases hany : b.options.confirmations.any plan.confirmationMatches with
    | false => simp [PlanningInput.settle, hrequires, hany]
    | true => simp [PlanningInput.settle, hrequires, hany]

/-- The plan of a settled result differs from the chosen one in its confirmation alone. -/
theorem settle_plan (b : PlanningInput) (candidate : TargetTypeCandidate)
    (plan : ColumnConversionPlan) : ∃ confirmation,
    (b.settle candidate plan).plan = some { plan with confirmation := confirmation } := by
  unfold PlanningInput.settle
  dsimp only
  split
  · exact ⟨_, rfl⟩
  · exact ⟨plan.confirmation, rfl⟩

/-- What is compatible for the transaction planner has the same candidate, rule and target type for
the catalog planner, and is compatible there if no confirmation is needed or one names the plan of
the catalogs. -/
theorem catalog_agrees (h : explainCompatibility library x = .ok r)
    (hcompatible : r.status = .compatible)
    (hkey : x.transactionHasKey = true → hasPrimaryKey = true)
    (hordinal : x.sourceField.primaryKeyOrdinal = x.targetField.primaryKeyOrdinal)
    (hcollation : (x.catalogInput hasPrimaryKey).fieldCollationMismatch = false) :
    ∃ r' p p', explainFieldCompatibility library (x.catalogInput hasPrimaryKey) = .ok r' ∧
      r.plan = some p ∧ r'.plan = some p' ∧ SameChoice x.toPlanningInput p' p ∧
      r'.rule = r.rule ∧ r'.candidates = r.candidates ∧
      (r'.status = .compatible ∨ r'.status = .needsConfirmation) ∧
      (r'.status = .needsConfirmation ↔ r.requiresConfirmation = true ∧
        ∀ confirmation ∈ x.options.confirmations, ¬ Names confirmation p') := by
  obtain ⟨hcheck, hrefusal | ⟨candidate, plan, hchoose, rfl⟩⟩ :=
    PlannerInput.explain_ok (x := .transaction x) h
  · exact absurd hcompatible hrefusal.compatible
  obtain ⟨q, hcatalog, hsame⟩ := choosePlan_catalogInput hchoose hkey hordinal hcollation
  have hexplain : explainFieldCompatibility library (x.catalogInput hasPrimaryKey) =
      .ok ((x.catalogInput hasPrimaryKey).settle candidate q) :=
    PlannerInput.explain_settle (x := (.catalog (x.catalogInput hasPrimaryKey) :
      PlannerInput validation)) (validateFieldInput_catalogInput hcheck) hcatalog
  obtain ⟨state, hplan⟩ := settle_plan x.toPlanningInput candidate plan
  obtain ⟨state', hplan'⟩ := settle_plan x.toPlanningInput candidate q
  refine ⟨_, _, _, hexplain, hplan, hplan',
    ⟨hsame.rule, hsame.capabilityCode, hsame.parameters, hsame.nativeType, hsame.target⟩, rfl, rfl,
    PlannerInput.status_settle, ?_⟩
  refine settle_needsConfirmation_iff.trans (and_congr_right fun _ => ?_)
  -- a confirmation does not name the state it confirms
  have hnames : ∀ confirmation, Names confirmation q ↔
      Names confirmation { q with confirmation := state' } := by
    intro confirmation
    rw [names_iff, names_iff]
    exact Iff.rfl
  simp only [hnames]
  exact Iff.rfl

section Sample

/-- The insertion of a row with its key and its UUID. -/
def tokenTransaction : ChangeTransaction where
  source := ⟨"postgresql", "15.6", "publication"⟩
  id := "0/16B3748"
  beginCursor := ⟨"postgresql-lsn", "0/16B3740", "1"⟩
  commitCursor := ⟨"postgresql-lsn", "0/16B3748", "2"⟩
  changes := [
    { database := none
      operation := .insert
      schema := "public"
      table := "session"
      sourceCursor := ⟨"postgresql-lsn", "0/16B3748", "2"⟩
      sourceTimestamp := 0
      schemaBasis := "snapshot"
      before := none
      after := some [⟨0, "id", "integer", some 0, false, none, .value (.integer true 32 "1")⟩,
        ⟨1, "token", "uuid", none, false, none,
          .value (.uuid "00000000-0000-0000-0000-000000000001")⟩] }]

/-- The UUID column with a confirmation of its plan for the transaction. -/
def confirmedToken : CompatibilityInput sampleValidation :=
  CompatibilityInput.withConfirmations ⟨tokenBinding false, ⟨tokenTransaction, by decide +kernel⟩⟩
    [⟨"source.token", "target.token", (sampleRule "uuid.char36" .explicitConversion).reference,
      "plan of transaction 0/16B3748", "operator", "2026-01-01", none⟩]

/-- The confirmation is for the plan of the transaction and not for that of the catalogs. -/
theorem confirmedToken_needsConfirmation : ∃ r r',
    explainCompatibility sampleDigests confirmedToken = .ok r ∧ r.status = .compatible ∧
      explainFieldCompatibility sampleDigests (confirmedToken.catalogInput true) = .ok r' ∧
      r'.status = .needsConfirmation :=
  ⟨_, _, rfl, rfl, rfl, rfl⟩

theorem catalog_agrees_token : ∃ r r' p p',
    explainCompatibility sampleDigests confirmedToken = .ok r ∧
      explainFieldCompatibility sampleDigests (confirmedToken.catalogInput true) = .ok r' ∧
      r.plan = some p ∧ r'.plan = some p' ∧ p'.rule = p.rule ∧ p'.target = p.target := by
  obtain ⟨r, hexplain, hcompatible⟩ : ∃ r,
      explainCompatibility sampleDigests confirmedToken = .ok r ∧ r.status = .compatible :=
    ⟨_, rfl, rfl⟩
  obtain ⟨r', p, p', hcatalog, hplan, hplan', hsame, -⟩ :=
    catalog_agrees hexplain hcompatible (fun _ => rfl) rfl rfl
  exact ⟨r, r', p, p', hexplain, hcatalog, hplan, hplan', hsame.rule, hsame.target rfl⟩

/-- The key of the transaction at another position in the key of the target. -/
def movedKey : CompatibilityInput sampleValidation :=
  ⟨sampleBinding (sampleField "source" 0 "id" "integer" (.integer true 32) (some 0) false)
    (sampleField "target" 0 "id" "int" (.integer true 32) (some 1) false),
    ⟨tokenTransaction, by decide +kernel⟩⟩

-- only the catalog planner looks at the position
example : (explainCompatibility sampleDigests movedKey).map (·.status) = .ok .compatible ∧
    (explainFieldCompatibility sampleDigests (movedKey.catalogInput true)).map (·.status) =
      .ok .blocked :=
  ⟨rfl, rfl⟩

end Sample

end CompatibilityInput

end DatabaseSync.Planner
