import DatabaseSync.Library.Search
import DatabaseSync.Library.Sorting
import DatabaseSync.Planner.LogicalType
import Mathlib.Data.List.Pairwise
import Mathlib.Data.String.Basic

/-! # Closures of type definitions

The definition of a column's type is recorded with those of all types that it is made of, and with
the extensions that these come from. The builder takes extension names in the order of their
spelling, the checker in that of their lower case.
-/

namespace DatabaseSync.PostgresqlSource

open Checked Planner Search Sorting Text

/-! ## The catalog -/

structure SourceTypeField where
  name : String
  typeOid : ℕ
  nullable : Bool

inductive SourceTypeDefinitionKind
  | pseudo
  | builtin (nativeType : String)
  | enum (labels : List String)
  | domain (baseOid : ℕ) (constraints : List String) (notNull : Bool)
  | composite (fields : List SourceTypeField)
  | array (elementOid : ℕ) (delimiter : Char)
  | range (subtypeOid : ℕ)
  | multiRange (rangeOid : ℕ)
  | extension (extension : String) (codecIdentity : Option String) (encoding : String)
      (logicalType : Option LogicalType)

structure SourceTypeDefinition where
  oid : ℕ
  schema : String
  name : String
  kind : SourceTypeDefinitionKind
  collation : Option String
  definitionDigest : String

structure SourceExtension where
  name : String
  version : String
  schema : String
  installed : Bool
  available : Bool
  targetCompatible : Option Bool

structure SourceTypeCatalog where
  types : List SourceTypeDefinition
  extensions : List SourceExtension

structure SourceTypeDefinitionClosure where
  types : List SourceTypeDefinition
  extensions : List SourceExtension

/-- The digest of the parts of a definition. -/
abbrev DefinitionDigest :=
  ℕ → (schema name : String) → SourceTypeDefinitionKind → (collation : Option String) → String

def expectedDefinitionDigest (digest : DefinitionDigest) (definition : SourceTypeDefinition) :
    String :=
  digest definition.oid definition.schema definition.name definition.kind definition.collation

def typeDefinitionDependencies (definition : SourceTypeDefinition) : List ℕ :=
  match definition.kind with
  | .domain baseOid _ _ => [baseOid]
  | .composite fields => fields.map (·.typeOid)
  | .array elementOid _ => [elementOid]
  | .range subtypeOid => [subtypeOid]
  | .multiRange rangeOid => [rangeOid]
  | _ => []

/-- The extension that a type comes from. -/
def SourceTypeDefinition.extension? (definition : SourceTypeDefinition) : Option String :=
  match definition.kind with
  | .extension extension _ _ _ => some extension
  | _ => none

def findDefinition (types : List SourceTypeDefinition) (oid : ℕ) : Option SourceTypeDefinition :=
  types.find? (·.oid == oid)

/-! ## The builder -/

inductive ClosureError
  | unfinished
  | invalid (message : String)
deriving DecidableEq, Repr

def findExtension (catalog : SourceTypeCatalog) (name : String) :
    Except ClosureError SourceExtension :=
  match catalog.extensions.find? (eqIgnoreAsciiCase ·.name name) with
  | some extension => .ok extension
  | none => .error (.invalid ("PostgreSQL extension evidence for " ++ name ++ " is missing"))

/-- The visits are as deep as there are types, at most. -/
def SourceTypeCatalog.definitionClosure (catalog : SourceTypeCatalog) (rootOid : ℕ) :
    Except ClosureError SourceTypeDefinitionClosure :=
  match visit (findDefinition catalog.types) typeDefinitionDependencies (catalog.types.length + 1)
      rootOid ⟨[], []⟩ with
  | .error .unfinished => .error .unfinished
  | .error (.missing oid) =>
    .error (.invalid ("PostgreSQL type dependency OID " ++ toString oid ++ " is missing"))
  | .ok trail => do
    let types := trail.found.insertionSort fun a b => a.oid ≤ b.oid
    let extensionNames :=
      sortedOnce (· == ·) id (types.filterMap SourceTypeDefinition.extension?)
    let extensions ← extensionNames.mapM (findExtension catalog)
    return ⟨types, extensions⟩

/-! ## The checker -/

/-- As many steps as there are references between the types. -/
def explorationSteps (types : List SourceTypeDefinition) : ℕ :=
  (types.map fun definition => (typeDefinitionDependencies definition).length).sum + 2

def validateTypeDefinitionClosure (digest : DefinitionDigest)
    (closure : SourceTypeDefinitionClosure) (rootOid : ℕ) : Bool :=
  let oids := closure.types.map (·.oid)
  if oids.dedup.length ≠ closure.types.length ∨ rootOid ∉ oids ∨ ¬ ascending oids then false
  else if closure.types.any fun definition =>
      definition.definitionDigest != expectedDefinitionDigest digest definition then false
  else
    let requiredExtensions := sortedOnce eqIgnoreAsciiCase toAsciiLowercase
      (closure.types.filterMap SourceTypeDefinition.extension?)
    if requiredExtensions.length ≠ closure.extensions.length ∨
        closure.extensions.any (fun extension =>
          !extension.installed || isBlank extension.version || isBlank extension.schema) ∨
        ¬ ascending (closure.extensions.map fun extension => toAsciiLowercase extension.name) ∨
        (requiredExtensions.zip closure.extensions).any fun (required, actual) =>
          !eqIgnoreAsciiCase required actual.name then false
    else
      match explore (findDefinition closure.types) typeDefinitionDependencies
          (explorationSteps closure.types) [] [rootOid] with
      | .ok reachable => reachable.length == closure.types.length
      | .error _ => false

/-! ## Sound closures -/

namespace SourceTypeCatalog

/-- Distinct OIDs, digests as they are computed and installed extensions. -/
structure Finalized (digest : DefinitionDigest) (catalog : SourceTypeCatalog) : Prop where
  distinct : (catalog.types.map (·.oid)).Nodup
  digests : ∀ definition ∈ catalog.types,
    definition.definitionDigest = expectedDefinitionDigest digest definition
  installed : ∀ extension ∈ catalog.extensions, extension.installed = true

variable (catalog : SourceTypeCatalog) (rootOid : ℕ)

/-- The OIDs that the root is made of. -/
def Reached (oid : ℕ) : Prop :=
  Reaches (findDefinition catalog.types) typeDefinitionDependencies rootOid oid

/-- The spellings of the extensions that the reached types come from. -/
def UsedSpelling (name : String) : Prop :=
  ∃ definition ∈ catalog.types, catalog.Reached rootOid definition.oid ∧
    definition.extension? = some name

/-- The spellings that are used keep their order in lower case, and the records that are found for
them have a version and a schema. -/
structure SpellingsOrdered : Prop where
  order : ∀ a b, catalog.UsedSpelling rootOid a → catalog.UsedSpelling rootOid b → a < b →
    toAsciiLowercase a < toAsciiLowercase b
  named : ∀ name extension, catalog.UsedSpelling rootOid name →
    findExtension catalog name = .ok extension →
      isBlank extension.version = false ∧ isBlank extension.schema = false

/-- The types of the closure are those that are reached, in the order of their OIDs, with a record
for each extension. The checker takes the closure, and takes no other with a type less or more. -/
structure SoundClosure (digest : DefinitionDigest) (closure : SourceTypeDefinitionClosure) :
    Prop where
  types_iff : ∀ definition, definition ∈ closure.types ↔
    definition ∈ catalog.types ∧ catalog.Reached rootOid definition.oid
  reached : ∀ oid, catalog.Reached rootOid oid → ∃ definition ∈ closure.types, definition.oid = oid
  order : (closure.types.map (·.oid)).Pairwise (· < ·)
  records : (closure.extensions.map fun extension => toAsciiLowercase extension.name).Nodup ∧
    ∀ name, name ∈ (closure.extensions.map fun extension => toAsciiLowercase extension.name) ↔
      ∃ spelling, catalog.UsedSpelling rootOid spelling ∧ toAsciiLowercase spelling = name
  accepted : validateTypeDefinitionClosure digest closure rootOid = true
  removed : ∀ definition types extensions, closure.types.Perm (definition :: types) →
    validateTypeDefinitionClosure digest ⟨types, extensions⟩ rootOid = false
  added : ∀ definition types extensions, types.Perm (definition :: closure.types) →
    validateTypeDefinitionClosure digest ⟨types, extensions⟩ rootOid = false

end SourceTypeCatalog

/-! ## Lookups -/

section

variable {types : List SourceTypeDefinition} {definition : SourceTypeDefinition}
  {oid rootOid : ℕ}

theorem eqIgnoreAsciiCase_iff {a b : String} :
    eqIgnoreAsciiCase a b = true ↔ toAsciiLowercase a = toAsciiLowercase b := by
  rw [eqIgnoreAsciiCase, beq_iff_eq, toAsciiLowercase, toAsciiLowercase, String.ofList_inj]

theorem findDefinition_eq_some (h : findDefinition types oid = some definition) :
    definition ∈ types ∧ definition.oid = oid :=
  ⟨List.mem_of_find?_eq_some h, by simpa using List.find?_some h⟩

theorem findDefinition_mem (h : findDefinition types oid = some definition) :
    oid ∈ types.map (·.oid) := by
  obtain ⟨hmem, rfl⟩ := findDefinition_eq_some h
  exact List.mem_map_of_mem hmem

/-- With distinct OIDs a definition is found under its own. -/
theorem findDefinition_of_mem (hdistinct : (types.map (·.oid)).Nodup) (h : definition ∈ types) :
    findDefinition types definition.oid = some definition := by
  cases hfind : findDefinition types definition.oid with
  | none =>
    have hnot := List.find?_eq_none.mp hfind definition h
    simp at hnot
  | some found =>
    obtain ⟨hfound, hoid⟩ := findDefinition_eq_some hfind
    rw [List.inj_on_of_nodup_map hdistinct hfound h hoid]

/-! ## What the checker takes -/

/-- The types of an accepted closure are those that its root is made of. -/
theorem reaches_iff_of_validate {digest : DefinitionDigest} {extensions : List SourceExtension}
    (h : validateTypeDefinitionClosure digest ⟨types, extensions⟩ rootOid = true) :
    (types.map (·.oid)).Nodup ∧ ∀ oid,
      Reaches (findDefinition types) typeDefinitionDependencies rootOid oid ↔
        oid ∈ types.map (·.oid) := by
  unfold validateTypeDefinitionClosure at h
  dsimp only at h
  split at h
  · cases h
  · next hoids =>
    split at h
    · cases h
    · split at h
      · cases h
      · split at h
        · next reachable hexplore =>
          have hlength : reachable.length = types.length := by simpa using h
          simp only [not_or, not_not] at hoids
          have hnodup : (types.map (·.oid)).Nodup := (ascending_iff.mp hoids.2.2).imp ne_of_lt
          obtain ⟨hgrown, hroot⟩ := explore_grown hexplore
          have hroot : rootOid ∈ reachable := hroot (List.mem_singleton.mpr rfl)
          have hsub : reachable ⊆ types.map (·.oid) := by
            intro a ha
            obtain ⟨node, hnode, -⟩ := hgrown.closed a ha List.not_mem_nil
            exact findDefinition_mem hnode
          have hperm : reachable.Perm (types.map (·.oid)) := by
            refine List.Subperm.perm_of_length_le
              (List.subperm_of_subset (hgrown.nodup List.nodup_nil) hsub) ?_
            rw [List.length_map, hlength]
          refine ⟨hnodup, fun oid => ?_⟩
          rw [← hgrown.mem_iff hroot, hperm.mem_iff]
        · cases h

/-! ## What the builder returns -/

/-- The spellings of the extensions that types come from, each of them once. -/
def spellings (types : List SourceTypeDefinition) : List String :=
  sortedOnce (· == ·) id (types.filterMap SourceTypeDefinition.extension?)

theorem spellings_ascend : (spellings types).Pairwise (· < ·) ∧
    ∀ name, name ∈ spellings types ↔ ∃ definition ∈ types, definition.extension? = some name := by
  obtain ⟨hpairs, hmem⟩ := @sortedOnce_keys String String _ id (· == ·)
    (types.filterMap SourceTypeDefinition.extension?) fun a b => beq_iff_eq
  rw [List.map_id] at hpairs
  refine ⟨hpairs, fun name => ?_⟩
  have hname := hmem name
  rw [List.map_id, List.map_id] at hname
  rw [spellings, hname, List.mem_filterMap]

variable {digest : DefinitionDigest} {catalog : SourceTypeCatalog}
  {closure : SourceTypeDefinitionClosure}

/-- The types that are reached, in their order, and the records of their extensions. -/
structure Built (catalog : SourceTypeCatalog) (rootOid : ℕ)
    (closure : SourceTypeDefinitionClosure) : Prop where
  types_iff : ∀ definition, definition ∈ closure.types ↔
    definition ∈ catalog.types ∧ catalog.Reached rootOid definition.oid
  reached : ∀ oid, catalog.Reached rootOid oid → ∃ definition ∈ closure.types, definition.oid = oid
  order : (closure.types.map (·.oid)).Pairwise (· < ·)
  records : List.Forall₂ (fun name extension => findExtension catalog name = .ok extension)
    (spellings closure.types) closure.extensions

theorem built_of_ok (h : catalog.Finalized digest)
    (hclosure : catalog.definitionClosure rootOid = .ok closure) :
    Built catalog rootOid closure := by
  unfold SourceTypeCatalog.definitionClosure at hclosure
  split at hclosure
  · cases hclosure
  · cases hclosure
  · next trail hvisit =>
    obtain ⟨extensions, hextensions, hresult⟩ := bind_eq_ok.mp hclosure
    obtain rfl := Except.ok.inj hresult
    obtain ⟨hgrown, hroot, hmatches⟩ := visit_grown hvisit
    have hfound := hmatches .nil
    have hseen : ∀ oid, oid ∈ trail.seen ↔ catalog.Reached rootOid oid := fun oid =>
      hgrown.mem_iff hroot
    have hperm := List.perm_insertionSort
      (fun a b : SourceTypeDefinition => a.oid ≤ b.oid) trail.found
    have hoids : trail.found.map (·.oid) = trail.seen.reverse := by
      have hsame : ∀ {keys : List ℕ} {nodes : List SourceTypeDefinition},
          List.Forall₂ (fun key node => findDefinition catalog.types key = some node) keys nodes →
            nodes.map (·.oid) = keys := by
        intro keys nodes hall
        induction hall with
        | nil => rfl
        | cons hnode _ ih => rw [List.map_cons, ih, (findDefinition_eq_some hnode).2]
      exact hsame hfound
    have hmem : ∀ definition, definition ∈ trail.found ↔
        definition ∈ catalog.types ∧ catalog.Reached rootOid definition.oid := by
      intro definition
      rw [← hseen]
      constructor
      · intro hdefinition
        obtain ⟨key, hkey, hnode⟩ := forall₂_mem_right hfound hdefinition
        obtain ⟨hin, rfl⟩ := findDefinition_eq_some hnode
        exact ⟨hin, List.mem_reverse.mp hkey⟩
      · rintro ⟨hin, hkey⟩
        obtain ⟨node, hnode, hlookup⟩ :=
          forall₂_mem_left hfound (List.mem_reverse.mpr hkey)
        rw [findDefinition_of_mem h.distinct hin] at hlookup
        obtain rfl := Option.some.inj hlookup
        exact hnode
    refine ⟨?_, ?_, ?_, ?_⟩
    · intro definition
      rw [hperm.mem_iff, hmem]
    · intro oid hreached
      have hin : oid ∈ trail.found.map (·.oid) := by
        rw [hoids, List.mem_reverse, hseen]
        exact hreached
      obtain ⟨definition, hdefinition, rfl⟩ := List.mem_map.mp hin
      exact ⟨definition, hperm.mem_iff.mpr hdefinition, rfl⟩
    · have htotal : Std.Total fun a b : SourceTypeDefinition => a.oid ≤ b.oid :=
        ⟨fun a b => le_total _ _⟩
      have htrans : IsTrans SourceTypeDefinition fun a b => a.oid ≤ b.oid :=
        ⟨fun _ _ _ => le_trans⟩
      have hsorted := List.pairwise_insertionSort
        (fun a b : SourceTypeDefinition => a.oid ≤ b.oid) trail.found
      have hnodup : ((trail.found.insertionSort fun a b => a.oid ≤ b.oid).map (·.oid)).Nodup := by
        rw [(hperm.map (·.oid)).nodup_iff, hoids, List.nodup_reverse]
        exact hgrown.nodup List.nodup_nil
      exact (List.pairwise_map.mpr hsorted).imp₂ (fun a b hle hne => lt_of_le_of_ne hle hne) hnodup
    · exact mapM_eq_ok hextensions

/-- The builder comes to an end. -/
theorem definitionClosure_finishes : catalog.definitionClosure rootOid ≠ .error .unfinished := by
  have hvisit : visit (findDefinition catalog.types) typeDefinitionDependencies
      (catalog.types.length + 1) rootOid ⟨[], []⟩ ≠ .error .unfinished := by
    apply visit_finishes fun a node hnode => findDefinition_mem hnode
    simp [unseenWeight, Function.comp_def]
  unfold SourceTypeCatalog.definitionClosure
  split
  · next herror => exact absurd herror hvisit
  · intro h
    cases h
  · intro h
    rcases bind_eq_error.mp h with herror | ⟨extensions, -, hresult⟩
    · obtain ⟨name, -, hname⟩ := mapM_eq_error herror
      unfold findExtension at hname
      split at hname
      · cases hname
      · cases hname
    · cases hresult

/-! ## The graph of a closure -/

theorem Built.distinct (h : Built catalog rootOid closure) : (closure.types.map (·.oid)).Nodup :=
  h.order.imp ne_of_lt

theorem Built.mem_oids_iff (h : Built catalog rootOid closure) :
    oid ∈ closure.types.map (·.oid) ↔ catalog.Reached rootOid oid := by
  constructor
  · intro hoid
    obtain ⟨definition, hdefinition, rfl⟩ := List.mem_map.mp hoid
    exact ((h.types_iff definition).mp hdefinition).2
  · intro hreached
    obtain ⟨definition, hdefinition, rfl⟩ := h.reached oid hreached
    exact List.mem_map_of_mem hdefinition

/-- The closure has everything that its types refer to. -/
theorem Built.closed (hcatalog : catalog.Finalized digest) (h : Built catalog rootOid closure)
    (hdefinition : definition ∈ closure.types)
    (hoid : oid ∈ typeDefinitionDependencies definition) :
    oid ∈ closure.types.map (·.oid) := by
  obtain ⟨hin, hreached⟩ := (h.types_iff definition).mp hdefinition
  rw [h.mem_oids_iff]
  exact .tail hreached ⟨definition, findDefinition_of_mem hcatalog.distinct hin, hoid⟩

/-- What is reached stays in the closure when its types keep their definitions. -/
theorem Built.reaches_closed (hcatalog : catalog.Finalized digest)
    (h : Built catalog rootOid closure)
    (hkeep : ∀ node oid, oid ∈ closure.types.map (·.oid) → findDefinition types oid = some node →
      node ∈ closure.types)
    (hreach : Reaches (findDefinition types) typeDefinitionDependencies rootOid oid) :
    oid ∈ closure.types.map (·.oid) := by
  induction hreach with
  | refl => exact h.mem_oids_iff.mpr .refl
  | tail _ hedge ih =>
    obtain ⟨node, hnode, hmem⟩ := hedge
    exact h.closed hcatalog (hkeep node _ ih hnode) hmem

/-- With a type less the checker misses an OID. -/
theorem Built.removed (hcatalog : catalog.Finalized digest) (h : Built catalog rootOid closure)
    {extensions : List SourceExtension} (hperm : closure.types.Perm (definition :: types)) :
    validateTypeDefinitionClosure digest ⟨types, extensions⟩ rootOid = false := by
  rw [Bool.eq_false_iff]
  intro hvalid
  obtain ⟨-, hreaches⟩ := reaches_iff_of_validate hvalid
  have hoids := hperm.map (·.oid)
  have hdistinct := h.distinct
  rw [hoids.nodup_iff, List.map_cons, List.nodup_cons] at hdistinct
  have hsub : types ⊆ catalog.types := by
    intro other hother
    exact ((h.types_iff other).mp (hperm.mem_iff.mpr (List.mem_cons_of_mem _ hother))).1
  -- Along the path to the type that is missing, every type is there.
  have hall : ∀ oid, catalog.Reached rootOid oid →
      Reaches (findDefinition types) typeDefinitionDependencies rootOid oid := by
    intro oid hreached
    induction hreached with
    | refl => exact .refl
    | tail _ hedge ih =>
      obtain ⟨node, hnode, hmem⟩ := hedge
      obtain ⟨other, hother, hoid⟩ := List.mem_map.mp ((hreaches _).mp ih)
      have hsame : node = other := by
        obtain ⟨hin, hkey⟩ := findDefinition_eq_some hnode
        exact List.inj_on_of_nodup_map hcatalog.distinct hin (hsub hother) (hkey.trans hoid.symm)
      subst hsame
      refine .tail ih ⟨node, ?_, hmem⟩
      rw [← hoid]
      exact findDefinition_of_mem hdistinct.2 hother
  have hin := (h.types_iff definition).mp (hperm.mem_iff.mpr List.mem_cons_self)
  exact hdistinct.1 ((hreaches _).mp (hall _ hin.2))

/-- A type more is not reached. -/
theorem Built.added (hcatalog : catalog.Finalized digest) (h : Built catalog rootOid closure)
    {extensions : List SourceExtension} (hperm : types.Perm (definition :: closure.types)) :
    validateTypeDefinitionClosure digest ⟨types, extensions⟩ rootOid = false := by
  rw [Bool.eq_false_iff]
  intro hvalid
  obtain ⟨hnodup, hreaches⟩ := reaches_iff_of_validate hvalid
  have hdistinct := hnodup
  rw [(hperm.map (·.oid)).nodup_iff, List.map_cons, List.nodup_cons] at hdistinct
  have hmem : definition.oid ∈ types.map (·.oid) :=
    List.mem_map_of_mem (hperm.mem_iff.mpr List.mem_cons_self)
  refine hdistinct.1 (h.reaches_closed hcatalog ?_ ((hreaches _).mpr hmem))
  intro node oid hoid hnode
  obtain ⟨other, hother, rfl⟩ := List.mem_map.mp hoid
  obtain ⟨hin, hkey⟩ := findDefinition_eq_some hnode
  have hsame := List.inj_on_of_nodup_map hnodup hin
    (hperm.mem_iff.mpr (List.mem_cons_of_mem _ hother)) hkey
  rwa [hsame]

/-- The checker finds every type of the closure again. -/
theorem Built.explored (hcatalog : catalog.Finalized digest) (h : Built catalog rootOid closure) :
    ∃ reachable, explore (findDefinition closure.types) typeDefinitionDependencies
        (explorationSteps closure.types) [] [rootOid] = .ok reachable ∧
      reachable.length = closure.types.length := by
  have hdegrees : unseenWeight (closure.types.map (·.oid))
      (degree (findDefinition closure.types) typeDefinitionDependencies) [] =
        (closure.types.map fun d => (typeDefinitionDependencies d).length).sum := by
    rw [unseenWeight, List.filter_eq_self.mpr (by simp), List.map_map]
    refine congrArg List.sum (List.map_congr_left fun d hd => ?_)
    rw [Function.comp_apply, degree, findDefinition_of_mem h.distinct hd]
    rfl
  cases hexplore : explore (findDefinition closure.types) typeDefinitionDependencies
      (explorationSteps closure.types) [] [rootOid] with
  | error e =>
    cases e with
    | unfinished =>
      refine absurd hexplore (explore_finishes (fun a node hnode => findDefinition_mem hnode) ?_)
      rw [hdegrees, explorationSteps, List.length_singleton]
      omega
    | missing key =>
      obtain ⟨hnone, start, hstart, hreach⟩ := explore_missing hexplore
      obtain rfl := List.mem_singleton.mp hstart
      have hmem := h.reaches_closed hcatalog
        (fun node oid _ hnode => (findDefinition_eq_some hnode).1) hreach
      obtain ⟨definition, hdefinition, rfl⟩ := List.mem_map.mp hmem
      rw [findDefinition_of_mem h.distinct hdefinition] at hnone
      cases hnone
  | ok reachable =>
    refine ⟨reachable, rfl, ?_⟩
    obtain ⟨hgrown, hroot⟩ := explore_grown hexplore
    have hroot : rootOid ∈ reachable := hroot (List.mem_singleton.mpr rfl)
    have hperm : reachable.Perm (closure.types.map (·.oid)) := by
      rw [List.perm_ext_iff_of_nodup (hgrown.nodup List.nodup_nil) h.distinct]
      intro oid
      rw [hgrown.mem_iff hroot]
      constructor
      · exact h.reaches_closed hcatalog fun node oid _ hnode => (findDefinition_eq_some hnode).1
      · intro hoid
        have hreached := h.mem_oids_iff.mp hoid
        clear hoid
        induction hreached with
        | refl => exact .refl
        | tail hpath hedge ih =>
          obtain ⟨node, hnode, hmem⟩ := hedge
          obtain ⟨hin, rfl⟩ := findDefinition_eq_some hnode
          exact .tail ih ⟨node, findDefinition_of_mem h.distinct
            ((h.types_iff node).mpr ⟨hin, hpath⟩), hmem⟩
    rw [hperm.length_eq, List.length_map]

/-! ## The records of extensions -/

theorem findExtension_eq_ok {name : String} {extension : SourceExtension}
    (h : findExtension catalog name = .ok extension) :
    extension ∈ catalog.extensions ∧
      toAsciiLowercase extension.name = toAsciiLowercase name := by
  unfold findExtension at h
  split at h
  · next found hfind =>
    obtain rfl := Except.ok.inj h
    have hname : eqIgnoreAsciiCase found.name name = true := by
      simpa using List.find?_some hfind
    exact ⟨List.mem_of_find?_eq_some hfind, eqIgnoreAsciiCase_iff.mp hname⟩
  · cases h

theorem Built.spelling_iff (h : Built catalog rootOid closure) {name : String} :
    name ∈ spellings closure.types ↔ catalog.UsedSpelling rootOid name := by
  rw [spellings_ascend.2]
  constructor
  · rintro ⟨definition, hdefinition, hname⟩
    obtain ⟨hin, hreached⟩ := (h.types_iff definition).mp hdefinition
    exact ⟨definition, hin, hreached, hname⟩
  · rintro ⟨definition, hin, hreached, hname⟩
    exact ⟨definition, (h.types_iff definition).mpr ⟨hin, hreached⟩, hname⟩

/-- The records have the names of the spellings, in lower case. -/
theorem Built.records_lower (h : Built catalog rootOid closure) :
    (closure.extensions.map fun extension => toAsciiLowercase extension.name) =
      (spellings closure.types).map toAsciiLowercase := by
  have hsame : ∀ {names : List String} {extensions : List SourceExtension},
      List.Forall₂ (fun name extension => findExtension catalog name = .ok extension) names
        extensions → (extensions.map fun extension => toAsciiLowercase extension.name) =
          names.map toAsciiLowercase := by
    intro names extensions hall
    induction hall with
    | nil => rfl
    | cons hname _ ih => rw [List.map_cons, List.map_cons, ih, (findExtension_eq_ok hname).2]
  exact hsame h.records

/-- The checker's test of the records. -/
def recordsFail (closure : SourceTypeDefinitionClosure) : Prop :=
  (sortedOnce eqIgnoreAsciiCase toAsciiLowercase
      (closure.types.filterMap SourceTypeDefinition.extension?)).length ≠
      closure.extensions.length ∨
    closure.extensions.any (fun extension =>
      !extension.installed || isBlank extension.version || isBlank extension.schema) ∨
    ¬ ascending (closure.extensions.map fun extension => toAsciiLowercase extension.name) ∨
    ((sortedOnce eqIgnoreAsciiCase toAsciiLowercase
      (closure.types.filterMap SourceTypeDefinition.extension?)).zip closure.extensions).any
        fun (required, actual) => !eqIgnoreAsciiCase required actual.name

theorem Built.validate_iff (hcatalog : catalog.Finalized digest)
    (h : Built catalog rootOid closure) :
    validateTypeDefinitionClosure digest closure rootOid = true ↔ ¬ recordsFail closure := by
  have hroot : rootOid ∈ closure.types.map (·.oid) := h.mem_oids_iff.mpr .refl
  have hdedup : (closure.types.map (·.oid)).dedup.length = closure.types.length := by
    rw [h.distinct.dedup, List.length_map]
  have hascending : ascending (closure.types.map (·.oid)) = true := ascending_iff.mpr h.order
  have hdigests : (closure.types.any fun definition =>
      definition.definitionDigest != expectedDefinitionDigest digest definition) = false := by
    rw [List.any_eq_false]
    intro definition hdefinition
    rw [hcatalog.digests definition ((h.types_iff definition).mp hdefinition).1]
    simp
  obtain ⟨reachable, hexplore, hlength⟩ := h.explored hcatalog
  unfold validateTypeDefinitionClosure
  simp only [hdedup, hroot, hascending, hdigests, hexplore, hlength, ne_eq, not_true_eq_false,
    or_self, if_false, Bool.false_eq_true, beq_self_eq_true]
  constructor
  · intro hvalid hfail
    unfold recordsFail at hfail
    rw [if_pos hfail] at hvalid
    cases hvalid
  · intro hpass
    unfold recordsFail at hpass
    rw [if_neg hpass]

/-- Lists with the same images agree place by place. -/
theorem zip_of_map_eq {α β κ : Type} {f : α → κ} {g : β → κ} {l : List α} {l' : List β}
    (h : l.map f = l'.map g) {p : α × β} (hp : p ∈ l.zip l') : f p.1 = g p.2 := by
  induction l generalizing l' with
  | nil => cases hp
  | cons a l ih =>
    cases l' with
    | nil => cases hp
    | cons b l' =>
      obtain ⟨hfirst, hrest⟩ := List.cons.inj h
      rw [List.zip_cons_cons] at hp
      rcases List.mem_cons.mp hp with rfl | hp
      · exact hfirst
      · exact ih hrest hp

/-- The records pass when the spellings that are used keep their order. -/
theorem Built.records_pass (hcatalog : catalog.Finalized digest)
    (h : Built catalog rootOid closure) (hordered : catalog.SpellingsOrdered rootOid) :
    ¬ recordsFail closure := by
  have hlower : ((spellings closure.types).map toAsciiLowercase).Pairwise (· < ·) := by
    rw [List.pairwise_map]
    refine spellings_ascend.1.imp_of_mem fun ha hb hlt => ?_
    exact hordered.order _ _ (h.spelling_iff.mp ha) (h.spelling_iff.mp hb) hlt
  obtain ⟨hrequired, hmem⟩ := @sortedOnce_keys String String _ toAsciiLowercase eqIgnoreAsciiCase
    (closure.types.filterMap SourceTypeDefinition.extension?) fun a b => eqIgnoreAsciiCase_iff
  -- The checker's names and the builder's are the same in lower case.
  have hsame : (sortedOnce eqIgnoreAsciiCase toAsciiLowercase
      (closure.types.filterMap SourceTypeDefinition.extension?)).map toAsciiLowercase =
      closure.extensions.map fun extension => toAsciiLowercase extension.name := by
    rw [h.records_lower]
    refine eq_of_ascending hrequired hlower fun k => ?_
    rw [hmem, List.mem_map, List.mem_map]
    refine exists_congr fun name => and_congr_left fun _ => ?_
    rw [spellings_ascend.2, List.mem_filterMap]
  rintro (hlength | hany | hascending | hzip)
  · apply hlength
    rw [← List.length_map (f := toAsciiLowercase), hsame, List.length_map]
  · obtain ⟨extension, hextension, hbad⟩ := List.any_eq_true.mp hany
    obtain ⟨name, hname, hfind⟩ := forall₂_mem_right h.records hextension
    obtain ⟨hversion, hschema⟩ := hordered.named name extension (h.spelling_iff.mp hname) hfind
    rw [hcatalog.installed extension (findExtension_eq_ok hfind).1, hversion, hschema] at hbad
    cases hbad
  · apply hascending
    rw [ascending_iff, h.records_lower]
    exact hlower
  · obtain ⟨p, hp, hbad⟩ := List.any_eq_true.mp hzip
    have hequal : eqIgnoreAsciiCase p.1 p.2.name = true :=
      eqIgnoreAsciiCase_iff.mpr (zip_of_map_eq hsame hp)
    simp [hequal] at hbad

/-- A closure whose records pass has spellings that keep their order. -/
theorem Built.spellings_ordered (h : Built catalog rootOid closure)
    (hpass : ¬ recordsFail closure) : catalog.SpellingsOrdered rootOid := by
  simp only [recordsFail, not_or, not_not] at hpass
  obtain ⟨-, hany, hascending, -⟩ := hpass
  rw [ascending_iff, h.records_lower, List.pairwise_map] at hascending
  constructor
  · intro a b ha hb hlt
    -- In the list of spellings, which ascends, neither order goes against the other.
    have hagree : (spellings closure.types).Pairwise fun x y =>
        (x < y → toAsciiLowercase x < toAsciiLowercase y) ∧
          (y < x → toAsciiLowercase y < toAsciiLowercase x) := by
      refine (spellings_ascend.1.and hascending).imp ?_
      rintro x y ⟨hxy, hlower⟩
      exact ⟨fun _ => hlower, fun hyx => absurd hyx (lt_asymm hxy)⟩
    have hsymm : Std.Symm fun x y : String =>
        (x < y → toAsciiLowercase x < toAsciiLowercase y) ∧
          (y < x → toAsciiLowercase y < toAsciiLowercase x) := ⟨fun _ _ => And.symm⟩
    exact (hagree.forall (h.spelling_iff.mpr ha) (h.spelling_iff.mpr hb) (ne_of_lt hlt)).1 hlt
  · intro name extension hname hfind
    obtain ⟨other, hother, hrecord⟩ := forall₂_mem_left h.records (h.spelling_iff.mpr hname)
    rw [hfind] at hrecord
    obtain rfl := Except.ok.inj hrecord
    have hgood : ¬ (!extension.installed || isBlank extension.version ||
        isBlank extension.schema) = true :=
      fun hbad => hany (List.any_eq_true.mpr ⟨extension, hother, hbad⟩)
    simp only [Bool.or_eq_true, Bool.not_eq_true', not_or, Bool.not_eq_true] at hgood
    exact ⟨hgood.1.2, hgood.2⟩

/-- A closure is sound when the spellings of the extensions keep their order in lower case. -/
theorem closure_sound_iff (hcatalog : catalog.Finalized digest) (rootOid : ℕ) :
    catalog.definitionClosure rootOid ≠ .error .unfinished ∧
      ∀ closure, catalog.definitionClosure rootOid = .ok closure →
        (catalog.SoundClosure rootOid digest closure ↔ catalog.SpellingsOrdered rootOid) := by
  refine ⟨definitionClosure_finishes, fun closure hclosure => ?_⟩
  have hbuilt := built_of_ok hcatalog hclosure
  constructor
  · intro hsound
    exact hbuilt.spellings_ordered ((hbuilt.validate_iff hcatalog).mp hsound.accepted)
  · intro hordered
    have hpass := hbuilt.records_pass hcatalog hordered
    have hrecords := hpass
    simp only [recordsFail, not_or, not_not] at hrecords
    refine ⟨hbuilt.types_iff, hbuilt.reached, hbuilt.order, ⟨?_, fun name => ?_⟩,
      (hbuilt.validate_iff hcatalog).mpr hpass,
      fun _ _ _ hperm => hbuilt.removed hcatalog hperm,
      fun _ _ _ hperm => hbuilt.added hcatalog hperm⟩
    · exact (ascending_iff.mp hrecords.2.2.1).imp ne_of_lt
    · rw [hbuilt.records_lower, List.mem_map]
      exact exists_congr fun spelling => and_congr_left fun _ => hbuilt.spelling_iff

end

/-! ## Spellings in two cases -/

/-- A text in place of a hash. -/
def sampleDigest : DefinitionDigest := fun oid schema name kind collation =>
  let parts := match kind with
    | .pseudo => ["pseudo"]
    | .builtin nativeType => ["builtin", nativeType]
    | .enum labels => "enum" :: labels
    | .domain baseOid constraints notNull =>
      "domain" :: toString baseOid :: toString notNull :: constraints
    | .composite fields => "composite" :: fields.map fun field =>
      field.name ++ " " ++ toString field.typeOid ++ " " ++ toString field.nullable
    | .array elementOid delimiter => ["array", toString elementOid, delimiter.toString]
    | .range subtypeOid => ["range", toString subtypeOid]
    | .multiRange rangeOid => ["multirange", toString rangeOid]
    | .extension extension codecIdentity encoding _ =>
      ["extension", extension, codecIdentity.getD "", encoding]
  ";".intercalate (toString oid :: schema :: name :: collation.getD "" :: parts)

def sampleType (oid : ℕ) (name : String) (kind : SourceTypeDefinitionKind) :
    SourceTypeDefinition :=
  ⟨oid, "public", name, kind, none, sampleDigest oid "public" name kind none⟩

def sampleExtension (name : String) : SourceExtension := ⟨name, "1.0", "public", true, true, none⟩

/-- A composite type of the types of two extensions. -/
def sampleCatalog (first second : String) : SourceTypeCatalog where
  types := [sampleType 1 "pair" (.composite [⟨"x", 2, true⟩, ⟨"y", 3, true⟩]),
    sampleType 2 "left" (.extension first none "UTF-8" none),
    sampleType 3 "right" (.extension second none "UTF-8" none)]
  extensions := [sampleExtension first, sampleExtension second]

theorem sampleCatalog_finalized (first second : String) :
    (sampleCatalog first second).Finalized sampleDigest where
  distinct := by simp [sampleCatalog, sampleType]
  digests := by simp [sampleCatalog, sampleType, expectedDefinitionDigest]
  installed := by simp [sampleCatalog, sampleExtension]

theorem closure_sound_sample :
    (sampleCatalog "hstore" "postgis").definitionClosure 1 ≠ .error .unfinished ∧
      ∀ closure, (sampleCatalog "hstore" "postgis").definitionClosure 1 = .ok closure →
        ((sampleCatalog "hstore" "postgis").SoundClosure 1 sampleDigest closure ↔
          (sampleCatalog "hstore" "postgis").SpellingsOrdered 1) :=
  closure_sound_iff (sampleCatalog_finalized "hstore" "postgis") 1

/-- The names `Postgis` and `hstore` sort in one way as they are spelled and in the other in lower
case, so that the closure is refused. -/
theorem closure_refused : (sampleCatalog "Postgis" "hstore").Finalized sampleDigest ∧
    ∃ closure, (sampleCatalog "Postgis" "hstore").definitionClosure 1 = .ok closure ∧
      validateTypeDefinitionClosure sampleDigest closure 1 = false := by
  refine ⟨sampleCatalog_finalized _ _, _, rfl, ?_⟩
  decide +kernel

end DatabaseSync.PostgresqlSource
