import DatabaseSync.ChangeEvent.Convert
import DatabaseSync.Library.Text
import DatabaseSync.Planner.Input
import Mathlib.Data.List.Induction

/-! # Plans and probes by name

The plan of a column and the probe of its target are looked up by a text made of the names of
schema, table and column. Two columns with one such text share what is found.
-/

namespace DatabaseSync.Worker

open ChangeEvent Checked
open Planner (TargetCapabilityProbe)

structure ColumnName where
  schema : String
  table : String
  column : String
deriving DecidableEq, Repr

/-- `target_probe_key` -/
def targetProbeKey (schema table column : String) : String :=
  schema ++ "." ++ table ++ "." ++ column

namespace ColumnName

def probeKey (name : ColumnName) : String := targetProbeKey name.schema name.table name.column

theorem lineage_eq_iff {name other : ColumnName} :
    lineage name.schema name.table name.column = lineage other.schema other.table other.column ↔
      name.probeKey = other.probeKey := by
  have hlineage : ∀ name : ColumnName,
      lineage name.schema name.table name.column = "catalog:" ++ name.probeKey := by
    intro name
    simp only [lineage, probeKey, targetProbeKey, String.append_assoc]
  rw [hlineage, hlineage, String.append_right_inj]

/-- No name holds the dot that separates them. -/
def Plain (name : ColumnName) : Prop := '.' ∉ name.schema.toList ∧ '.' ∉ name.table.toList

/-- Schema and table without a dot can be read off the text of the three names. -/
theorem Plain.eq_of_probeKey {name other : ColumnName} (h : name.Plain) (ho : other.Plain)
    (hkey : name.probeKey = other.probeKey) : name = other := by
  have hchars : ∀ name : ColumnName, name.probeKey.toList =
      name.schema.toList ++ '.' :: (name.table.toList ++ '.' :: name.column.toList) := by
    intro name
    simp [probeKey, targetProbeKey]
  have hschema := congrArg (Text.splitFirst '.') (congrArg String.toList hkey)
  rw [hchars, hchars, Text.splitFirst_append h.1, Text.splitFirst_append ho.1] at hschema
  obtain ⟨hschema, hrest⟩ := Prod.mk.inj (Option.some.inj hschema)
  have htable := congrArg (Text.splitFirst '.') hrest
  rw [Text.splitFirst_append h.2, Text.splitFirst_append ho.2] at htable
  obtain ⟨htable, hcolumn⟩ := Prod.mk.inj (Option.some.inj htable)
  cases name
  cases other
  rw [mk.injEq]
  exact ⟨String.toList_injective hschema, String.toList_injective htable,
    String.toList_injective hcolumn⟩

end ColumnName

/-! ## Lookups by name -/

section Lookup

variable {β : Type} {name : ColumnName} {value : β}

/-- `BTreeMap::insert` -/
def insertValue (key : String) (value : β) : List (String × β) → List (String × β)
  | [] => [(key, value)]
  | (other, earlier) :: map =>
    if other = key then (key, value) :: map else (other, earlier) :: insertValue key value map

theorem lookup_insertValue (key other : String) (value : β) (map : List (String × β)) :
    (insertValue key value map).lookup other =
      if other = key then some value else map.lookup other := by
  induction map with
  | nil =>
    rw [insertValue, List.lookup_cons, List.lookup_nil]
    split
    · next h => rw [if_pos (by simpa using h)]
    · next h => rw [if_neg (by simpa using h)]
  | cons entry map ih =>
    obtain ⟨k, v⟩ := entry
    rw [insertValue]
    split
    · next h =>
      subst h
      simp only [List.lookup_cons]
      split
      · next h => rw [if_pos (by simpa using h)]
      · next h => rw [if_neg (by simpa using h)]
    · next h =>
      simp only [List.lookup_cons, ih]
      split
      · next hk =>
        rw [beq_iff_eq] at hk
        rw [if_neg (by rw [hk]; exact h)]
      · rfl

/-- The values of the columns under their names, the last one of each name. -/
def valuesByName (entries : List (ColumnName × β)) : List (String × β) :=
  entries.foldl (fun map entry => insertValue entry.1.probeKey entry.2 map) []

theorem lookup_valuesByName {entries : List (ColumnName × β)} {key : String} :
    (∀ entry ∈ entries, entry.1.probeKey = key →
      ((valuesByName entries).lookup key).isSome = true) ∧
    ∀ value, (valuesByName entries).lookup key = some value →
      ∃ entry ∈ entries, entry.1.probeKey = key ∧ entry.2 = value := by
  induction entries using List.reverseRecOn with
  | nil => exact ⟨fun _ h => (List.not_mem_nil h).elim, fun _ h => by cases h⟩
  | append_singleton entries last ih =>
    obtain ⟨hsome, hmem⟩ := ih
    have hvalues : valuesByName (entries ++ [last]) =
        insertValue last.1.probeKey last.2 (valuesByName entries) := by
      rw [valuesByName, List.foldl_append]
      rfl
    rw [hvalues, lookup_insertValue]
    by_cases hkey : key = last.1.probeKey
    · rw [if_pos hkey]
      refine ⟨fun _ _ _ => rfl, ?_⟩
      rintro value ⟨⟩
      exact ⟨last, by simp, hkey.symm, rfl⟩
    · rw [if_neg hkey]
      constructor
      · intro entry hentry hname
        rcases List.mem_append.mp hentry with hentry | hentry
        · exact hsome entry hentry hname
        · rw [List.mem_singleton] at hentry
          exact absurd (hentry ▸ hname.symm) hkey
      · intro value hvalue
        obtain ⟨entry, hentry, hname, hvalue⟩ := hmem value hvalue
        exact ⟨entry, List.mem_append_left _ hentry, hname, hvalue⟩

/-- Columns of one name have one value. -/
def NamesAgree (entries : List (ColumnName × β)) : Prop :=
  ∀ entry ∈ entries, ∀ other ∈ entries, entry.1.probeKey = other.1.probeKey → entry.2 = other.2

/-- A lookup that finds for each column a value under its name finds its own exactly if the names
agree. -/
theorem own_iff_namesAgree {entries : List (ColumnName × β)} {find : ColumnName → Option β}
    (hsome : ∀ entry ∈ entries, (find entry.1).isSome = true)
    (hmem : ∀ name value, find name = some value →
      ∃ entry ∈ entries, entry.1.probeKey = name.probeKey ∧ entry.2 = value)
    (hname : ∀ name other, name.probeKey = other.probeKey → find name = find other) :
    (∀ entry ∈ entries, find entry.1 = some entry.2) ↔ NamesAgree entries := by
  constructor
  · intro hown entry hentry other hother hkey
    have hvalue := hname entry.1 other.1 hkey
    rw [hown entry hentry, hown other hother] at hvalue
    exact Option.some.inj hvalue
  · intro hagree entry hentry
    obtain ⟨value, hvalue⟩ := Option.isSome_iff_exists.mp (hsome entry hentry)
    obtain ⟨other, hother, hkey, rfl⟩ := hmem entry.1 value hvalue
    rw [hvalue, hagree other hother entry hentry hkey]

/-- In a list of distinct columns each has its own value. -/
theorem lookup_of_mem {entries : List (ColumnName × β)} (h : (entries.map Prod.fst).Nodup)
    {entry : ColumnName × β} (hentry : entry ∈ entries) :
    entries.lookup entry.1 = some entry.2 := by
  induction entries with
  | nil => cases hentry
  | cons other entries ih =>
    obtain ⟨hfresh, hnodup⟩ := List.nodup_cons.mp h
    rcases List.mem_cons.mp hentry with rfl | hentry
    · exact List.lookup_cons_self
    · have hne : (entry.1 == other.1) = false := by
        rw [beq_eq_false_iff_ne]
        intro heq
        exact hfresh (heq ▸ List.mem_map_of_mem hentry)
      rw [List.lookup_cons, hne]
      exact ih hnodup hentry

end Lookup

/-! ## Plans -/

/-- Plans built for distinct columns. -/
structure BuiltPlans where
  entries : List (ColumnName × ColumnConversionPlan)
  distinct : (entries.map Prod.fst).Nodup
  named : ∀ entry ∈ entries, entry.2.sourceField.lineageId =
    lineage entry.1.schema entry.1.table entry.1.column

/-- Probes taken for distinct columns. -/
structure TakenProbes where
  entries : List (ColumnName × TargetCapabilityProbe)
  distinct : (entries.map Prod.fst).Nodup

/-- What `convert_image_with_plans` does to one column with the plan it found. -/
def convertBy (rules : PlanRules) (plan : Option ColumnConversionPlan) (column : ColumnDatum) :
    Except TargetCapabilityFailure ColumnDatum :=
  match plan with
  | none => .ok column
  | some plan =>
    if column.generated then .ok column
    else if plan.qualification = .exact ∧ plan.conversionKind = some "spatial" ∧
        isGeographyNativeType column.nativeType ≠ isGeographyNativeType plan.target.nativeType then
      .error (plan.failure "target_capability.spatial_geodetic_planar_mismatch"
        "the saved spatial plan treats geodetic geography and planar geometry as equivalent; requalify this field before writing")
    else do return { column with datum := ← convertDatum rules plan column.datum }

theorem convertColumn_eq (rules : PlanRules) (schema table : String)
    (plans : List ColumnConversionPlan) (column : ColumnDatum) :
    convertColumn rules schema table plans column =
      convertBy rules (columnPlan schema table column plans) column := rfl

namespace BuiltPlans

variable (built : BuiltPlans)

def plans : List ColumnConversionPlan := built.entries.map Prod.snd

/-- The plan that was built for the column. -/
def own (name : ColumnName) : Option ColumnConversionPlan := built.entries.lookup name

/-- Every column of every row is converted and bound by the plan built for it. -/
def ServesEach : Prop :=
  ∀ (schema table : String) (image : List ColumnDatum),
    (∀ column ∈ image, (built.own ⟨schema, table, column.name⟩).isSome = true) →
    (∀ rules, convertImageWithPlans rules schema table built.plans (some image) =
      (do return some (← image.mapM fun column =>
        convertBy rules (built.own ⟨schema, table, column.name⟩) column))) ∧
    ∀ column ∈ image,
      columnPlan schema table column built.plans = built.own ⟨schema, table, column.name⟩

/-- The search of `column_plan` by the column's name alone -/
def find (name : ColumnName) : Option ColumnConversionPlan :=
  built.plans.find? fun plan =>
    plan.sourceField.lineageId == lineage name.schema name.table name.column

theorem columnPlan_plans (schema table : String) (column : ColumnDatum) :
    columnPlan schema table column built.plans = built.find ⟨schema, table, column.name⟩ := rfl

theorem own_of_mem {entry : ColumnName × ColumnConversionPlan} (h : entry ∈ built.entries) :
    built.own entry.1 = some entry.2 :=
  lookup_of_mem built.distinct h

theorem mem_of_own {name : ColumnName} {plan : ColumnConversionPlan}
    (h : built.own name = some plan) : (name, plan) ∈ built.entries := by
  obtain ⟨l₁, l₂, hentries, -⟩ := List.lookup_eq_some_iff.mp h
  rw [hentries]
  simp

theorem find_isSome {entry : ColumnName × ColumnConversionPlan} (h : entry ∈ built.entries) :
    (built.find entry.1).isSome = true := by
  rw [find, List.find?_isSome]
  refine ⟨entry.2, List.mem_map_of_mem h, ?_⟩
  rw [beq_iff_eq]
  exact built.named entry h

theorem mem_of_find {name : ColumnName} {plan : ColumnConversionPlan}
    (h : built.find name = some plan) :
    ∃ entry ∈ built.entries, entry.1.probeKey = name.probeKey ∧ entry.2 = plan := by
  obtain ⟨entry, hentry, rfl⟩ := List.mem_map.mp (List.mem_of_find?_eq_some h)
  have hlineage := List.find?_some h
  rw [beq_iff_eq, built.named entry hentry, ColumnName.lineage_eq_iff] at hlineage
  exact ⟨entry, hentry, hlineage, rfl⟩

theorem find_congr {name other : ColumnName} (h : name.probeKey = other.probeKey) :
    built.find name = built.find other := by
  rw [find, find, ColumnName.lineage_eq_iff.mpr h]

theorem servesEach_iff : built.ServesEach ↔ NamesAgree built.entries := by
  rw [← own_iff_namesAgree (fun _ => built.find_isSome) (fun _ _ => built.mem_of_find)
    (fun _ _ => built.find_congr)]
  constructor
  · intro hserves entry hentry
    have hown := built.own_of_mem hentry
    let column : ColumnDatum := {
      ordinal := 0, name := entry.1.column, nativeType := "", primaryKeyOrdinal := none
      generated := false, collation := none, datum := .null }
    have hcolumn := (hserves entry.1.schema entry.1.table [column] (by
      intro other hother
      rw [List.mem_singleton.mp hother]
      rw [hown, Option.isSome_some])).2 column List.mem_cons_self
    rw [columnPlan_plans] at hcolumn
    exact hcolumn.trans hown
  · intro hfind schema table image himage
    have hplan : ∀ column ∈ image,
        columnPlan schema table column built.plans = built.own ⟨schema, table, column.name⟩ := by
      intro column hcolumn
      obtain ⟨plan, hplan⟩ := Option.isSome_iff_exists.mp (himage column hcolumn)
      rw [hplan, columnPlan_plans]
      exact hfind (⟨schema, table, column.name⟩, plan) (built.mem_of_own hplan)
    refine ⟨fun rules => ?_, hplan⟩
    have hcolumns : image.mapM (convertColumn rules schema table built.plans) =
        image.mapM fun column =>
          convertBy rules (built.own ⟨schema, table, column.name⟩) column := by
      apply mapM_congr_of_mem
      intro column hcolumn
      rw [convertColumn_eq, hplan column hcolumn]
    rw [convertImageWithPlans, hcolumns]

end BuiltPlans

/-! ## Probes -/

namespace TakenProbes

variable (taken : TakenProbes)

/-- The probe that was taken for the column. -/
def own (name : ColumnName) : Option TargetCapabilityProbe := taken.entries.lookup name

/-- `target_probes.get` -/
def find (name : ColumnName) : Option TargetCapabilityProbe :=
  (valuesByName taken.entries).lookup
    (targetProbeKey name.schema name.table name.column)

/-- Every column is qualified with the probe taken for it. -/
def ServesEach : Prop := ∀ name, (taken.own name).isSome = true → taken.find name = taken.own name

theorem servesEach_iff : taken.ServesEach ↔ NamesAgree taken.entries := by
  have hsome : ∀ entry ∈ taken.entries, (taken.find entry.1).isSome = true :=
    fun entry hentry => lookup_valuesByName.1 entry hentry rfl
  have hmem : ∀ name probe, taken.find name = some probe →
      ∃ entry ∈ taken.entries, entry.1.probeKey = name.probeKey ∧ entry.2 = probe :=
    fun name probe => lookup_valuesByName.2 probe
  have hcongr : ∀ name other : ColumnName, name.probeKey = other.probeKey →
      taken.find name = taken.find other := by
    intro name other h
    exact congrArg (fun key => List.lookup key (valuesByName taken.entries)) h
  rw [← own_iff_namesAgree hsome hmem hcongr]
  constructor
  · intro hserves entry hentry
    have hown : taken.own entry.1 = some entry.2 := lookup_of_mem taken.distinct hentry
    rw [hserves entry.1 (by rw [hown, Option.isSome_some]), hown]
  · intro hfind name hname
    obtain ⟨probe, hprobe⟩ := Option.isSome_iff_exists.mp hname
    obtain ⟨l₁, l₂, hentries, -⟩ := List.lookup_eq_some_iff.mp hprobe
    rw [hprobe]
    exact hfind (name, probe) (by rw [hentries]; simp)

end TakenProbes

/-! ## Own evidence -/

/-- Columns whose names read alike must share plan and probe, and then each column is served by
its own. -/
theorem own_evidence_iff_namesAgree (built : BuiltPlans) (taken : TakenProbes) :
    built.ServesEach ∧ taken.ServesEach ↔ NamesAgree built.entries ∧ NamesAgree taken.entries :=
  and_congr built.servesEach_iff taken.servesEach_iff

/-- Names without a dot in schema and table never read alike. -/
theorem namesAgree_of_plain {β : Type} {entries : List (ColumnName × β)}
    (hplain : ∀ entry ∈ entries, entry.1.Plain) (hdistinct : (entries.map Prod.fst).Nodup) :
    NamesAgree entries := by
  intro entry hentry other hother hkey
  have hname := (hplain entry hentry).eq_of_probeKey (hplain other hother) hkey
  have hvalue := lookup_of_mem hdistinct hentry
  rw [hname, lookup_of_mem hdistinct hother] at hvalue
  exact (Option.some.inj hvalue).symm

section Sample

def dottedPlan (fingerprint nativeType : String) : ColumnConversionPlan where
  routeId := "orders"
  configurationRevision := "1"
  sourceField := ⟨"catalog:shop.a.b.c", fingerprint⟩
  targetField := ⟨"catalog:shop.a.b.c", fingerprint⟩
  sinkConnector := ⟨"mysql", "8.0"⟩
  targetBuild := none
  target := ⟨nativeType, []⟩
  rule := ⟨"integer.exact", "1"⟩
  capabilityCode := "mysql.integer"
  targetProbeDigest := none
  qualification := .exact
  locatorImpact := .preserved
  confirmation := .notRequired
  parameters := []
  failurePolicy := .reject
  planDigest := ""

/-- The plans of column `c` of table `a.b` and of column `b.c` of table `a`. -/
def dottedPlans : BuiltPlans where
  entries := [(⟨"shop", "a.b", "c"⟩, dottedPlan "first" "int"),
    (⟨"shop", "a", "b.c"⟩, dottedPlan "second" "bigint")]
  distinct := by decide +kernel
  named := by
    intro entry hentry
    rcases List.mem_cons.mp hentry with rfl | hentry
    · decide +kernel
    · rw [List.mem_singleton.mp hentry]
      decide +kernel

def noProbes : TakenProbes := ⟨[], List.nodup_nil⟩

/-- Column `b.c` of table `a` is converted by the plan of column `c` of table `a.b`. -/
theorem dotted_not_servesEach : ¬ (dottedPlans.ServesEach ∧ noProbes.ServesEach) := by
  rintro ⟨hplans, -⟩
  have hagree := dottedPlans.servesEach_iff.mp hplans
  have heq := hagree _ List.mem_cons_self _ (List.mem_cons_of_mem _ List.mem_cons_self)
    (by decide +kernel)
  have hne : "first" = "second" := congrArg (fun plan => plan.sourceField.schemaFingerprint) heq
  revert hne
  decide

end Sample

end DatabaseSync.Worker
