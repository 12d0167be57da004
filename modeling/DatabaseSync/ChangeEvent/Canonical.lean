import DatabaseSync.ChangeEvent.Reordering
import DatabaseSync.Library.Sorting
import Mathlib.Data.Multiset.ZeroCons
import Mathlib.Tactic.Tauto

/-! # Canonical values

In the canonical form of a value the members of sets, the entries of JSON objects and the entries of
maps are sorted, the latter by the digests of their keys. A value has the canonical form of every
reordering of it exactly if in its maps the keys that differ only in the order inside them come with
values that do.
-/

namespace DatabaseSync.ChangeEvent

open Checked Keyset Sorting

/-! ## JSON values -/

mutual

def canonicalizeJsonValue : JsonValue → JsonValue
  | .array items => .array (canonicalizeItems items)
  | .object entries => .object (sortByKey Prod.fst (canonicalizeMembers entries))
  | value => value

def canonicalizeItems : List JsonValue → List JsonValue
  | [] => []
  | item :: items => canonicalizeJsonValue item :: canonicalizeItems items

def canonicalizeMembers : List (String × JsonValue) → List (String × JsonValue)
  | [] => []
  | (key, value) :: entries => (key, canonicalizeJsonValue value) :: canonicalizeMembers entries

end

theorem canonicalizeItems_eq (items : List JsonValue) :
    canonicalizeItems items = items.map canonicalizeJsonValue := by
  induction items with
  | nil => rfl
  | cons item items ih => exact congrArg (canonicalizeJsonValue item :: ·) ih

def canonicalMember (entry : String × JsonValue) : String × JsonValue :=
  (entry.1, canonicalizeJsonValue entry.2)

theorem canonicalizeMembers_eq (entries : List (String × JsonValue)) :
    canonicalizeMembers entries = entries.map canonicalMember := by
  induction entries with
  | nil => rfl
  | cons entry entries ih => exact congrArg (canonicalMember entry :: ·) ih

theorem canonicalizeJsonValue_array (items : List JsonValue) :
    canonicalizeJsonValue (.array items) = .array (items.map canonicalizeJsonValue) := by
  exact congrArg JsonValue.array (canonicalizeItems_eq items)

theorem canonicalizeJsonValue_object (entries : List (String × JsonValue)) :
    canonicalizeJsonValue (.object entries) =
      .object (sortByKey Prod.fst (entries.map canonicalMember)) := by
  exact congrArg (fun entries => JsonValue.object (sortByKey Prod.fst entries))
    (canonicalizeMembers_eq entries)

/-- The canonical form has its entries sorted already. -/
theorem canonicalizeJsonValue_idem (value : JsonValue) :
    canonicalizeJsonValue (canonicalizeJsonValue value) = canonicalizeJsonValue value := by
  induction value using JsonValue.induction with
  | array items ih =>
    rw [canonicalizeJsonValue_array, canonicalizeJsonValue_array, List.map_map]
    exact congrArg JsonValue.array (List.map_congr_left ih)
  | object entries ih =>
    rw [canonicalizeJsonValue_object, canonicalizeJsonValue_object]
    have hsame : (sortByKey Prod.fst (entries.map canonicalMember)).map canonicalMember =
        sortByKey Prod.fst (entries.map canonicalMember) := by
      refine (List.map_congr_left fun entry hentry => ?_).trans (List.map_id _)
      obtain ⟨entry, hmem, rfl⟩ := List.mem_map.mp ((sortByKey_perm _).mem_iff.mp hentry)
      exact Prod.ext rfl (ih entry hmem)
    rw [hsame, sortByKey_sortByKey]
  | _ => rfl

theorem JsonValue.reordered_canonicalize (value : JsonValue) :
    value.Reordered (canonicalizeJsonValue value) := by
  induction value using JsonValue.induction with
  | array items ih =>
    rw [canonicalizeJsonValue_array]
    exact .array (List.forall₂_map_right_iff.mpr (List.forall₂_same.mpr ih))
  | object entries ih =>
    rw [canonicalizeJsonValue_object]
    refine .object (List.forall₂_map_right_iff.mpr (List.forall₂_same.mpr ?_))
      (sortByKey_perm _).symm
    exact fun entry hentry => JsonEntry.reordered_iff.mpr ⟨rfl, ih entry hentry⟩
  | _ => exact .refl _

/-- The order of entries with distinct keys is forgotten. -/
theorem canonicalizeJsonValue_reordered {value value' : JsonValue} {depth : ℕ}
    (hvalid : jsonValue value depth = .ok ()) (h : value.Reordered value') :
    canonicalizeJsonValue value' = canonicalizeJsonValue value := by
  induction value using JsonValue.induction generalizing value' depth with
  | array items ih =>
    have hitems := jsonValue_array hvalid
    cases h with
    | refl => rfl
    | array h =>
      have hmap := map_eq_of_forall₂ (forall₂_imp_mem h fun item hitem _ =>
        ih item hitem (hitems item hitem))
      rw [canonicalizeJsonValue_array, canonicalizeJsonValue_array, hmap]
  | object entries ih =>
    obtain ⟨hnodup, hvalues⟩ := jsonValue_object hvalid
    cases h with
    | refl => rfl
    | @object _ entries' _ h hperm =>
      have hmap : entries'.map canonicalMember = entries.map canonicalMember := by
        refine map_eq_of_forall₂ (forall₂_imp_mem h fun entry hentry entry' hr => ?_)
        obtain ⟨hkey, hvalue⟩ := JsonEntry.reordered_iff.mp hr
        exact Prod.ext hkey (ih entry hentry (hvalues entry hentry) hvalue)
      have hsorted := hperm.map canonicalMember
      rw [hmap] at hsorted
      have hkeys : ((entries.map canonicalMember).map Prod.fst).Nodup := by
        rwa [List.map_map]
      rw [canonicalizeJsonValue_object, canonicalizeJsonValue_object,
        sortByKey_eq_of_nodup hsorted hkeys]
  | _ =>
    cases h
    rfl

/-! ## Logical values -/

/-- `stable_digest`, the SHA-256 of the JSON of a value and of a transaction. -/
structure ContractDigests where
  value : LogicalValue → String
  transaction : ChangeTransaction → String

section Canonicalize

variable (digests : ContractDigests)

mutual

/-- The entries of a map are in the order of the digests of their canonical keys. The source
canonicalizes each key once more for its digest, which changes nothing. -/
def canonicalizeLogicalValue : LogicalValue → LogicalValue
  | .set members => .set (sortByKey id members)
  | .array elements => .array (canonicalizeElements elements)
  | .arrayWithMetadata elements dimensions lowerBounds dimensionLengths =>
    .arrayWithMetadata (canonicalizeElements elements) dimensions lowerBounds dimensionLengths
  | .struct fields => .struct (canonicalizeFields fields)
  | .map entries =>
    .map (sortByKey (fun entry => digests.value entry.1) (canonicalizeEntries entries))
  | .range empty lower upper lowerInclusive upperInclusive =>
    .range empty (canonicalizeBound lower) (canonicalizeBound upper) lowerInclusive upperInclusive
  | .multiRange ranges => .multiRange (canonicalizeElements ranges)
  | .domain value => .domain (canonicalizeLogicalValue value)
  | .json value => .json (canonicalizeJsonValue value)
  | value => value

def canonicalizeElements : List LogicalValue → List LogicalValue
  | [] => []
  | value :: values => canonicalizeLogicalValue value :: canonicalizeElements values

def canonicalizeFields : List (String × LogicalValue) → List (String × LogicalValue)
  | [] => []
  | (name, value) :: fields => (name, canonicalizeLogicalValue value) :: canonicalizeFields fields

def canonicalizeEntries :
    List (LogicalValue × LogicalValue) → List (LogicalValue × LogicalValue)
  | [] => []
  | (key, value) :: entries =>
    (canonicalizeLogicalValue key, canonicalizeLogicalValue value) :: canonicalizeEntries entries

def canonicalizeBound : Option LogicalValue → Option LogicalValue
  | none => none
  | some value => some (canonicalizeLogicalValue value)

end

/-- `LogicalValue::stable_digest` -/
def LogicalValue.stableDigest (value : LogicalValue) : String :=
  digests.value (canonicalizeLogicalValue digests value)

end Canonicalize

section Logical

variable {digests : ContractDigests}

theorem canonicalizeElements_eq (values : List LogicalValue) :
    canonicalizeElements digests values = values.map (canonicalizeLogicalValue digests) := by
  induction values with
  | nil => rfl
  | cons value values ih => exact congrArg (canonicalizeLogicalValue digests value :: ·) ih

def canonicalField (digests : ContractDigests) (field : String × LogicalValue) :
    String × LogicalValue :=
  (field.1, canonicalizeLogicalValue digests field.2)

def canonicalEntry (digests : ContractDigests) (entry : LogicalValue × LogicalValue) :
    LogicalValue × LogicalValue :=
  (canonicalizeLogicalValue digests entry.1, canonicalizeLogicalValue digests entry.2)

theorem canonicalizeFields_eq (fields : List (String × LogicalValue)) :
    canonicalizeFields digests fields = fields.map (canonicalField digests) := by
  induction fields with
  | nil => rfl
  | cons field fields ih => exact congrArg (canonicalField digests field :: ·) ih

theorem canonicalizeEntries_eq (entries : List (LogicalValue × LogicalValue)) :
    canonicalizeEntries digests entries = entries.map (canonicalEntry digests) := by
  induction entries with
  | nil => rfl
  | cons entry entries ih => exact congrArg (canonicalEntry digests entry :: ·) ih

/-- The digest by which the entries of a map are sorted. -/
def keyDigest (digests : ContractDigests) (entry : LogicalValue × LogicalValue) : String :=
  digests.value entry.1

theorem canonicalizeLogicalValue_map (entries : List (LogicalValue × LogicalValue)) :
    canonicalizeLogicalValue digests (.map entries) =
      .map (sortByKey (keyDigest digests) (entries.map (canonicalEntry digests))) := by
  exact congrArg (fun entries => LogicalValue.map (sortByKey (keyDigest digests) entries))
    (canonicalizeEntries_eq entries)

theorem canonicalizeLogicalValue_struct (fields : List (String × LogicalValue)) :
    canonicalizeLogicalValue digests (.struct fields) =
      .struct (fields.map (canonicalField digests)) := by
  exact congrArg LogicalValue.struct (canonicalizeFields_eq fields)

/-- The canonical form is its own canonical form. -/
theorem canonicalizeLogicalValue_idem (value : LogicalValue) :
    canonicalizeLogicalValue digests (canonicalizeLogicalValue digests value) =
      canonicalizeLogicalValue digests value := by
  induction value using LogicalValue.child_induction with
  | step value ih =>
    cases value with
    | set members =>
      rw [canonicalizeLogicalValue, canonicalizeLogicalValue, sortByKey_sortByKey]
    | json value =>
      rw [canonicalizeLogicalValue, canonicalizeLogicalValue, canonicalizeJsonValue_idem]
    | domain value =>
      rw [canonicalizeLogicalValue, canonicalizeLogicalValue, ih value (.domain value)]
    | array elements =>
      simp only [canonicalizeLogicalValue, canonicalizeElements_eq, List.map_map]
      exact congrArg LogicalValue.array (List.map_congr_left fun value h => ih value (.element h))
    | multiRange ranges =>
      simp only [canonicalizeLogicalValue, canonicalizeElements_eq, List.map_map]
      exact congrArg LogicalValue.multiRange
        (List.map_congr_left fun value h => ih value (.range h))
    | arrayWithMetadata elements dimensions lowerBounds dimensionLengths =>
      simp only [canonicalizeLogicalValue, canonicalizeElements_eq, List.map_map]
      exact congrArg (LogicalValue.arrayWithMetadata · dimensions lowerBounds dimensionLengths)
        (List.map_congr_left fun value h => ih value (.metadataElement _ _ _ h))
    | struct fields =>
      rw [canonicalizeLogicalValue_struct, canonicalizeLogicalValue_struct, List.map_map]
      exact congrArg LogicalValue.struct (List.map_congr_left fun field h =>
        Prod.ext rfl (ih field.2 (.field h)))
    | range empty lower upper lowerInclusive upperInclusive =>
      have hlower : canonicalizeBound digests (canonicalizeBound digests lower) =
          canonicalizeBound digests lower := by
        cases lower with
        | none => rfl
        | some value => exact congrArg some (ih value (.lower ..))
      have hupper : canonicalizeBound digests (canonicalizeBound digests upper) =
          canonicalizeBound digests upper := by
        cases upper with
        | none => rfl
        | some value => exact congrArg some (ih value (.upper ..))
      rw [canonicalizeLogicalValue, canonicalizeLogicalValue, hlower, hupper]
    | map entries =>
      rw [canonicalizeLogicalValue_map, canonicalizeLogicalValue_map]
      have hsame : (sortByKey (keyDigest digests) (entries.map (canonicalEntry digests))).map
          (canonicalEntry digests) =
            sortByKey (keyDigest digests) (entries.map (canonicalEntry digests)) := by
        refine (List.map_congr_left fun entry hentry => ?_).trans (List.map_id _)
        obtain ⟨entry, hmem, rfl⟩ := List.mem_map.mp ((sortByKey_perm _).mem_iff.mp hentry)
        exact Prod.ext (ih entry.1 (.key hmem)) (ih entry.2 (.value hmem))
      rw [hsame, sortByKey_sortByKey]
    | _ => rfl

/-- Canonicalizing only reorders. -/
theorem LogicalValue.reordered_canonicalize (digests : ContractDigests) (value : LogicalValue) :
    value.Reordered (canonicalizeLogicalValue digests value) := by
  induction value using LogicalValue.child_induction with
  | step value ih =>
    cases value with
    | set members => exact .set (sortByKey_perm members).symm
    | json value => exact .json value.reordered_canonicalize
    | domain value => exact .domain (ih value (.domain value))
    | array elements =>
      rw [canonicalizeLogicalValue, canonicalizeElements_eq]
      exact .array (List.forall₂_map_right_iff.mpr (List.forall₂_same.mpr fun value h =>
        ih value (.element h)))
    | multiRange ranges =>
      rw [canonicalizeLogicalValue, canonicalizeElements_eq]
      exact .multiRange (List.forall₂_map_right_iff.mpr (List.forall₂_same.mpr fun value h =>
        ih value (.range h)))
    | arrayWithMetadata elements dimensions lowerBounds dimensionLengths =>
      rw [canonicalizeLogicalValue, canonicalizeElements_eq]
      exact .arrayWithMetadata _ _ _ (List.forall₂_map_right_iff.mpr (List.forall₂_same.mpr
        fun value h => ih value (.metadataElement _ _ _ h)))
    | struct fields =>
      rw [canonicalizeLogicalValue_struct]
      exact .struct (List.forall₂_map_right_iff.mpr (List.forall₂_same.mpr fun field h =>
        StructField.reordered_iff.mpr ⟨rfl, ih field.2 (.field h)⟩))
    | range empty lower upper lowerInclusive upperInclusive =>
      refine .range empty lowerInclusive upperInclusive ?_ ?_
      · cases lower with
        | none => exact .none
        | some value => exact .some (ih value (.lower ..))
      · cases upper with
        | none => exact .none
        | some value => exact .some (ih value (.upper ..))
    | map entries =>
      rw [canonicalizeLogicalValue_map]
      refine .map (List.forall₂_map_right_iff.mpr (List.forall₂_same.mpr fun entry h => ?_))
        (sortByKey_perm _).symm
      exact MapEntry.reordered_iff.mpr ⟨ih entry.1 (.key h), ih entry.2 (.value h)⟩
    | _ => exact .refl _

end Logical

/-! ## Which orders are forgotten -/

/-- Keys that are the same up to the order inside them come with values that are. -/
def LogicalValue.OrderFree (value : LogicalValue) : Prop :=
  ∀ entries, Inside (.map entries) value → ∀ entry ∈ entries, ∀ entry' ∈ entries,
    entry.1.SameUpToOrder entry'.1 → entry.2.SameUpToOrder entry'.2

/-- The digests of the keys of a map of the value do not collide. -/
def ContractDigests.SeparatesKeys (digests : ContractDigests) (value : LogicalValue) : Prop :=
  ∀ entries, LogicalValue.Inside (.map entries) value → ∀ entry ∈ entries, ∀ entry' ∈ entries,
    entry.1.stableDigest digests = entry'.1.stableDigest digests →
      canonicalizeLogicalValue digests entry.1 = canonicalizeLogicalValue digests entry'.1

/-- No reordering of the value has another canonical form. -/
def LogicalValue.Rigid (digests : ContractDigests) (value : LogicalValue) : Prop :=
  ∀ value', value.Reordered value' →
    canonicalizeLogicalValue digests value' = canonicalizeLogicalValue digests value

section Rigid

variable {digests : ContractDigests} {library : ValidationLibrary}

theorem LogicalValue.OrderFree.child {value child : LogicalValue} (h : value.OrderFree)
    (hchild : Child child value) : child.OrderFree :=
  fun entries hinside => h entries (hinside.tail hchild)

theorem ContractDigests.SeparatesKeys.child {value child : LogicalValue}
    (h : digests.SeparatesKeys value) (hchild : LogicalValue.Child child value) :
    digests.SeparatesKeys child :=
  fun entries hinside => h entries (hinside.tail hchild)

/-- Values with a common reordering have one canonical form. -/
theorem LogicalValue.Rigid.eq_of_sameUpToOrder {value value' : LogicalValue}
    (h : value.Rigid digests) (h' : value'.Rigid digests) (hsame : value.SameUpToOrder value') :
    canonicalizeLogicalValue digests value = canonicalizeLogicalValue digests value' := by
  obtain ⟨common, hcommon, hcommon'⟩ := hsame
  rw [← h common hcommon, h' common hcommon']

/-- Values with one canonical form have it as a common reordering. -/
theorem sameUpToOrder_of_canonicalize {value value' : LogicalValue}
    (h : canonicalizeLogicalValue digests value = canonicalizeLogicalValue digests value') :
    value.SameUpToOrder value' :=
  ⟨canonicalizeLogicalValue digests value, value.reordered_canonicalize digests,
    h ▸ value'.reordered_canonicalize digests⟩

theorem map_canonical_of_rigid {values values' : List LogicalValue}
    (hrigid : ∀ value ∈ values, value.Rigid digests)
    (h : List.Forall₂ LogicalValue.Reordered values values') :
    values'.map (canonicalizeLogicalValue digests) =
      values.map (canonicalizeLogicalValue digests) :=
  map_eq_of_forall₂ (forall₂_imp_mem h fun value hvalue => hrigid value hvalue)

theorem bound_canonical_of_rigid {bound bound' : Option LogicalValue}
    (hrigid : ∀ value ∈ bound, value.Rigid digests) (h : BoundReordered bound bound') :
    canonicalizeBound digests bound' = canonicalizeBound digests bound := by
  cases h with
  | none => rfl
  | some h => exact congrArg some (hrigid _ rfl _ h)

/-- A map whose entries are rigid is rigid if no two different ones share the digest of their
keys. -/
theorem rigid_map {entries : List (LogicalValue × LogicalValue)}
    (hrigid : ∀ entry ∈ entries, entry.1.Rigid digests ∧ entry.2.Rigid digests)
    (hapart : ∀ entry ∈ entries, ∀ entry' ∈ entries,
      entry.1.stableDigest digests = entry'.1.stableDigest digests →
        canonicalEntry digests entry = canonicalEntry digests entry') :
    (LogicalValue.map entries).Rigid digests := by
  intro value' h
  cases h with
  | refl => rfl
  | @map _ entries' _ h hperm =>
    have hmap : entries'.map (canonicalEntry digests) = entries.map (canonicalEntry digests) := by
      refine map_eq_of_forall₂ (forall₂_imp_mem h fun entry hentry entry' hr => ?_)
      obtain ⟨hkey, hvalue⟩ := MapEntry.reordered_iff.mp hr
      exact Prod.ext ((hrigid entry hentry).1 _ hkey) ((hrigid entry hentry).2 _ hvalue)
    have hsorted := hperm.map (canonicalEntry digests)
    rw [hmap] at hsorted
    rw [canonicalizeLogicalValue_map, canonicalizeLogicalValue_map]
    refine congrArg LogicalValue.map (sortByKey_eq_of_perm hsorted ?_).symm
    intro entry hentry entry' hentry' hkey
    obtain ⟨entry, hmem, rfl⟩ := List.mem_map.mp hentry
    obtain ⟨entry', hmem', rfl⟩ := List.mem_map.mp hentry'
    exact hapart entry hmem entry' hmem' hkey

/-- The order is forgotten if the values of keys that are the same up to order are. -/
theorem rigid_of_orderFree {value : LogicalValue} {depth : ℕ}
    (hvalid : logicalValueAtDepth library value depth = .ok ())
    (hkeys : digests.SeparatesKeys value) (hfree : value.OrderFree) : value.Rigid digests := by
  induction value using LogicalValue.child_induction generalizing depth with
  | step value ih =>
    have hrigid : ∀ child, LogicalValue.Child child value → child.Rigid digests :=
      fun child hchild => ih child hchild (hchild.valid hvalid) (hkeys.child hchild)
        (hfree.child hchild)
    intro value' h
    cases h with
    | refl => rfl
    | set h =>
      exact congrArg LogicalValue.set (sortByKey_eq_of_perm h fun _ _ _ _ heq => heq).symm
    | json h =>
      rw [canonicalizeLogicalValue, canonicalizeLogicalValue,
        canonicalizeJsonValue_reordered (jsonValue_of_valid hvalid) h]
    | domain h =>
      rw [canonicalizeLogicalValue, canonicalizeLogicalValue, hrigid _ (.domain _) _ h]
    | array h =>
      simp only [canonicalizeLogicalValue, canonicalizeElements_eq]
      rw [map_canonical_of_rigid (fun child hmem => hrigid child (.element hmem)) h]
    | multiRange h =>
      simp only [canonicalizeLogicalValue, canonicalizeElements_eq]
      rw [map_canonical_of_rigid (fun child hmem => hrigid child (.range hmem)) h]
    | arrayWithMetadata _ _ _ h =>
      simp only [canonicalizeLogicalValue, canonicalizeElements_eq]
      rw [map_canonical_of_rigid (fun child hmem => hrigid child (.metadataElement _ _ _ hmem)) h]
    | struct h =>
      rw [canonicalizeLogicalValue_struct, canonicalizeLogicalValue_struct]
      refine congrArg LogicalValue.struct (map_eq_of_forall₂ (forall₂_imp_mem h ?_))
      intro field hmem field' hr
      obtain ⟨hname, hvalue⟩ := StructField.reordered_iff.mp hr
      exact Prod.ext hname (hrigid field.2 (.field hmem) _ hvalue)
    | @range lower _ upper _ empty lowerInclusive upperInclusive hlower hupper =>
      have hlowers : ∀ child ∈ lower, child.Rigid digests := by
        rintro child rfl
        exact hrigid child (.lower ..)
      have huppers : ∀ child ∈ upper, child.Rigid digests := by
        rintro child rfl
        exact hrigid child (.upper ..)
      rw [canonicalizeLogicalValue, canonicalizeLogicalValue,
        bound_canonical_of_rigid hlowers hlower, bound_canonical_of_rigid huppers hupper]
    | @map entries _ _ h hperm =>
      refine rigid_map (fun entry hmem => ⟨hrigid _ (.key hmem), hrigid _ (.value hmem)⟩) ?_ _
        (.map h hperm)
      intro entry hmem entry' hmem' hdigest
      have hkey := hkeys entries .refl entry hmem entry' hmem' hdigest
      have hvalue := hfree entries .refl entry hmem entry' hmem'
        (sameUpToOrder_of_canonicalize hkey)
      exact Prod.ext hkey ((hrigid _ (.value hmem)).eq_of_sameUpToOrder
        (hrigid _ (.value hmem')) hvalue)

/-- One element replaced by a reordering of it. -/
theorem forall₂_replace {α : Type} {R : α → α → Prop} (hrefl : ∀ a, R a a) {a b : α} (h : R a b)
    (before after : List α) : List.Forall₂ R (before ++ a :: after) (before ++ b :: after) :=
  List.rel_append (List.forall₂_same.mpr fun a _ => hrefl a)
    (List.Forall₂.cons h (List.forall₂_same.mpr fun a _ => hrefl a))

/-- Maps that agree on all elements but one agree on it. -/
theorem eq_of_map_replace {α β : Type} {f : α → β} {a b : α} {before after : List α}
    (h : (before ++ b :: after).map f = (before ++ a :: after).map f) : f b = f a := by
  rw [List.map_append, List.map_append, List.append_cancel_left_eq, List.map_cons,
    List.map_cons] at h
  exact (List.cons_eq_cons.mp h).1

theorem eq_of_perm_replace {α β : Type} {f : α → β} {a b : α} {before after : List α}
    (h : ((before ++ b :: after).map f).Perm ((before ++ a :: after).map f)) : f b = f a := by
  have hfront := (List.perm_middle.map f).symm.trans (h.trans (List.perm_middle.map f))
  rw [List.map_cons, List.map_cons] at hfront
  exact (Multiset.cons_inj_left ((before ++ after).map f : Multiset β)).mp
    (Multiset.coe_eq_coe.mpr hfront)

theorem StructField.Reordered.refl (field : String × LogicalValue) :
    StructField.Reordered field field :=
  .field field.1 (.refl field.2)

theorem MapEntry.Reordered.refl (entry : LogicalValue × LogicalValue) :
    MapEntry.Reordered entry entry :=
  .entry (.refl entry.1) (.refl entry.2)

theorem BoundReordered.refl (bound : Option LogicalValue) : BoundReordered bound bound := by
  cases bound with
  | none => exact .none
  | some value => exact .some (.refl value)

/-- One entry of a rigid map replaced. -/
theorem canonicalEntry_eq_of_rigid {entry entry' : LogicalValue × LogicalValue}
    {before after : List (LogicalValue × LogicalValue)}
    (hrigid : (LogicalValue.map (before ++ entry :: after)).Rigid digests)
    (h : MapEntry.Reordered entry entry') :
    canonicalEntry digests entry' = canonicalEntry digests entry := by
  have heq := hrigid _ (.map (forall₂_replace .refl h before after) (List.Perm.refl _))
  rw [canonicalizeLogicalValue_map, canonicalizeLogicalValue_map] at heq
  have hperm := @sortByKey_perm _ _ _ (keyDigest digests)
    ((before ++ entry' :: after).map (canonicalEntry digests))
  rw [LogicalValue.map.inj heq] at hperm
  exact eq_of_perm_replace (hperm.symm.trans (sortByKey_perm _))

/-- What is inside a rigid value is rigid. -/
theorem LogicalValue.Rigid.child {value child : LogicalValue} (h : value.Rigid digests)
    (hchild : Child child value) : child.Rigid digests := by
  intro child' hr
  cases hchild with
  | element hmem =>
    obtain ⟨before, after, rfl⟩ := List.append_of_mem hmem
    have heq := h _ (.array (forall₂_replace .refl hr before after))
    simp only [canonicalizeLogicalValue, canonicalizeElements_eq, array.injEq] at heq
    exact eq_of_map_replace heq
  | metadataElement _ _ _ hmem =>
    obtain ⟨before, after, rfl⟩ := List.append_of_mem hmem
    have heq := h _ (.arrayWithMetadata _ _ _ (forall₂_replace .refl hr before after))
    simp only [canonicalizeLogicalValue, canonicalizeElements_eq, arrayWithMetadata.injEq] at heq
    exact eq_of_map_replace heq.1
  | range hmem =>
    obtain ⟨before, after, rfl⟩ := List.append_of_mem hmem
    have heq := h _ (.multiRange (forall₂_replace .refl hr before after))
    simp only [canonicalizeLogicalValue, canonicalizeElements_eq, multiRange.injEq] at heq
    exact eq_of_map_replace heq
  | field hmem =>
    obtain ⟨before, after, rfl⟩ := List.append_of_mem hmem
    have heq := h _ (.struct (forall₂_replace .refl (.field _ hr) before after))
    rw [canonicalizeLogicalValue_struct, canonicalizeLogicalValue_struct] at heq
    have hfield := eq_of_map_replace (f := canonicalField digests) (struct.inj heq)
    exact (Prod.mk.inj hfield).2
  | key hmem =>
    obtain ⟨before, after, rfl⟩ := List.append_of_mem hmem
    exact (Prod.mk.inj (canonicalEntry_eq_of_rigid h (.entry hr (.refl _)))).1
  | value hmem =>
    obtain ⟨before, after, rfl⟩ := List.append_of_mem hmem
    exact (Prod.mk.inj (canonicalEntry_eq_of_rigid h (.entry (.refl _) hr))).2
  | lower =>
    have heq := h _ (.range _ _ _ (.some hr) (.refl _))
    simp only [canonicalizeLogicalValue, canonicalizeBound, range.injEq, Option.some.injEq] at heq
    exact heq.2.1
  | upper =>
    have heq := h _ (.range _ _ _ (.refl _) (.some hr))
    simp only [canonicalizeLogicalValue, canonicalizeBound, range.injEq, Option.some.injEq] at heq
    exact heq.2.2.1
  | domain =>
    have heq := h _ (.domain hr)
    exact domain.inj heq

theorem LogicalValue.Rigid.inside {value nested : LogicalValue} (h : value.Rigid digests)
    (hinside : Inside nested value) : nested.Rigid digests := by
  induction hinside with
  | refl => exact h
  | tail _ hchild ih => exact ih (h.child hchild)

/-- Two entries of a rigid map with one digest of their keys are one. -/
theorem canonicalEntry_eq_of_digest {entries : List (LogicalValue × LogicalValue)}
    (hrigid : (LogicalValue.map entries).Rigid digests) {entry entry' : LogicalValue × LogicalValue}
    (hmem : entry ∈ entries) (hmem' : entry' ∈ entries)
    (hdigest : entry.1.stableDigest digests = entry'.1.stableDigest digests) :
    canonicalEntry digests entry = canonicalEntry digests entry' := by
  by_cases hne : entry' = entry
  · rw [hne]
  obtain ⟨before, after, rfl⟩ := List.append_of_mem hmem
  have hrest : entry' ∈ before ++ after := by
    rw [List.mem_append, List.mem_cons] at hmem'
    rw [List.mem_append]
    tauto
  obtain ⟨before', after', hsplit⟩ := List.append_of_mem hrest
  have hperm : (before ++ entry :: after).Perm (entry :: entry' :: (before' ++ after')) := by
    refine List.perm_middle.trans (List.Perm.cons entry ?_)
    rw [hsplit]
    exact List.perm_middle
  have hfirst := hrigid _ (.map (List.forall₂_same.mpr fun _ _ => .refl _) hperm)
  have hsecond := hrigid _ (.map (List.forall₂_same.mpr fun _ _ => .refl _)
    (hperm.trans (List.Perm.swap _ _ _)))
  have heq := hfirst.trans hsecond.symm
  rw [canonicalizeLogicalValue_map, canonicalizeLogicalValue_map] at heq
  exact eq_of_sortByKey_swap hdigest (LogicalValue.map.inj heq)

/-- Only values whose maps leave no choice forget the order. -/
theorem orderFree_of_rigid {value : LogicalValue} (h : value.Rigid digests) : value.OrderFree := by
  intro entries hinside entry hmem entry' hmem' hsame
  have hmap := h.inside hinside
  have hkey := (hmap.child (.key hmem)).eq_of_sameUpToOrder (hmap.child (.key hmem')) hsame
  have hentry := canonicalEntry_eq_of_digest hmap hmem hmem' (congrArg digests.value hkey)
  exact sameUpToOrder_of_canonicalize (Prod.mk.inj hentry).2

end Rigid

end DatabaseSync.ChangeEvent
