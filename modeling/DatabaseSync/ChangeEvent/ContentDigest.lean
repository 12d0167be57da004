import DatabaseSync.ChangeEvent.Canonical
import DatabaseSync.ChangeEvent.Framing
import DatabaseSync.ChangeEvent.Wire

/-! # Content digests

The content digest of a transaction is taken of its canonical form, which has the values of both
images of each change canonicalized.
-/

namespace DatabaseSync.ChangeEvent

open Checked JsonText

section Canonicalize

variable (digests : ContractDigests)

def canonicalizeColumn (column : ColumnDatum) : ColumnDatum :=
  match column.datum with
  | .value value => { column with datum := .value (canonicalizeLogicalValue digests value) }
  | _ => column

def canonicalizeChange (change : RowChange) : RowChange :=
  { change with
    before := change.before.map (List.map (canonicalizeColumn digests))
    after := change.after.map (List.map (canonicalizeColumn digests)) }

def canonicalizeTransaction (transaction : ChangeTransaction) : ChangeTransaction :=
  { transaction with changes := transaction.changes.map (canonicalizeChange digests) }

def ChangeTransaction.contentDigest (transaction : ChangeTransaction) : String :=
  digests.transaction (canonicalizeTransaction digests transaction)

end Canonicalize

/-! ## Transactions -/

section Transactions

variable {digests : ContractDigests} {library : ValidationLibrary}

/-- A list keeps its image under every change of its elements if they all do. -/
theorem map_unmoved_iff {α : Type} {f : α → α} {R : α → α → Prop} (hrefl : ∀ a, R a a)
    {l : List α} : (∀ l', List.Forall₂ R l l' → l'.map f = l.map f) ↔
      ∀ a ∈ l, ∀ b, R a b → f b = f a := by
  constructor
  · intro h a ha b hab
    obtain ⟨before, after, rfl⟩ := List.append_of_mem ha
    exact eq_of_map_replace (h _ (forall₂_replace hrefl hab before after))
  · intro h l' hl
    exact map_eq_of_forall₂ (forall₂_imp_mem hl h)

theorem ColumnDatum.Reordered.refl (column : ColumnDatum) : column.Reordered column :=
  ⟨.refl _, rfl⟩

theorem column_unmoved_iff {column : ColumnDatum} :
    (∀ column', column.Reordered column' →
      canonicalizeColumn digests column' = canonicalizeColumn digests column) ↔
      ∀ value, column.value? = some value → value.Rigid digests := by
  constructor
  · intro h value hvalue value' hr
    unfold ColumnDatum.value? at hvalue
    split at hvalue
    · next v hdatum =>
      cases hvalue
      have heq := h { column with datum := .value value' } ⟨by rw [hdatum]; exact .value hr, rfl⟩
      simp only [canonicalizeColumn, hdatum, ColumnDatum.mk.injEq, Datum.value.injEq] at heq
      exact heq.2.2.2.2.2.2
    · cases hvalue
  · obtain ⟨ordinal, name, nativeType, primaryKeyOrdinal, generated, collation, datum⟩ := column
    rintro h ⟨_, _, _, _, _, _, datum'⟩ ⟨hdatum, hcolumn⟩
    cases hcolumn
    cases hdatum with
    | refl => rfl
    | value hr => simp only [canonicalizeColumn, h _ rfl _ hr]

/-- The columns of an image, if there is one. -/
theorem image_unmoved_iff {image : Option (List ColumnDatum)} :
    (∀ image', Option.Rel (List.Forall₂ ColumnDatum.Reordered) image image' →
      image'.map (List.map (canonicalizeColumn digests)) =
        image.map (List.map (canonicalizeColumn digests))) ↔
      ∀ column ∈ image.getD [], ∀ value, column.value? = some value → value.Rigid digests := by
  cases image with
  | none =>
    constructor
    · intro _ column hcolumn
      exact absurd hcolumn List.not_mem_nil
    · rintro - image' ⟨⟩
      rfl
  | some row =>
    rw [Option.getD_some, ← forall₂_congr fun column _ => column_unmoved_iff,
      ← map_unmoved_iff ColumnDatum.Reordered.refl]
    constructor
    · intro h row' hrow
      exact Option.some.inj (h (some row') (.some hrow))
    · rintro h image' (hrow | -)
      exact congrArg some (h _ hrow)

theorem image_refl (image : Option (List ColumnDatum)) :
    Option.Rel (List.Forall₂ ColumnDatum.Reordered) image image := by
  cases image with
  | none => exact .none
  | some row =>
    exact .some (List.forall₂_same.mpr fun column _ => ColumnDatum.Reordered.refl column)

theorem RowChange.Reordered.refl (change : RowChange) : change.Reordered change :=
  ⟨image_refl _, image_refl _, rfl⟩

theorem change_unmoved_iff {change : RowChange} :
    (∀ change', change.Reordered change' →
      canonicalizeChange digests change' = canonicalizeChange digests change) ↔
      ∀ value ∈ change.values, value.Rigid digests := by
  have hvalues : (∀ value ∈ change.values, value.Rigid digests) ↔
      (∀ column ∈ change.before.getD [], ∀ value, column.value? = some value →
        value.Rigid digests) ∧
      ∀ column ∈ change.after.getD [], ∀ value, column.value? = some value →
        value.Rigid digests := by
    rw [← List.forall_mem_append]
    simp only [RowChange.values, RowChange.columns, List.mem_filterMap]
    constructor
    · intro h column hcolumn value hvalue
      exact h value ⟨column, hcolumn, hvalue⟩
    · rintro h value ⟨column, hcolumn, hvalue⟩
      exact h column hcolumn value hvalue
  rw [hvalues, ← image_unmoved_iff, ← image_unmoved_iff]
  constructor
  · intro h
    constructor
    · intro before hbefore
      have heq := h { change with before } ⟨hbefore, image_refl _, rfl⟩
      exact (RowChange.mk.inj heq).2.2.2.2.2.2.2.1
    · intro after hafter
      have heq := h { change with after } ⟨image_refl _, hafter, rfl⟩
      exact (RowChange.mk.inj heq).2.2.2.2.2.2.2.2
  · rintro ⟨hbefore, hafter⟩ change' ⟨hrbefore, hrafter, hchange⟩
    rw [canonicalizeChange, canonicalizeChange, hbefore _ hrbefore, hafter _ hrafter, hchange]

/-- The canonical form forgets the order in a transaction exactly if it does in each value. -/
theorem transaction_unmoved_iff {transaction : ChangeTransaction} :
    (∀ transaction', transaction.Reordered transaction' →
      canonicalizeTransaction digests transaction' =
        canonicalizeTransaction digests transaction) ↔
      ∀ value ∈ transaction.values, value.Rigid digests := by
  rw [ChangeTransaction.values, List.forall_mem_flatMap,
    ← forall₂_congr fun change _ => change_unmoved_iff,
    ← map_unmoved_iff RowChange.Reordered.refl]
  constructor
  · intro h changes hchanges
    have heq := h { transaction with changes } ⟨hchanges, rfl⟩
    exact (ChangeTransaction.mk.inj heq).2.2.2.2
  · rintro h transaction' ⟨hchanges, htransaction⟩
    rw [canonicalizeTransaction, canonicalizeTransaction, h _ hchanges, htransaction]

theorem canonicalizeColumn_idem (column : ColumnDatum) :
    canonicalizeColumn digests (canonicalizeColumn digests column) =
      canonicalizeColumn digests column := by
  obtain ⟨ordinal, name, nativeType, primaryKeyOrdinal, generated, collation, datum⟩ := column
  cases datum with
  | value value => simp only [canonicalizeColumn, canonicalizeLogicalValue_idem]
  | _ => rfl

theorem canonicalizeTransaction_idem (transaction : ChangeTransaction) :
    canonicalizeTransaction digests (canonicalizeTransaction digests transaction) =
      canonicalizeTransaction digests transaction := by
  have hcolumns : canonicalizeColumn digests ∘ canonicalizeColumn digests =
      canonicalizeColumn digests := funext canonicalizeColumn_idem
  have himage (image : Option (List ColumnDatum)) :
      (image.map (List.map (canonicalizeColumn digests))).map
        (List.map (canonicalizeColumn digests)) =
          image.map (List.map (canonicalizeColumn digests)) := by
    rw [Option.map_map, List.map_comp_map, hcolumns]
  have hchange : canonicalizeChange digests ∘ canonicalizeChange digests =
      canonicalizeChange digests := by
    funext change
    simp only [Function.comp_apply, canonicalizeChange, himage]
  rw [canonicalizeTransaction, canonicalizeTransaction, List.map_map, hchange]

/-- No two contents that the digests are to tell apart have the same one: the keys of a map, and the
canonical forms of the transaction reordered. -/
structure ContractDigests.Separates (digests : ContractDigests) (transaction : ChangeTransaction) :
    Prop where
  keys : ∀ value ∈ transaction.values, digests.SeparatesKeys value
  contents : ∀ transaction', transaction.Reordered transaction' →
    transaction'.contentDigest digests = transaction.contentDigest digests →
      canonicalizeTransaction digests transaction' = canonicalizeTransaction digests transaction

/-- The content digest forgets the order exactly if in each map the keys that are the same up to the
order inside them come with values that are. Canonicalizing again changes nothing. -/
theorem contentDigest_forgets_order_iff (validated : ValidatedTransaction library)
    (hdigests : digests.Separates validated.transaction) :
    ((∀ transaction', validated.transaction.Reordered transaction' →
      transaction'.contentDigest digests = validated.transaction.contentDigest digests) ↔
        ∀ value ∈ validated.transaction.values, value.OrderFree) ∧
    (∀ transaction, canonicalizeTransaction digests (canonicalizeTransaction digests transaction) =
      canonicalizeTransaction digests transaction) ∧
    ∀ value, canonicalizeLogicalValue digests (canonicalizeLogicalValue digests value) =
      canonicalizeLogicalValue digests value := by
  refine ⟨⟨?_, ?_⟩, canonicalizeTransaction_idem, canonicalizeLogicalValue_idem⟩
  · intro h value hvalue
    have hrigid := transaction_unmoved_iff.mp fun transaction' hr =>
      hdigests.contents transaction' hr (h transaction' hr)
    exact orderFree_of_rigid (hrigid value hvalue)
  · intro h transaction' hr
    have hrigid := fun value hvalue => rigid_of_orderFree (validated.value_valid value hvalue)
      (hdigests.keys value hvalue) (h value hvalue)
    exact congrArg digests.transaction (transaction_unmoved_iff.mpr hrigid transaction' hr)

end Transactions

section Sample

def ChangeTransaction.toJson (transaction : ChangeTransaction) : Json :=
  .object [("source", transaction.source.toJson), ("id", .string transaction.id),
    ("begin_cursor", transaction.beginCursor.toJson),
    ("commit_cursor", transaction.commitCursor.toJson),
    ("changes", .array (transaction.changes.map fun change => .object change.fields))]

/-- The texts that are hashed, in place of their hashes. -/
def textDigests : ContractDigests where
  value value := String.ofList value.toJson.render
  transaction transaction := String.ofList transaction.toJson.render

/-- The insertion of a row with a map. -/
def mapInsert (entries : List (LogicalValue × LogicalValue)) : ChangeTransaction :=
  { noteInsert with changes := [{ noteChange with
      after := some [⟨0, "note", "map", none, false, none, .value (.map entries)⟩] }] }

/-- Two baskets of different members. -/
def shelfEntries : List (LogicalValue × LogicalValue) :=
  [(.set ["b", "a"], .integer true 32 "1"), (.set ["c"], .integer true 32 "2")]

def shelf : ValidatedTransaction noteValidation := ⟨mapInsert shelfEntries, by decide +kernel⟩

theorem inside_shelf {entries : List (LogicalValue × LogicalValue)}
    (h : LogicalValue.Inside (.map entries) (.map shelfEntries)) : entries = shelfEntries := by
  cases h with
  | refl => rfl
  | tail h hchild =>
    have hleaf : ∀ child, LogicalValue.Child child (.map shelfEntries) →
        ∀ nested, ¬ LogicalValue.Child nested child := by
      rintro child hchild nested hnested
      cases hchild with
      | key hmem | value hmem =>
        simp only [shelfEntries, List.mem_cons, Prod.mk.injEq, List.not_mem_nil, or_false] at hmem
        rcases hmem with ⟨rfl, rfl⟩ | ⟨rfl, rfl⟩
        · cases hnested
        · cases hnested
    cases h with
    | refl =>
      cases hchild with
      | key hmem | value hmem => simp [shelfEntries] at hmem
    | tail _ hnested => exact absurd hnested (hleaf _ hchild _)

theorem reordered_set {members : List String} {value : LogicalValue}
    (h : (LogicalValue.set members).Reordered value) :
    ∃ members', members.Perm members' ∧ value = .set members' := by
  cases h with
  | refl => exact ⟨members, .refl _, rfl⟩
  | set h => exact ⟨_, h, rfl⟩

theorem perm_of_sameUpToOrder {members members' : List String}
    (h : (LogicalValue.set members).SameUpToOrder (.set members')) : members.Perm members' := by
  obtain ⟨common, hcommon, hcommon'⟩ := h
  obtain ⟨shared, hperm, rfl⟩ := reordered_set hcommon
  obtain ⟨shared', hperm', heq⟩ := reordered_set hcommon'
  rw [LogicalValue.set.inj heq] at hperm
  exact hperm.trans hperm'.symm

theorem shelf_orderFree : (LogicalValue.map shelfEntries).OrderFree := by
  intro entries hinside entry hmem entry' hmem' hsame
  have hcase : entry = entry' := by
    rw [inside_shelf hinside] at hmem hmem'
    simp only [shelfEntries, List.mem_cons, List.not_mem_nil, or_false] at hmem hmem'
    rcases hmem with rfl | rfl <;> rcases hmem' with rfl | rfl
    · rfl
    · exact absurd (perm_of_sameUpToOrder hsame).length_eq (by decide)
    · exact absurd (perm_of_sameUpToOrder hsame).length_eq (by decide)
    · rfl
  exact hcase ▸ ⟨entry.2, .refl _, .refl _⟩

theorem shelf_separated : textDigests.Separates shelf.transaction := by
  have hvalues : shelf.transaction.values = [.map shelfEntries] := rfl
  have hkeys : textDigests.SeparatesKeys (.map shelfEntries) := by
    intro entries hinside entry hmem entry' hmem'
    rw [inside_shelf hinside] at hmem hmem'
    simp only [shelfEntries, List.mem_cons, List.not_mem_nil, or_false] at hmem hmem'
    rcases hmem with rfl | rfl <;> rcases hmem' with rfl | rfl
    · exact fun _ => rfl
    · exact fun h => absurd h (by decide +kernel)
    · exact fun h => absurd h (by decide +kernel)
    · exact fun _ => rfl
  refine ⟨?_, fun transaction' hr _ => transaction_unmoved_iff.mpr ?_ transaction' hr⟩
  · rw [hvalues]
    exact List.forall_mem_singleton.mpr hkeys
  · rw [hvalues]
    exact List.forall_mem_singleton.mpr <| rigid_of_orderFree
      (shelf.value_valid _ (hvalues ▸ List.mem_singleton_self _)) hkeys shelf_orderFree

theorem contentDigest_forgets_order_shelf :
    ((∀ transaction', shelf.transaction.Reordered transaction' →
      transaction'.contentDigest textDigests = shelf.transaction.contentDigest textDigests) ↔
        ∀ value ∈ shelf.transaction.values, value.OrderFree) ∧
    (∀ transaction, canonicalizeTransaction textDigests
      (canonicalizeTransaction textDigests transaction) =
        canonicalizeTransaction textDigests transaction) ∧
    ∀ value, canonicalizeLogicalValue textDigests (canonicalizeLogicalValue textDigests value) =
      canonicalizeLogicalValue textDigests value :=
  contentDigest_forgets_order_iff shelf shelf_separated

/-- Baskets by their members, the first two with the same members. -/
def basketEntries : List (LogicalValue × LogicalValue) :=
  [(.set ["a", "b"], .integer true 32 "1"), (.set ["b", "a"], .integer true 32 "2")]

def baskets : ValidatedTransaction noteValidation := ⟨mapInsert basketEntries, by decide +kernel⟩

theorem contentDigest_depends_on_order : ∃ transaction',
    baskets.transaction.Reordered transaction' ∧
      transaction'.contentDigest textDigests ≠ baskets.transaction.contentDigest textDigests := by
  refine ⟨mapInsert basketEntries.reverse, ⟨List.Forall₂.cons ⟨.none, .some ?_, rfl⟩ .nil, rfl⟩, ?_⟩
  · refine List.Forall₂.cons ⟨.value (.map ?_ (List.reverse_perm _).symm), rfl⟩ .nil
    exact List.forall₂_same.mpr fun entry _ => MapEntry.Reordered.refl entry
  · intro h
    have htexts := String.ofList_injective h
    revert htexts
    decide +kernel

end Sample

end DatabaseSync.ChangeEvent
