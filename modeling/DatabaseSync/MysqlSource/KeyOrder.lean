import DatabaseSync.MysqlSource.Snapshot
import Mathlib.Tactic.IntervalCases

/-! # The order of the keys

A batch continues with the rows whose keys are greater than the last key, which is bound back as
the driver delivered it, and the rows are ordered by their key columns. An `ENUM` or `SET` value is
ordered by its number but delivered as its labels, so the two orders of a column can differ.
-/

namespace DatabaseSync.MysqlSource

open ChangeEvent Checked

variable {σ κ : Type}

/-! ## Both orders of the rows -/

namespace KeyServer

variable (server : KeyServer σ κ) (table : ScanTable) (rows : List (ℕ → KeyValue σ))

/-- What the table can contain: values of its key columns, and no key twice. -/
structure Contains : Prop where
  holds : ∀ row ∈ rows, ∀ i ∈ table.keys, ∀ column, table.columns[i]? = some column →
    server.Holds column (row i)
  nodup : (rows.map table.key).Nodup

/-- After each row, the predicate selects the rows that follow in the order of the keys. -/
def CursorAgrees [LinearOrder σ] [LinearOrder κ] : Prop :=
  ∀ last ∈ rows, (rows.filter fun row => server.exceeds table row (server.lastKey table last)) =
    rows.filter fun row => rowGreater (table.key row) (table.key last)

/-- The labels of a column, or the values of another type, ascend as the column is compared. -/
def Ascends [LinearOrder σ] [LinearOrder κ] (column : ColumnInfo) : Prop :=
  if isLabelled column then
    ∀ m n, m < n → server.Holds column (.number n) →
      server.weight column (server.text column m) < server.weight column (server.text column n)
  else StrictMono (server.compared column)

end KeyServer

/-! ## Lexicographic comparison -/

section Lexicographic

variable {ι α β : Type} [LinearOrder α] [LinearOrder β] {is : List ι}

theorem rowGreater_self (as : List α) : rowGreater as as = false := by
  induction as with
  | nil => rfl
  | cons a as ih => simp [rowGreater, ih]

/-- Columns that compare alike make rows that compare alike. -/
theorem rowGreater_map_congr {f g : ι → α} {f' g' : ι → β}
    (hlt : ∀ i ∈ is, g i < f i ↔ g' i < f' i) (heq : ∀ i ∈ is, f i = g i ↔ f' i = g' i) :
    rowGreater (is.map f) (is.map g) = rowGreater (is.map f') (is.map g') := by
  induction is with
  | nil => rfl
  | cons i is ih =>
    have hrest := ih (fun j hj => hlt j (List.mem_cons_of_mem _ hj))
      (fun j hj => heq j (List.mem_cons_of_mem _ hj))
    have hlt := hlt i List.mem_cons_self
    have heq := heq i List.mem_cons_self
    simp only [List.map_cons, rowGreater, hrest, hlt, heq]

/-- The one column that differs decides. -/
theorem rowGreater_map_of_eq_off {f g : ι → α} {i : ι} (hi : i ∈ is)
    (hoff : ∀ j, j ≠ i → f j = g j) :
    rowGreater (is.map f) (is.map g) = true ↔ g i < f i := by
  induction is with
  | nil => cases hi
  | cons j is ih =>
    rw [List.map_cons, List.map_cons, rowGreater, Bool.or_eq_true, Bool.and_eq_true,
      decide_eq_true_eq, decide_eq_true_eq]
    by_cases hji : j = i
    · subst hji
      constructor
      · rintro (hlt | ⟨heq, hrest⟩)
        · exact hlt
        · have hfg : f = g := by
            ext k
            by_cases hk : k = j
            · rw [hk, heq]
            · exact hoff k hk
          rw [hfg, rowGreater_self] at hrest
          cases hrest
      · exact Or.inl
    · have hmem : i ∈ is := by
        rcases List.mem_cons.mp hi with rfl | hmem
        · exact absurd rfl hji
        · exact hmem
      rw [ih hmem, hoff j hji]
      simp

end Lexicographic

/-! ## Every key column -/

theorem primaryKey_lt {columns : List ColumnInfo} {i : ℕ} (hi : i ∈ primaryKey columns) :
    i < columns.length := by
  simp only [primaryKey, List.mem_map, List.mem_insertionSort, List.mem_filter] at hi
  obtain ⟨⟨column, j⟩, ⟨hmem, -⟩, rfl⟩ := hi
  exact List.snd_lt_of_mem_zipIdx hmem

section Accepted

variable {scope : SnapshotTable} {engine : Option String} {columns : List ColumnInfo}
  {table : ScanTable}

/-- An accepted table has the columns it was described with, and its key is their primary key. -/
theorem scanTable_eq_ok (h : scanTable scope engine columns = .ok table) :
    table.scope = scope ∧ table.columns = columns ∧ table.keys = primaryKey columns := by
  unfold scanTable at h
  split at h
  · cases h
  split at h
  · cases h
  split at h
  · cases h
  split at h
  · cases h
  split at h
  · cases h
  · cases h
    exact ⟨rfl, rfl, rfl⟩

/-- Every ordinal of the key has its column. -/
theorem scanTable_columns (h : scanTable scope engine columns = .ok table) :
    ∃ column : ℕ → ColumnInfo, ∀ i ∈ table.keys, table.columns[i]? = some (column i) := by
  obtain ⟨-, hcolumns, hkeys⟩ := scanTable_eq_ok h
  obtain ⟨first, hfirst⟩ := List.exists_mem_of_ne_nil _ table.keys_ne
  rw [hkeys] at hfirst
  have hpos : 0 < columns.length := lt_of_le_of_lt (Nat.zero_le _) (primaryKey_lt hfirst)
  refine ⟨fun i => columns[i]?.getD columns[0], ?_⟩
  intro i hi
  rw [hkeys] at hi
  simp [hcolumns, List.getElem?_eq_getElem (primaryKey_lt hi)]

/-- The tables of a reader are the selected ones in their order, and all of them were accepted. -/
theorem snapshotTables_spec
    {describe : SnapshotTable → Except String (Option String × List ColumnInfo)}
    {scopes : List SnapshotTable} {tables : List ScanTable}
    (h : snapshotTables describe scopes = .ok tables) :
    tables.map (·.scope) = scopes ∧
      ∀ table ∈ tables, ∃ column : ℕ → ColumnInfo,
        ∀ i ∈ table.keys, table.columns[i]? = some (column i) := by
  simp only [snapshotTables, bind_eq_ok] at h
  obtain ⟨_, -, h⟩ := h
  have haccepted := mapM_eq_ok h
  clear h
  induction haccepted with
  | nil => exact ⟨rfl, fun _ htable => absurd htable List.not_mem_nil⟩
  | @cons scope table scopes tables htable _ ih =>
    simp only [bind_eq_ok, Prod.exists] at htable
    obtain ⟨engine, columns, -, htable⟩ := htable
    refine ⟨?_, List.forall_mem_cons.mpr ⟨scanTable_columns htable, ih.2⟩⟩
    rw [List.map_cons, ih.1, (scanTable_eq_ok htable).1]

end Accepted

section Columns

variable {table : ScanTable} {column : ℕ → ColumnInfo}

theorem keyColumns_eq (hcolumn : ∀ i ∈ table.keys, table.columns[i]? = some (column i)) :
    table.keyColumns = table.keys.map column := by
  rw [ScanTable.keyColumns, ← List.filterMap_eq_map]
  apply List.filterMap_congr
  exact hcolumn

namespace KeyServer

variable (server : KeyServer σ κ)

/-- The predicate compares the images of the key columns. -/
theorem exceeds_lastKey [LinearOrder κ]
    (hcolumn : ∀ i ∈ table.keys, table.columns[i]? = some (column i))
    (row last : ℕ → KeyValue σ) :
    server.exceeds table row (server.lastKey table last) =
      rowGreater (table.keys.map fun i => server.image (column i) (row i))
        (table.keys.map fun i => server.image (column i) (last i)) := by
  simp only [exceeds, lastKey, keyColumns_eq hcolumn, ScanTable.key, List.zipWith_map,
    List.zipWith_self]
  rfl

end KeyServer

end Columns

namespace KeyServer

variable {server : KeyServer σ κ} {column : ColumnInfo}

theorem Holds.of_lt {m n : ℕ} (hn : server.Holds column (.number n)) (hlt : m < n) :
    server.Holds column (.number m) := by
  obtain ⟨hlabelled, hrange⟩ := hn
  refine ⟨hlabelled, ?_⟩
  split_ifs at hrange ⊢ with henum
  · omega
  · omega

/-- The values of a column ascend as it is compared. -/
theorem ascends_iff [LinearOrder σ] [LinearOrder κ] :
    server.Ascends column ↔ StrictMonoOn (server.image column) {v | server.Holds column v} := by
  unfold Ascends
  by_cases hlabelled : isLabelled column
  · rw [if_pos hlabelled]
    constructor
    · rintro hascends (m | v) hv (n | w) hw hlt
      · exact hascends m n (KeyValue.number_lt_number.mp hlt) hw
      · exact absurd hlabelled hw
      · exact absurd hlabelled hv
      · exact absurd hlabelled hv
    · intro hmono m n hlt hn
      exact hmono (hn.of_lt hlt) hn (KeyValue.number_lt_number.mpr hlt)
  · rw [if_neg hlabelled]
    constructor
    · rintro hascends (m | v) hv (n | w) hw hlt
      · exact absurd hv.1 hlabelled
      · exact absurd hv.1 hlabelled
      · exact absurd hw.1 hlabelled
      · exact hascends (KeyValue.plain_lt_plain.mp hlt)
    · intro hmono v w hlt
      exact hmono hlabelled hlabelled (KeyValue.plain_lt_plain.mpr hlt)

/-- Some value of a column. -/
def first [Inhabited σ] (column : ColumnInfo) : KeyValue σ :=
  if isLabelled column then .number 0 else .plain default

theorem holds_first [Inhabited σ] : server.Holds column (first column) := by
  unfold first
  split
  case isTrue hlabelled =>
    refine ⟨hlabelled, ?_⟩
    split
    · exact Nat.zero_le _
    · exact Nat.two_pow_pos _
  case isFalse hlabelled => exact hlabelled

section Orders

variable [LinearOrder σ] [LinearOrder κ] {table : ScanTable} {column : ℕ → ColumnInfo}

/-- Where every key column ascends, the predicate follows the order of the keys. -/
theorem cursorAgrees_of_ascends {rows : List (ℕ → KeyValue σ)}
    (hcolumn : ∀ i ∈ table.keys, table.columns[i]? = some (column i))
    (hascends : ∀ i ∈ table.keys, server.Ascends (column i))
    (hrows : server.Contains table rows) : server.CursorAgrees table rows := by
  intro last hlast
  apply List.filter_congr
  intro row hrow
  rw [exceeds_lastKey server hcolumn, ScanTable.key, ScanTable.key]
  apply rowGreater_map_congr
  · intro i hi
    have hmono := ascends_iff.mp (hascends i hi)
    exact hmono.lt_iff_lt (hrows.holds last hlast i hi _ (hcolumn i hi))
      (hrows.holds row hrow i hi _ (hcolumn i hi))
  · intro i hi
    have hmono := ascends_iff.mp (hascends i hi)
    exact hmono.injOn.eq_iff (hrows.holds row hrow i hi _ (hcolumn i hi))
      (hrows.holds last hlast i hi _ (hcolumn i hi))

/-- Two rows that differ in one key column show how it is compared. -/
theorem image_lt_of_cursorAgrees [Inhabited σ] {i : ℕ} {v w : KeyValue σ}
    (hcolumn : ∀ i ∈ table.keys, table.columns[i]? = some (column i)) (hi : i ∈ table.keys)
    (hv : server.Holds (column i) v) (hw : server.Holds (column i) w) (hlt : v < w)
    (hagrees : ∀ rows, server.Contains table rows → server.CursorAgrees table rows) :
    server.image (column i) v < server.image (column i) w := by
  let row (value : KeyValue σ) : ℕ → KeyValue σ :=
    Function.update (fun j => first (column j)) i value
  have hat : ∀ value, row value i = value := fun value => Function.update_self ..
  have hoff : ∀ value j, j ≠ i → row value j = first (column j) :=
    fun value j hj => Function.update_of_ne hj ..
  have hfollows : rowGreater (table.key (row w)) (table.key (row v)) = true := by
    refine (rowGreater_map_of_eq_off hi ?_).mpr ?_
    · intro j hj
      rw [hoff w j hj, hoff v j hj]
    · rw [hat, hat]
      exact hlt
  have hcontains : server.Contains table [row v, row w] := by
    constructor
    · intro r hr j hj info hinfo
      obtain rfl : column j = info := Option.some.inj ((hcolumn j hj).symm.trans hinfo)
      have hholds : ∀ value, server.Holds (column i) value →
          server.Holds (column j) (row value j) := by
        intro value hvalue
        by_cases hji : j = i
        · subst hji
          rw [hat]
          exact hvalue
        · rw [hoff value j hji]
          exact holds_first
      rcases List.mem_pair.mp hr with rfl | rfl
      · exact hholds v hv
      · exact hholds w hw
    · have hne : table.key (row v) ≠ table.key (row w) := by
        intro heq
        rw [heq, rowGreater_self] at hfollows
        cases hfollows
      simpa using hne
  have hselected : row w ∈ [row v, row w].filter fun r =>
      server.exceeds table r (server.lastKey table (row v)) := by
    rw [hagrees _ hcontains (row v) (by simp)]
    exact List.mem_filter.mpr ⟨by simp, hfollows⟩
  have hexceeds := (List.mem_filter.mp hselected).2
  rw [exceeds_lastKey server hcolumn, rowGreater_map_of_eq_off hi] at hexceeds
  · rwa [hat, hat] at hexceeds
  · intro j hj
    rw [hoff w j hj, hoff v j hj]

end Orders

end KeyServer

/-- The cursor follows the order of the keys, whatever the table contains, where the labels of
every `ENUM` and `SET` key column ascend with their numbers and every other key column is compared
as it is ordered. -/
theorem cursor_agrees_iff_keys_ascend [LinearOrder σ] [LinearOrder κ] [Inhabited σ]
    (server : KeyServer σ κ) {scope : ChangeEvent.SnapshotTable} {engine : Option String}
    {columns : List ColumnInfo} {table : ScanTable}
    (h : scanTable scope engine columns = .ok table) :
    (∀ rows, server.Contains table rows → server.CursorAgrees table rows) ↔
      ∀ column ∈ table.keyColumns, server.Ascends column := by
  obtain ⟨column, hcolumn⟩ := scanTable_columns h
  rw [keyColumns_eq hcolumn, List.forall_mem_map]
  constructor
  · intro hagrees i hi
    rw [KeyServer.ascends_iff]
    intro v hv w hw hlt
    exact KeyServer.image_lt_of_cursorAgrees hcolumn hi hv hw hlt hagrees
  · intro hascends rows hrows
    exact KeyServer.cursorAgrees_of_ascends hcolumn hascends hrows


/-! ## A key with a label -/

def rankColumns (rankType : String) : List ColumnInfo :=
  [⟨"rank", rankType, "enum", some "utf8mb4", some "utf8mb4_bin", false, some 0⟩,
    ⟨"id", "bigint", "bigint", none, none, false, some 1⟩]

/-- A table whose primary key is a label and a number. -/
def rankTable (rankType : String) : ScanTable :=
  ⟨⟨"shop", "orders", []⟩, rankColumns rankType, [0, 1], List.cons_ne_nil _ _⟩

/-- A server that compares texts by their characters. -/
def rankServer (labels : List String) : KeyServer ℕ (List ℕ) :=
  ⟨fun _ => labels, fun _ text => text.toList.map Char.toNat, fun _ n => [n]⟩

def rankRow (rank id : ℕ) : ℕ → KeyValue ℕ
  | 0 => .number rank
  | _ => .plain id

theorem rank_ascends : ∀ column ∈ (rankTable "enum('a','b')").keyColumns,
    (rankServer ["a", "b"]).Ascends column := by
  intro column hcolumn
  rcases List.mem_pair.mp hcolumn with rfl | rfl
  · intro m n hlt hn
    have hrange : n ≤ 2 := hn.2
    interval_cases n
    · omega
    · interval_cases m
      decide
    · interval_cases m
      · decide
      · decide
  · intro m n hlt
    exact List.cons_lt_cons_iff.mpr (.inl hlt)

theorem rankTable_cursor_agrees :
    scanTable ⟨"shop", "orders", []⟩ (some "InnoDB") (rankColumns "enum('a','b')") =
        .ok (rankTable "enum('a','b')") ∧
      ∀ rows, (rankServer ["a", "b"]).Contains (rankTable "enum('a','b')") rows →
        (rankServer ["a", "b"]).CursorAgrees (rankTable "enum('a','b')") rows := by
  have hscan : scanTable ⟨"shop", "orders", []⟩ (some "InnoDB") (rankColumns "enum('a','b')") =
      .ok (rankTable "enum('a','b')") := rfl
  refine ⟨hscan, ?_⟩
  rw [cursor_agrees_iff_keys_ascend _ hscan]
  exact rank_ascends

/-- A full batch of rows with the first label, and a row with the second. -/
def rankRows : List (ℕ → KeyValue ℕ) := (List.range batchRows).map (rankRow 1) ++ [rankRow 2 0]

theorem rankRows_ascend (rankType : String) : rankRows.Pairwise fun a b =>
    (rankTable rankType).key a < (rankTable rankType).key b := by
  refine List.pairwise_append.mpr ⟨?_, List.pairwise_singleton _ _, ?_⟩
  · refine List.pairwise_map.mpr (List.pairwise_lt_range.imp ?_)
    intro m n hlt
    simpa [ScanTable.key, rankTable, rankRow, List.cons_lt_cons_iff] using hlt
  · intro a ha b hb
    obtain ⟨n, -, rfl⟩ := List.mem_map.mp ha
    obtain rfl := List.mem_singleton.mp hb
    simp [ScanTable.key, rankTable, rankRow, List.cons_lt_cons_iff]

theorem rankRows_contained {labels : List String} (h : labels.length = 2) (rankType : String) :
    (rankServer labels).Contains (rankTable rankType) rankRows := by
  constructor
  · intro row hrow i hi column hcolumn
    obtain ⟨rank, id, rfl, hrank⟩ : ∃ rank id, row = rankRow rank id ∧ rank ≤ 2 := by
      rcases List.mem_append.mp hrow with hmem | hmem
      · obtain ⟨n, -, rfl⟩ := List.mem_map.mp hmem
        exact ⟨1, n, rfl, by omega⟩
      · exact ⟨2, 0, List.mem_singleton.mp hmem, le_refl 2⟩
    rcases List.mem_pair.mp hi with rfl | rfl
    · obtain rfl := Option.some.inj hcolumn
      exact ⟨rfl, h.symm ▸ hrank⟩
    · obtain rfl := Option.some.inj hcolumn
      exact Bool.false_ne_true
  · exact List.pairwise_map.mpr ((rankRows_ascend _).imp ne_of_lt)

theorem rankRows_boundary (rankType : String) :
    (Keyset.sortByKey (rankTable rankType).key rankRows)[batchRows - 1]? =
      some (rankRow 1 (batchRows - 1)) := by
  have hsorted : Keyset.sortByKey (rankTable rankType).key rankRows = rankRows :=
    List.Pairwise.insertionSort_eq ((rankRows_ascend _).imp le_of_lt)
  rw [hsorted]
  rfl

/-- After a batch that ends with the label `b`, the row with the label `a` is left out. -/
theorem rankTable_cursor_disagrees :
    scanTable ⟨"shop", "orders", []⟩ (some "InnoDB") (rankColumns "enum('b','a')") =
        .ok (rankTable "enum('b','a')") ∧
      (rankServer ["b", "a"]).Contains (rankTable "enum('b','a')") rankRows ∧
      (Keyset.sortByKey (rankTable "enum('b','a')").key rankRows)[batchRows - 1]? =
        some (rankRow 1 (batchRows - 1)) ∧
      ¬ (rankServer ["b", "a"]).CursorAgrees (rankTable "enum('b','a')") rankRows := by
  refine ⟨rfl, rankRows_contained rfl _, rankRows_boundary _, ?_⟩
  intro hagrees
  have hlast : rankRow 1 (batchRows - 1) ∈ rankRows :=
    List.mem_append_left _ (List.mem_map_of_mem (List.mem_range.mpr (by decide)))
  have hfollows : rankRow 2 0 ∈ rankRows.filter fun row =>
      rowGreater ((rankTable "enum('b','a')").key row)
        ((rankTable "enum('b','a')").key (rankRow 1 (batchRows - 1))) :=
    List.mem_filter.mpr ⟨List.mem_append_right _ List.mem_cons_self, by decide⟩
  rw [← hagrees _ hlast] at hfollows
  have hexceeds := (List.mem_filter.mp hfollows).2
  revert hexceeds
  decide

end DatabaseSync.MysqlSource
