import DatabaseSync.MysqlSource.KeyOrder

/-! # The batches of a snapshot

The batches of a table are its pages: the reader comes to an end, marks one batch of each table as
its last, and gives every stored row once, in the order of the keys, exactly if the cursor follows
the keys at the end of every full batch.
-/

namespace DatabaseSync.MysqlSource

open ChangeEvent Checked

variable {σ κ ν : Type} {server : SnapshotServer σ κ ν}

/-! ## Rows of a result -/

theorem ScanTable.readRows_forall₂ {table : ScanTable} {failure : ℕ → Option String} {i bytes : ℕ}
    {rows : List (ℕ → KeyValue σ)} {decoded : List (List ColumnDatum)}
    (h : table.readRows server failure i bytes rows = .ok decoded) :
    List.Forall₂ (fun row datum => table.decodeRow server row = .ok datum) rows decoded := by
  induction rows generalizing i bytes decoded with
  | nil =>
    cases h
    exact .nil
  | cons row rows ih =>
    rw [readRows] at h
    split at h
    · cases h
    · simp only [guard_eq_ok, bind_eq_ok, pure_eq, Except.ok.injEq] at h
      obtain ⟨-, -, datum, hdatum, rest, hrest, rfl⟩ := h
      exact .cons hdatum (ih hrest)

/-- A row can be read: its JSON values survive their text, and its values are decoded. -/
def ScanTable.RowReadable (server : SnapshotServer σ κ ν) (table : ScanTable)
    (row : ℕ → KeyValue σ) : Prop :=
  (∀ column ∈ table.jsonColumns, server.jsonRoundTrips (row column.2) = true) ∧
    ∃ decoded, table.decodeRow server row = .ok decoded

theorem ScanTable.readRows_of_readable {table : ScanTable} {i bytes : ℕ}
    {rows : List (ℕ → KeyValue σ)}
    (hrows : ∀ row ∈ rows, table.RowReadable server row)
    (hbytes : bytes + (rows.map (table.rowBytes server)).sum ≤ maxBatchBytes) :
    ∃ decoded, table.readRows server (fun _ => none) i bytes rows = .ok decoded := by
  induction rows generalizing i bytes with
  | nil => exact ⟨[], rfl⟩
  | cons row rows ih =>
    obtain ⟨hjson, datum, hdatum⟩ := hrows row List.mem_cons_self
    rw [List.map_cons, List.sum_cons] at hbytes
    obtain ⟨rest, hrest⟩ := @ih (i + 1) (bytes + table.rowBytes server row)
      (fun other hother => hrows other (List.mem_cons_of_mem row hother)) (by omega)
    refine ⟨datum :: rest, ?_⟩
    have hfits : ¬ maxBatchBytes < bytes + table.rowBytes server row := by omega
    have hsurvives : ¬ (table.jsonColumns.any fun column =>
        !server.jsonRoundTrips (row column.2)) = true := by
      simpa using hjson
    simp only [readRows, if_neg hfits, if_neg hsurvives, hdatum, ok_bind, hrest, pure_eq]

/-! ## One query -/

theorem rowGreater_iff {α : Type} [LinearOrder α] {as bs : List α} (h : as.length = bs.length) :
    rowGreater as bs = true ↔ bs < as := by
  induction as generalizing bs with
  | nil =>
    cases bs with
    | nil => simp [rowGreater]
    | cons b bs => cases h
  | cons a as ih =>
    cases bs with
    | nil => cases h
    | cons b bs =>
      have hlength : as.length = bs.length := by simpa using h
      rw [List.cons_lt_cons_iff, ← ih hlength, rowGreater, Bool.or_eq_true, Bool.and_eq_true,
        decide_eq_true_eq, decide_eq_true_eq, eq_comm]

/-- What the key columns of a row are compared as. -/
def KeyServer.imageKey (server : KeyServer σ κ) (table : ScanTable) (row : ℕ → KeyValue σ) :
    List κ :=
  List.zipWith server.image table.keyColumns (table.key row)

theorem KeyServer.comparedAs_lastKey (server : KeyServer σ κ) (table : ScanTable)
    (row : ℕ → KeyValue σ) :
    List.zipWith server.comparedAs table.keyColumns (server.lastKey table row) =
      server.imageKey table row := by
  unfold lastKey imageKey
  generalize table.key row = values
  induction table.keyColumns generalizing values with
  | nil => rfl
  | cons column columns ih =>
    cases values with
    | nil => rfl
    | cons value values =>
      simp only [List.zipWith_cons_cons, ih]
      rfl

/-- Where the query of a batch starts: after the last row that was read, if there is one. -/
def SnapshotServer.boundKey (server : SnapshotServer σ κ ν) (table : ScanTable)
    (last : Option (ℕ → KeyValue σ)) : List (KeyParameter σ) :=
  (last.map (server.keys.lastKey table)).getD []

section Query

variable [LinearOrder σ] [LinearOrder κ] {table : ScanTable}

/-- The rows of a table in the order of their keys. -/
def ScanTable.ordered (server : SnapshotServer σ κ ν) (table : ScanTable) :
    List (ℕ → KeyValue σ) :=
  Keyset.sortByKey table.key (table.stored server)

/-- The page of a table after a row. -/
def ScanTable.page (server : SnapshotServer σ κ ν) (table : ScanTable)
    (last : Option (ℕ → KeyValue σ)) : List (ℕ → KeyValue σ) :=
  Keyset.page table.key (server.keys.imageKey table) batchRows last (table.stored server)

/-- The pages of a table. -/
def ScanTable.Pages (server : SnapshotServer σ κ ν) (table : ScanTable)
    (last : Option (ℕ → KeyValue σ)) (pages : List (List (ℕ → KeyValue σ))) : Prop :=
  Keyset.Pages table.key (server.keys.imageKey table) batchRows (table.stored server) last pages

omit [LinearOrder σ] in
theorem KeyServer.exceeds_iff (server : KeyServer σ κ) (row last : ℕ → KeyValue σ) :
    server.exceeds table row (server.lastKey table last) = true ↔
      server.imageKey table last < server.imageKey table row := by
  have hlength : (server.imageKey table row).length = (server.imageKey table last).length := by
    simp [imageKey, ScanTable.key]
  rw [exceeds, comparedAs_lastKey]
  exact rowGreater_iff hlength

theorem ScanTable.query_eq (hcolumns : table.keyColumns ≠ []) (last : Option (ℕ → KeyValue σ)) :
    table.query server (server.boundKey table last) = table.page server last := by
  have hcondition : (fun row => (server.boundKey table last).isEmpty ||
      server.keys.exceeds table row (server.boundKey table last)) =
      Keyset.isAfter (server.keys.imageKey table) last := by
    ext row
    cases last with
    | none => rfl
    | some prior =>
      have hne : (server.keys.lastKey table prior).isEmpty = false := by
        have hkeys := table.keys_ne
        obtain ⟨column, columns, hcolumn⟩ := List.exists_cons_of_ne_nil hcolumns
        obtain ⟨i, is, hi⟩ := List.exists_cons_of_ne_nil hkeys
        simp [KeyServer.lastKey, ScanTable.key, hcolumn, hi]
      rw [SnapshotServer.boundKey, Option.map_some, Option.getD_some, hne, Bool.false_or,
        Bool.eq_iff_iff, KeyServer.exceeds_iff, Keyset.isAfter_some]
  rw [ScanTable.query, hcondition]
  rfl

end Query

/-! ## The batches of a table -/

/-- The batches of a table, each with the stored rows that its query has selected: they are from
the table, their rows are the decoded ones in order, and exactly the final batch is marked. -/
structure Reads (server : SnapshotServer σ κ ν) (source : Source) (table : ScanTable)
    (part : List (SnapshotBatch × List (ℕ → KeyValue σ))) : Prop where
  identity : ∀ b ∈ part, b.1.source = source ∧ b.1.schema = table.scope.schema ∧
    b.1.table = table.scope.table
  decoded : ∀ b ∈ part,
    List.Forall₂ (fun row datum => table.decodeRow server row = .ok datum) b.2 b.1.rows
  last : ∃ init final, part = init ++ [final] ∧ final.1.lastInTable = true ∧
    ∀ b ∈ init, b.1.lastInTable = false

section Reads

variable {source : Source} {table : ScanTable} {rows : List (ℕ → KeyValue σ)}
  {decoded : List (List ColumnDatum)}

/-- The batch of a table with these rows. -/
def batchOf (source : Source) (table : ScanTable) (rows : List (List ColumnDatum)) (last : Bool) :
    SnapshotBatch :=
  ⟨source, table.scope.schema, table.scope.table, rows, last⟩

theorem Reads.single
    (h : List.Forall₂ (fun row datum => table.decodeRow server row = .ok datum) rows decoded) :
    Reads server source table [(batchOf source table decoded true, rows)] := by
  refine ⟨?_, ?_, [], _, rfl, rfl, ?_⟩
  · rintro b hb
    rw [List.mem_singleton.mp hb]
    exact ⟨rfl, rfl, rfl⟩
  · rintro b hb
    rw [List.mem_singleton.mp hb]
    exact h
  · rintro b hb
    cases hb

theorem Reads.cons {part : List (SnapshotBatch × List (ℕ → KeyValue σ))}
    (h : List.Forall₂ (fun row datum => table.decodeRow server row = .ok datum) rows decoded)
    (hlater : Reads server source table part) :
    Reads server source table ((batchOf source table decoded false, rows) :: part) := by
  obtain ⟨init, final, rfl, hfinal, hinit⟩ := hlater.last
  refine ⟨?_, ?_, _ :: init, final, rfl, hfinal, ?_⟩
  · rintro b hb
    rcases List.mem_cons.mp hb with rfl | hb
    · exact ⟨rfl, rfl, rfl⟩
    · exact hlater.identity b hb
  · rintro b hb
    rcases List.mem_cons.mp hb with rfl | hb
    · exact h
    · exact hlater.decoded b hb
  · rintro b hb
    rcases List.mem_cons.mp hb with rfl | hb
    · rfl
    · exact hinit b hb

/-- Parts that end at their first marked element are found again in the whole. -/
theorem parts_eq_of_flatten {α : Type} {p : α → Bool} {parts parts' : List (List α)}
    (h : ∀ part ∈ parts, ∃ init final, part = init ++ [final] ∧ p final = true ∧
      ∀ b ∈ init, p b = false)
    (h' : ∀ part ∈ parts', ∃ init final, part = init ++ [final] ∧ p final = true ∧
      ∀ b ∈ init, p b = false)
    (heq : parts.flatten = parts'.flatten) : parts = parts' := by
  induction parts generalizing parts' with
  | nil =>
    cases parts' with
    | nil => rfl
    | cons part' parts' =>
      obtain ⟨init, final, rfl, -⟩ := h' part' List.mem_cons_self
      simp at heq
  | cons part parts ih =>
    obtain ⟨init, final, rfl, hfinal, hinit⟩ := h part List.mem_cons_self
    cases parts' with
    | nil => simp at heq
    | cons part' parts' =>
      obtain ⟨init', final', rfl, hfinal', hinit'⟩ := h' part' List.mem_cons_self
      simp only [List.flatten_cons, List.append_assoc, List.singleton_append] at heq
      -- the first part is found up to its mark
      have hbefore : ∀ {first : List α} {mark : α} {rest : List α}, p mark = true →
          (∀ b ∈ first, p b = false) →
          (first ++ mark :: rest).takeWhile (fun b => !p b) = first := by
        intro first mark rest hmark hfirst
        rw [List.takeWhile_append_of_pos (by simpa using hfirst), List.takeWhile_cons_of_neg
          (by simp [hmark]), List.append_nil]
      have hsame : init = init' := by
        rw [← hbefore hfinal hinit, heq, hbefore hfinal' hinit']
      subst hsame
      obtain ⟨rfl, hrest⟩ := List.cons.inj (List.append_cancel_left heq)
      rw [ih (fun part hpart => h part (List.mem_cons_of_mem _ hpart))
        (fun part hpart => h' part (List.mem_cons_of_mem _ hpart)) hrest]

end Reads

/-! ## The reader -/

variable [LinearOrder σ] [LinearOrder κ]

/-- The results of the calls until the iterator is at its end, each with the rows that its query
has selected, where `env` tells what happens in the calls. -/
inductive Drains (server : SnapshotServer σ κ ν) : (ℕ → BatchInput) → SnapshotReader σ →
    List (Except String SnapshotBatch × List (ℕ → KeyValue σ)) → Prop
  | finished {env : ℕ → BatchInput} {r : SnapshotReader σ} (h : r.next server (env 0) = none) :
      Drains server env r []
  | next {env : ℕ → BatchInput} {r r' : SnapshotReader σ} {result : Except String SnapshotBatch}
      {calls : List (Except String SnapshotBatch × List (ℕ → KeyValue σ))}
      (hnext : r.next server (env 0) = some (result, r'))
      (h : Drains server (fun n => env (n + 1)) r' calls) :
      Drains server env r ((result, r.selected server) :: calls)

/-- A call that does not fail. -/
def succeeded (b : SnapshotBatch × List (ℕ → KeyValue σ)) :
    Except String SnapshotBatch × List (ℕ → KeyValue σ) := (.ok b.1, b.2)

/-- The tables that are not finished, each with the last row that was read of it. -/
structure Stands (server : SnapshotServer σ κ ν) (r : SnapshotReader σ)
    (left : List (ScanTable × Option (ℕ → KeyValue σ))) : Prop where
  running : r.ended = false
  tables : left.map Prod.fst = r.tables.drop r.tableIndex
  columns : ∀ p ∈ left, p.1.keyColumns ≠ []
  current : ∀ p ∈ left.head?, r.lastKey = server.boundKey p.1 p.2
  later : ∀ p ∈ left.tail, p.2 = none

theorem batchRows_pos : 0 < batchRows := by decide

section Reader

variable {r r' : SnapshotReader σ} {input : BatchInput} {env : ℕ → BatchInput}
  {result : Except String SnapshotBatch}
  {calls : List (Except String SnapshotBatch × List (ℕ → KeyValue σ))}
  {table : ScanTable} {last : Option (ℕ → KeyValue σ)}
  {left : List (ScanTable × Option (ℕ → KeyValue σ))}

omit [LinearOrder σ] [LinearOrder κ] in
theorem Stands.new {source : Source} {tables : List ScanTable}
    (hcolumns : ∀ table ∈ tables, table.keyColumns ≠ []) :
    Stands server (.new source tables) (tables.map fun table => (table, none)) := by
  refine ⟨rfl, ?_, ?_, ?_, ?_⟩
  · simp [SnapshotReader.new, Function.comp_def]
  · rintro p hp
    obtain ⟨table, htable, rfl⟩ := List.mem_map.mp hp
    exact hcolumns table htable
  · rintro p hp
    obtain ⟨table, -, rfl⟩ := List.mem_map.mp (List.mem_of_mem_head? hp)
    rfl
  · rintro p hp
    obtain ⟨table, -, rfl⟩ := List.mem_map.mp (List.mem_of_mem_tail hp)
    rfl

theorem Stands.next_none (h : Stands server r []) : r.next server input = none := by
  have hdrop : r.tables.drop r.tableIndex = [] := h.tables.symm
  have hnone : r.tables[r.tableIndex]? = none := by
    rw [List.getElem?_eq_none_iff]
    exact List.drop_eq_nil_iff.mp hdrop
  rw [SnapshotReader.next, h.running, hnone]
  rfl

omit [LinearOrder σ] [LinearOrder κ] in
theorem Stands.current_table (h : Stands server r ((table, last) :: left)) :
    r.tables[r.tableIndex]? = some table := by
  have hdrop : r.tables.drop r.tableIndex = table :: left.map Prod.fst := h.tables.symm
  rw [← List.head?_drop, hdrop]
  rfl

theorem Stands.query_eq (h : Stands server r ((table, last) :: left)) :
    table.query server r.lastKey = table.page server last := by
  rw [h.current (table, last) rfl]
  exact table.query_eq (h.columns _ List.mem_cons_self) last

theorem Stands.selected_eq (h : Stands server r ((table, last) :: left)) :
    r.selected server = table.page server last := by
  rw [SnapshotReader.selected, h.current_table]
  exact h.query_eq

omit [LinearOrder σ] [LinearOrder κ] in
/-- The reader after the final batch of a table. -/
theorem Stands.nextTable (h : Stands server r ((table, last) :: left)) :
    Stands server { r with tableIndex := r.tableIndex + 1, lastKey := [] } left := by
  refine ⟨h.running, ?_, ?_, ?_, ?_⟩
  · have hdrop : r.tables.drop r.tableIndex = table :: left.map Prod.fst := h.tables.symm
    rw [← List.drop_drop, hdrop]
    rfl
  · rintro p hp
    exact h.columns p (List.mem_cons_of_mem _ hp)
  · rintro ⟨other, prior⟩ hp
    obtain rfl : prior = none := h.later _ (List.mem_of_mem_head? hp)
    rfl
  · rintro p hp
    exact h.later p (List.mem_of_mem_tail hp)

omit [LinearOrder σ] [LinearOrder κ] in
/-- The reader after a full batch. -/
theorem Stands.nextPage (h : Stands server r ((table, last) :: left)) (next : ℕ → KeyValue σ) :
    Stands server { r with lastKey := server.keys.lastKey table next }
      ((table, some next) :: left) := by
  refine ⟨h.running, h.tables, ?_, ?_, h.later⟩
  · rintro p hp
    rcases List.mem_cons.mp hp with rfl | hp
    · exact h.columns (table, last) List.mem_cons_self
    · exact h.columns p (List.mem_cons_of_mem _ hp)
  · rintro p hp
    cases hp
    rfl

/-- What a call returns and where it leaves the reader. -/
inductive Step (server : SnapshotServer σ κ ν) (r : SnapshotReader σ) (table : ScanTable)
    (last : Option (ℕ → KeyValue σ)) (left : List (ScanTable × Option (ℕ → KeyValue σ))) :
    Except String SnapshotBatch → SnapshotReader σ → Prop
  | failed (e : String) : Step server r table last left (.error e) { r with ended := true }
  | last {decoded : List (List ColumnDatum)} {r' : SnapshotReader σ}
      (hshort : (table.page server last).length < batchRows)
      (hdecoded : List.Forall₂ (fun row datum => table.decodeRow server row = .ok datum)
        (table.page server last) decoded)
      (hstands : Stands server r' left) (hsource : r'.source = r.source) :
      Step server r table last left (.ok (batchOf r.source table decoded true)) r'
  | more {decoded : List (List ColumnDatum)} {r' : SnapshotReader σ} {next : ℕ → KeyValue σ}
      (hfull : batchRows ≤ (table.page server last).length)
      (hnext : (table.page server last).getLast? = some next)
      (hdecoded : List.Forall₂ (fun row datum => table.decodeRow server row = .ok datum)
        (table.page server last) decoded)
      (hstands : Stands server r' ((table, some next) :: left)) (hsource : r'.source = r.source) :
      Step server r table last left (.ok (batchOf r.source table decoded false)) r'

theorem Stands.step (h : Stands server r ((table, last) :: left))
    (hnext : r.next server input = some (result, r')) :
    Step server r table last left result r' := by
  rw [SnapshotReader.next, h.running, h.current_table] at hnext
  simp only [Bool.false_eq_true, if_false] at hnext
  split at hnext
  next batch reader hbatch =>
    cases hnext
    simp only [SnapshotReader.nextBatch, h.query_eq, throw_eq, error_bind, pure_eq, guard_eq_ok,
      bind_eq_ok] at hbatch
    obtain ⟨-, ⟨⟩, -, decoded, hread, hbatch⟩ := hbatch
    have hdecoded := ScanTable.readRows_forall₂ hread
    have hlength := hdecoded.length_eq
    split at hbatch
    next hshort =>
      cases hbatch
      rw [decide_eq_true hshort]
      exact .last (by omega) hdecoded h.nextTable rfl
    next hfull =>
      cases hbatch
      rw [decide_eq_false hfull]
      have hne : table.page server last ≠ [] := by
        intro hnil
        rw [hnil, List.length_nil] at hlength
        exact hfull (hlength ▸ batchRows_pos)
      have hlast := List.getLast?_eq_some_getLast hne
      rw [hlast, Option.map_some, Option.getD_some]
      exact .more (by omega) hlast hdecoded (h.nextPage _) rfl
  next e herror =>
    cases hnext
    exact .failed e

theorem reader_ended (h : r.ended = true) : r.next server input = none := by
  rw [SnapshotReader.next, if_pos h]

theorem Stands.next_some (h : Stands server r ((table, last) :: left)) (input : BatchInput) :
    ∃ result r', r.next server input = some (result, r') := by
  rw [SnapshotReader.next, h.running, h.current_table]
  simp only [Bool.false_eq_true, if_false]
  split
  · exact ⟨_, _, rfl⟩
  · exact ⟨_, _, rfl⟩

/-- The reader comes to an end, since the pages of each table do. -/
theorem Stands.drains (h : Stands server r left) (env : ℕ → BatchInput) :
    ∃ calls, Drains server env r calls := by
  induction left generalizing r env with
  | nil => exact ⟨[], .finished h.next_none⟩
  | cons p left ih =>
    obtain ⟨table, last⟩ := p
    obtain ⟨pages, hpages⟩ : ∃ pages, table.Pages server last pages :=
      Keyset.exists_pages batchRows_pos _ _
    unfold ScanTable.Pages at hpages
    induction hpages generalizing r env with
    | @short last hshort =>
      obtain ⟨result, r', hnext⟩ := h.next_some (env 0)
      obtain ⟨calls, hcalls⟩ : ∃ calls, Drains server (fun n => env (n + 1)) r' calls := by
        cases h.step hnext with
        | failed e => exact ⟨[], .finished (reader_ended rfl)⟩
        | last _ _ hstands _ => exact ih hstands _
        | more hfull _ _ _ _ => exact absurd hshort hfull.not_gt
      exact ⟨_, .next hnext hcalls⟩
    | @full last next pages hfull hlast _ ihpages =>
      obtain ⟨result, r', hnext⟩ := h.next_some (env 0)
      obtain ⟨calls, hcalls⟩ : ∃ calls, Drains server (fun n => env (n + 1)) r' calls := by
        cases h.step hnext with
        | failed e => exact ⟨[], .finished (reader_ended rfl)⟩
        | last _ _ hstands _ => exact ih hstands _
        | more _ hlast' _ hstands _ =>
          obtain rfl := Option.some.inj (hlast.symm.trans hlast')
          exact ihpages _ hstands
      exact ⟨_, .next hnext hcalls⟩

/-- A table whose rows can be read, at most 16 MiB in a batch. -/
structure Readable (server : SnapshotServer σ κ ν) (table : ScanTable) : Prop where
  rows : ∀ row ∈ table.stored server, table.RowReadable server row
  batch : ∀ page : List (ℕ → KeyValue σ), page.Sublist (table.ordered server) →
    page.length ≤ batchRows → (page.map (table.rowBytes server)).sum ≤ maxBatchBytes

/-- Nothing disturbs a batch. -/
def BatchInput.quiet : BatchInput := ⟨false, .ok (), fun _ => none⟩

theorem Stands.next_ok (h : Stands server r ((table, last) :: left))
    (hkeys : ((table.stored server).map table.key).Nodup) (hreadable : Readable server table) :
    ∃ batch r', r.next server .quiet = some (.ok batch, r') := by
  have hpage : (table.page server last).Sublist (table.ordered server) :=
    Keyset.page_sublist hkeys
  have hrows : ∀ row ∈ table.page server last, table.RowReadable server row :=
    fun row hrow => hreadable.rows row (Keyset.mem_page hrow).1
  have hbytes : 0 + ((table.page server last).map (table.rowBytes server)).sum ≤
      maxBatchBytes := by
    rw [Nat.zero_add]
    exact hreadable.batch _ hpage (List.length_take_le batchRows _)
  obtain ⟨decoded, hdecoded⟩ := table.readRows_of_readable (i := 0) hrows hbytes
  have hbatch : ∃ batch r', r.nextBatch server table .quiet = .ok (batch, r') := by
    simp only [SnapshotReader.nextBatch, h.query_eq, BatchInput.quiet, Bool.false_eq_true,
      if_false, ok_bind, hdecoded]
    split
    · exact ⟨_, _, rfl⟩
    · exact ⟨_, _, rfl⟩
  obtain ⟨batch, r', hbatch⟩ := hbatch
  refine ⟨batch, r', ?_⟩
  rw [SnapshotReader.next, h.running, h.current_table]
  simp only [Bool.false_eq_true, if_false, hbatch]

/-- An undisturbed reader of readable tables has no failing call. -/
theorem Drains.all_ok (h : Drains server env r calls) (hstands : Stands server r left)
    (hquiet : ∀ n, env n = .quiet)
    (hkeys : ∀ p ∈ left, ((p.1.stored server).map p.1.key).Nodup)
    (hreadable : ∀ p ∈ left, Readable server p.1) :
    ∃ batches : List (SnapshotBatch × List (ℕ → KeyValue σ)), calls = batches.map succeeded := by
  induction h generalizing left with
  | finished _ => exact ⟨[], rfl⟩
  | @next env r r' result calls hnext _ ih =>
    cases left with
    | nil =>
      rw [hstands.next_none] at hnext
      cases hnext
    | cons p left =>
      obtain ⟨table, last⟩ := p
      have hdistinct := hkeys _ List.mem_cons_self
      have htable : Readable server table := hreadable _ List.mem_cons_self
      obtain ⟨batch, s, hok⟩ := hstands.next_ok hdistinct htable
      rw [hquiet 0, hok] at hnext
      cases hnext
      have hnew : ∃ batches : List (SnapshotBatch × List (ℕ → KeyValue σ)),
          calls = batches.map succeeded := by
        cases hstands.step hok with
        | last _ _ hnew _ =>
          exact ih hnew (fun n => hquiet (n + 1))
            (fun p hp => hkeys p (List.mem_cons_of_mem _ hp))
            (fun p hp => hreadable p (List.mem_cons_of_mem _ hp))
        | more _ _ _ hnew _ =>
          refine ih hnew (fun n => hquiet (n + 1)) ?_ ?_
          · rintro p hp
            rcases List.mem_cons.mp hp with rfl | hp
            · exact hdistinct
            · exact hkeys p (List.mem_cons_of_mem _ hp)
          · rintro p hp
            rcases List.mem_cons.mp hp with rfl | hp
            · exact htable
            · exact hreadable p (List.mem_cons_of_mem _ hp)
      obtain ⟨batches, rfl⟩ := hnew
      exact ⟨(batch, r.selected server) :: batches, rfl⟩

/-- Without a failing call the reader reads the pages of every table. -/
theorem Drains.reads (h : Drains server env r calls) (hstands : Stands server r left)
    {batches : List (SnapshotBatch × List (ℕ → KeyValue σ))}
    (hbatches : calls = batches.map succeeded) :
    ∃ parts, batches = parts.flatten ∧ List.Forall₂ (fun p part =>
      Reads server r.source p.1 part ∧ p.1.Pages server p.2 (part.map Prod.snd)) left parts := by
  induction h generalizing left batches with
  | @finished env r hnone =>
    have hnil : batches = [] := by
      cases batches with
      | nil => rfl
      | cons batch batches => cases hbatches
    cases left with
    | nil => exact ⟨[], hnil, .nil⟩
    | cons p left =>
      obtain ⟨result, r', hnext⟩ := hstands.next_some (env 0)
      rw [hnone] at hnext
      cases hnext
  | @next env r r' result calls hnext _ ih =>
    cases left with
    | nil =>
      rw [hstands.next_none] at hnext
      cases hnext
    | cons p left =>
      obtain ⟨table, last⟩ := p
      cases batches with
      | nil => cases hbatches
      | cons b batches =>
        obtain ⟨batch, rows⟩ := b
        rw [List.map_cons, List.cons.injEq, succeeded, Prod.mk.injEq] at hbatches
        obtain ⟨⟨rfl, rfl⟩, hlater⟩ := hbatches
        rw [hstands.selected_eq]
        cases hstands.step hnext with
        | last hshort hdecoded hnew hsource =>
          obtain ⟨parts, rfl, hparts⟩ := ih hnew hlater
          rw [hsource] at hparts
          exact ⟨[_] :: parts, rfl, .cons ⟨Reads.single hdecoded, .short hshort⟩ hparts⟩
        | more hfull hlast hdecoded hnew hsource =>
          obtain ⟨parts, rfl, hparts⟩ := ih hnew hlater
          rw [hsource] at hparts
          cases hparts with
          | @cons _ part _ parts hpart hparts =>
            exact ⟨(_ :: part) :: parts, rfl,
              .cons ⟨Reads.cons hdecoded hpart.1, .full hfull hlast hpart.2⟩ hparts⟩

end Reader

/-! ## Complete reading -/

section Complete

variable {source : Source} {tables : List ScanTable} {table : ScanTable}

/-- At the end of every full batch, the rows that exceed its last key are the rows that follow in
the order of the keys. -/
def ScanTable.CursorFollows (server : SnapshotServer σ κ ν) (table : ScanTable) : Prop :=
  ∀ n last, (table.ordered server)[n * batchRows + (batchRows - 1)]? = some last →
    ∀ row ∈ table.stored server,
      server.keys.exceeds table row (server.keys.lastKey table last) =
        rowGreater (table.key row) (table.key last)

theorem ScanTable.cursorFollows_iff : table.CursorFollows server ↔
    Keyset.CursorFollows table.key (server.keys.imageKey table) batchRows
      (table.stored server) := by
  refine forall₂_congr fun n last => imp_congr_right fun _ => forall₂_congr fun row _ => ?_
  have hlength : (table.key row).length = (table.key last).length := by simp [ScanTable.key]
  rw [Bool.eq_iff_iff, KeyServer.exceeds_iff, rowGreater_iff hlength]

/-- Where every key column ascends, the cursor follows the keys. -/
theorem ScanTable.cursorFollows_of_ascends {column : ℕ → ColumnInfo}
    (hcolumn : ∀ i ∈ table.keys, table.columns[i]? = some (column i))
    (hcontains : server.keys.Contains table (table.stored server))
    (hascends : ∀ info ∈ table.keyColumns, server.keys.Ascends info) :
    table.CursorFollows server := by
  rw [keyColumns_eq hcolumn, List.forall_mem_map] at hascends
  have hagrees := KeyServer.cursorAgrees_of_ascends hcolumn hascends hcontains
  intro n last hlast row hrow
  have hmem : last ∈ table.stored server :=
    (Keyset.sortByKey_perm _).mem_iff.mp (List.mem_of_getElem? hlast)
  have hselected : row ∈ (table.stored server).filter (fun row =>
      server.keys.exceeds table row (server.keys.lastKey table last)) ↔
      row ∈ (table.stored server).filter fun row =>
        rowGreater (table.key row) (table.key last) := by
    rw [hagrees last hmem]
  rwa [List.mem_filter, List.mem_filter, and_iff_right hrow, and_iff_right hrow,
    ← Bool.eq_iff_iff] at hselected

/-- The calls of a drained reader: an undisturbed one fails nowhere, and without a failure every
row of every table is read once in the order of the keys, and one batch of each table is marked as
its last. -/
structure ReadsCompletely (server : SnapshotServer σ κ ν) (source : Source)
    (tables : List ScanTable) (env : ℕ → BatchInput)
    (calls : List (Except String SnapshotBatch × List (ℕ → KeyValue σ))) : Prop where
  undisturbed : (∀ n, env n = .quiet) → (∀ table ∈ tables, Readable server table) →
    ∃ batches : List (SnapshotBatch × List (ℕ → KeyValue σ)), calls = batches.map succeeded
  complete : ∀ batches : List (SnapshotBatch × List (ℕ → KeyValue σ)),
    calls = batches.map succeeded → ∃ parts, batches = parts.flatten ∧
      List.Forall₂ (fun table part => Reads server source table part ∧
        part.flatMap Prod.snd = table.ordered server) tables parts

variable (hcolumns : ∀ table ∈ tables, table.keyColumns ≠ [])
  (hkeys : ∀ table ∈ tables, ((table.stored server).map table.key).Nodup)
include hcolumns hkeys

/-- Tables whose cursors follow their keys are read completely. -/
theorem readsCompletely_of_follows (hfollows : ∀ table ∈ tables, table.CursorFollows server)
    {env : ℕ → BatchInput} {calls : List (Except String SnapshotBatch × List (ℕ → KeyValue σ))}
    (h : Drains server env (.new source tables) calls) :
    ReadsCompletely server source tables env calls := by
  have hstands : Stands server (.new source tables) _ := Stands.new hcolumns
  constructor
  · intro hquiet hreadable
    apply h.all_ok hstands hquiet
    · rintro p hp
      obtain ⟨table, htable, rfl⟩ := List.mem_map.mp hp
      exact hkeys table htable
    · rintro p hp
      obtain ⟨table, htable, rfl⟩ := List.mem_map.mp hp
      exact hreadable table htable
  · intro batches hbatches
    obtain ⟨parts, hparts, hreads⟩ := h.reads hstands hbatches
    refine ⟨parts, hparts, ?_⟩
    rw [List.forall₂_map_left_iff] at hreads
    have hmembers := (List.forall₂_and_left _ _).mpr ⟨fun table htable => htable, hreads⟩
    refine hmembers.imp fun table part hpart => ⟨hpart.2.1, ?_⟩
    have hall := (Keyset.Pages.flatten_eq_iff batchRows_pos (hkeys table hpart.1) hpart.2.2).mpr
      (ScanTable.cursorFollows_iff.mp (hfollows table hpart.1))
    rwa [← List.flatMap_def] at hall

/-- The cursors of readable tables that are read completely follow their keys. -/
theorem follows_of_readsCompletely (hreadable : ∀ table ∈ tables, Readable server table)
    (h : ∀ calls, Drains server (fun _ => .quiet) (.new source tables) calls →
      ReadsCompletely server source tables (fun _ => .quiet) calls) :
    ∀ table ∈ tables, table.CursorFollows server := by
  have hstands : Stands server (.new source tables) _ := Stands.new hcolumns
  obtain ⟨calls, hcalls⟩ := hstands.drains fun _ => .quiet
  obtain ⟨hundisturbed, hcomplete⟩ := h calls hcalls
  obtain ⟨batches, hbatches⟩ := hundisturbed (fun _ => rfl) hreadable
  obtain ⟨parts, hparts, hreads⟩ := hcomplete batches hbatches
  obtain ⟨parts', hparts', hpages⟩ := hcalls.reads hstands hbatches
  rw [List.forall₂_map_left_iff] at hpages
  have hmarked : ∀ {parts : List (List (SnapshotBatch × List (ℕ → KeyValue σ)))}
      {P : ScanTable → List (SnapshotBatch × List (ℕ → KeyValue σ)) → Prop},
      List.Forall₂ (fun table part => Reads server source table part ∧ P table part) tables
        parts → ∀ part ∈ parts, ∃ init final, part = init ++ [final] ∧
          final.1.lastInTable = true ∧ ∀ b ∈ init, b.1.lastInTable = false := by
    intro parts P hforall part hpart
    obtain ⟨table, -, hpart⟩ := forall₂_mem_right hforall hpart
    exact hpart.1.last
  obtain rfl : parts = parts' := parts_eq_of_flatten (hmarked hreads) (hmarked hpages)
    (hparts.symm.trans hparts')
  intro table htable
  have hboth := List.Forall₂.mp (fun _ _ hread hpage => And.intro hread hpage) hreads hpages
  obtain ⟨part, -, ⟨-, hrows⟩, -, hpages⟩ := forall₂_mem_left hboth htable
  apply ScanTable.cursorFollows_iff.mpr
  apply (Keyset.Pages.flatten_eq_iff batchRows_pos (hkeys table htable) hpages).mp
  rw [← List.flatMap_def]
  exact hrows

end Complete

end DatabaseSync.MysqlSource
