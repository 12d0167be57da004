import DatabaseSync.MysqlSource.Decoder

/-! # The transactions of a binlog

Every event has a meaning for the transactions of its binlog: it announces, begins, extends,
commits or rolls back one, or does not matter to them. The committed transactions are read off
these marks. The decoder emits those with changes of captured tables, or all of them if there
is a selection of tables.
-/

namespace DatabaseSync.MysqlSource

open ChangeEvent Checked Text

/-- What an event means for the transactions. -/
inductive Mark
  | announce (id : String) (cursor : SourceCursor)
  | begin (cursor : SourceCursor)
  | rows (changes : List RowChange)
  | commit (cursor : SourceCursor)
  | control (cursor : SourceCursor)
  | rollback
  | statement
  | quiet

namespace Mark

/-- The changes of a mark. -/
def changes : Mark → List RowChange
  | rows changes => changes
  | _ => []

/-- The marks that bound a transaction. -/
def bounds : Mark → Bool
  | announce .. | begin .. | commit .. | control .. | rollback => true
  | _ => false

end Mark

/-- A transaction that has been announced or has begun. -/
structure Open where
  id : String
  beginCursor : SourceCursor
  began : Bool
  changes : List RowChange

def Open.close (source : Source) (t : Open) (cursor : SourceCursor) : ChangeTransaction :=
  ⟨source, t.id, t.beginCursor, cursor, t.changes⟩

/-- The open transaction after a mark, and the transaction it commits. A statement other than
a row change gives up a transaction that has no changes yet. -/
def Mark.step (source : Source) (t : Option Open) : Mark → Option Open × Option ChangeTransaction
  | announce id cursor => (some ⟨id, cursor, false, []⟩, none)
  | begin cursor => (some (match t with
      | none => ⟨"anonymous:" ++ cursor.display, cursor, true, []⟩
      | some t => ⟨t.id, cursor, true, []⟩), none)
  | rows changes =>
    (t.map fun t => if t.began then { t with changes := t.changes ++ changes } else t, none)
  | commit cursor | control cursor => (none, t.map fun t => t.close source cursor)
  | rollback => (none, none)
  | statement => (t.filter fun t => !t.changes.isEmpty, none)
  | quiet => (t, none)

/-- What a binlog may say of an open transaction. -/
def Mark.Legal (t : Option Open) : Mark → Prop
  | announce .. => t = none
  | begin _ => ∀ u, t = some u → u.began = false
  | rows _ => ∃ u, t = some u ∧ u.began = true
  | commit _ => ∀ u, t = some u → u.began = true
  | _ => True

/-- The committed transactions in the order of their commits. -/
def transactions (source : Source) : Option Open → List Mark → List ChangeTransaction
  | _, [] => []
  | t, m :: marks => (m.step source t).2.toList ++ transactions source (m.step source t).1 marks

def LegalRun (source : Source) : Option Open → List Mark → Prop
  | _, [] => True
  | t, m :: marks => m.Legal t ∧ LegalRun source (m.step source t).1 marks

section Marks

variable {ν : Type} (cfg : DecoderConfig ν)

def queryMark (query : String) (cursor : SourceCursor) : Mark :=
  let statement := toAsciiUppercase (trim query)
  if statement = "BEGIN" ∨ startsWith statement "BEGIN " then .begin cursor
  else if statement = "COMMIT" then .commit cursor
  else if statement = "ROLLBACK" then .rollback
  else if controlDdl statement && !cfg.captureTables.isEmpty then .control cursor
  else .statement

/-- The meaning of an event where the context holds the current file and table maps. -/
def mark (context : Context) (event : Event) : Mark :=
  let cursor := context.cursor event.logPos
  match event.data with
  | .gtid sid gno tag => .announce (transactionId sid gno tag) cursor
  | .anonymousGtid => .announce ("anonymous:" ++ cursor.display) cursor
  | .query text => queryMark cfg text cursor
  | .rows rows =>
    match decodeRows cfg context rows cursor event.timestamp with
    | .ok (some changes) => .rows changes
    | _ => .quiet
  | .xid => .commit cursor
  | _ => .quiet

def Context.next (context : Context) (event : Event) : Context :=
  match event.data with
  | .rotate name => ⟨name, []⟩
  | .tableMap table queried =>
    match storeTableMap cfg table queried with
    | .ok info => { context with tables := (table.tableId, info) :: context.tables }
    | .error _ => context
  | _ => context

def marks : Context → List Event → List Mark
  | _, [] => []
  | context, event :: events => mark cfg context event :: marks (context.next cfg event) events

/-- The transactions that are published. -/
def published (t : ChangeTransaction) : Bool :=
  !t.changes.isEmpty || !cfg.captureTables.isEmpty

end Marks

/-! ## Committed transactions are segments of the binlog -/

/-- The name of a transaction that begins after these marks: the last announcement, if it comes
after every other boundary. -/
def Names (before : List Mark) (id : String) (beginCursor : SourceCursor) : Prop :=
  id = "anonymous:" ++ beginCursor.display ∨ ∃ earlier cursor rest,
    before = earlier ++ .announce id cursor :: rest ∧ ∀ m ∈ rest, m.bounds = false

/-- How the marks so far explain the open transaction: no other boundary came since, and its
changes are those of the marks since its `BEGIN` in their order. -/
def Explains (past : List Mark) (t : Open) : Prop :=
  if t.began then ∃ before rest, past = before ++ .begin t.beginCursor :: rest ∧
    (∀ m ∈ rest, m.bounds = false) ∧ t.changes = rest.flatMap Mark.changes ∧
    Names before t.id t.beginCursor
  else t.changes = [] ∧ ∃ before rest, past = before ++ .announce t.id t.beginCursor :: rest ∧
    ∀ m ∈ rest, m.bounds = false

/-- The transaction is a segment of the marks that ends with its commit. -/
def Segment (source : Source) (marks : List Mark) (closed : ChangeTransaction) : Prop :=
  ∃ past last after t, marks = past ++ last :: after ∧
    (last = .commit closed.commitCursor ∨ last = .control closed.commitCursor) ∧
    Explains past t ∧ closed = t.close source closed.commitCursor

section Segments

variable {source : Source} {past : List Mark} {m : Mark} {t : Option Open}

theorem bounds_concat {rest : List Mark} (hrest : ∀ m ∈ rest, m.bounds = false)
    (hm : m.bounds = false) : ∀ n ∈ rest ++ [m], n.bounds = false := by
  intro n hn
  rcases List.mem_append.mp hn with hn | hn
  · exact hrest n hn
  · rw [List.mem_singleton.mp hn]
    exact hm

theorem Explains.extend {t : Open} (h : Explains past t) (hm : m.bounds = false)
    (hchanges : m.changes = []) : Explains (past ++ [m]) t := by
  unfold Explains at h ⊢
  split
  next hbegan =>
    rw [if_pos hbegan] at h
    obtain ⟨before, rest, rfl, hrest, heq, hname⟩ := h
    refine ⟨before, rest ++ [m], by simp, bounds_concat hrest hm, ?_, hname⟩
    simp [heq, hchanges]
  next hbegan =>
    rw [if_neg hbegan] at h
    obtain ⟨hnone, before, rest, rfl, hrest⟩ := h
    exact ⟨hnone, before, rest ++ [m], by simp, bounds_concat hrest hm⟩

theorem Explains.rows {t : Open} {changes : List RowChange} (h : Explains past t)
    (hbegan : t.began = true) :
    Explains (past ++ [.rows changes]) { t with changes := t.changes ++ changes } := by
  unfold Explains at h ⊢
  rw [if_pos hbegan] at h ⊢
  obtain ⟨before, rest, rfl, hrest, heq, hname⟩ := h
  refine ⟨before, rest ++ [.rows changes], by simp, bounds_concat hrest rfl, ?_, hname⟩
  simp [heq, Mark.changes]

theorem Explains.step (h : ∀ u, t = some u → Explains past u) (hlegal : m.Legal t) :
    ∀ u, (m.step source t).1 = some u → Explains (past ++ [m]) u := by
  intro u hu
  cases m with
  | announce id cursor =>
    cases hu
    exact ⟨rfl, past, [], rfl, by simp⟩
  | begin cursor =>
    cases t with
    | none =>
      cases hu
      exact ⟨past, [], rfl, by simp, rfl, .inl rfl⟩
    | some t =>
      have hannounced := h t rfl
      rw [Explains, if_neg (by rw [hlegal t rfl]; decide)] at hannounced
      obtain ⟨-, before, rest, rfl, hrest⟩ := hannounced
      cases hu
      exact ⟨_, [], rfl, by simp, rfl, .inr ⟨before, t.beginCursor, rest, rfl, hrest⟩⟩
  | rows changes =>
    obtain ⟨t, rfl, hbegan⟩ := hlegal
    rw [Mark.step, Option.map_some, if_pos hbegan] at hu
    cases hu
    exact (h t rfl).rows hbegan
  | commit cursor => cases hu
  | control cursor => cases hu
  | rollback => cases hu
  | statement =>
    cases t with
    | none => cases hu
    | some t =>
      obtain ⟨-, rfl⟩ : (!t.changes.isEmpty) = true ∧ t = u := by
        simpa [Mark.step, Option.filter_some, Option.ite_none_right_eq_some] using hu
      exact (h t rfl).extend rfl rfl
  | quiet => exact (h u hu).extend rfl rfl

theorem Explains.close (h : ∀ u, t = some u → Explains past u) {closed : ChangeTransaction}
    (hclosed : (m.step source t).2 = some closed) (after : List Mark) :
    Segment source (past ++ m :: after) closed := by
  have hcommit : ∀ cursor, (m = .commit cursor ∨ m = .control cursor) →
      t.map (fun u => u.close source cursor) = some closed →
        Segment source (past ++ m :: after) closed := by
    intro cursor hm hclosed
    obtain ⟨u, rfl, rfl⟩ := Option.map_eq_some_iff.mp hclosed
    exact ⟨past, m, after, u, rfl, hm, h u rfl, rfl⟩
  cases m with
  | commit cursor => exact hcommit cursor (.inl rfl) hclosed
  | control cursor => exact hcommit cursor (.inr rfl) hclosed
  | _ => cases hclosed

theorem segment_of_transactions {marks : List Mark} (h : ∀ u, t = some u → Explains past u)
    (hlegal : LegalRun source t marks) :
    ∀ closed ∈ transactions source t marks, Segment source (past ++ marks) closed := by
  induction marks generalizing past t with
  | nil =>
    intro closed hclosed
    cases hclosed
  | cons m marks ih =>
    intro closed hclosed
    obtain ⟨hm, hmarks⟩ := hlegal
    rcases List.mem_append.mp hclosed with hfirst | hlater
    · exact Explains.close h (Option.mem_toList.mp hfirst) marks
    · have hsegment := ih (Explains.step h hm) hmarks closed hlater
      rwa [List.append_assoc, List.singleton_append] at hsegment

/-- Without an open transaction there are no rows up to the next boundary. -/
theorem flatMap_changes_eq_nil {rest after : List Mark} (hrest : ∀ m ∈ rest, m.bounds = false)
    (hlegal : LegalRun source none (rest ++ after)) : rest.flatMap Mark.changes = [] := by
  induction rest with
  | nil => rfl
  | cons m rest ih =>
    obtain ⟨hm, hlegal⟩ := hlegal
    have hmember := hrest m List.mem_cons_self
    have hlater : ∀ m ∈ rest, m.bounds = false := fun n hn => hrest n (List.mem_cons_of_mem _ hn)
    cases m with
    | announce | begin | commit | control | rollback => cases hmember
    | rows changes =>
      obtain ⟨u, hu, -⟩ := hm
      cases hu
    | statement | quiet => exact ih hlater hlegal

/-- Between `BEGIN` and the commit the open transaction collects the changes. One that a
statement gave up gets none any more. -/
theorem transactions_mem_of_rest {rest after : List Mark} {last : Mark} {cursor : SourceCursor}
    {u : Open} (hbegan : u.began = true) (hrest : ∀ m ∈ rest, m.bounds = false)
    (hlast : last = .commit cursor ∨ last = .control cursor)
    (hchanges : u.changes ++ rest.flatMap Mark.changes ≠ [])
    (hlegal : LegalRun source (some u) (rest ++ last :: after)) :
    ({ u with changes := u.changes ++ rest.flatMap Mark.changes } : Open).close source cursor ∈
      transactions source (some u) (rest ++ last :: after) := by
  induction rest generalizing u with
  | nil =>
    rcases hlast with rfl | rfl
    all_goals
      rw [List.flatMap_nil, List.append_nil]
      exact List.mem_cons_self
  | cons m rest ih =>
    obtain ⟨hm, hlegal⟩ := hlegal
    have hmember := hrest m List.mem_cons_self
    have hlater : ∀ m ∈ rest, m.bounds = false := fun n hn => hrest n (List.mem_cons_of_mem _ hn)
    refine List.mem_append_right _ ?_
    cases m with
    | announce | begin | commit | control | rollback => cases hmember
    | rows changes =>
      rw [Mark.step, Option.map_some, if_pos hbegan] at hlegal ⊢
      simp only [List.flatMap_cons, Mark.changes, ← List.append_assoc] at hchanges ⊢
      have hnext : ({ u with changes := u.changes ++ changes } : Open).began = true := hbegan
      exact ih hnext hlater hchanges hlegal
    | quiet => exact ih hbegan hlater hchanges hlegal
    | statement =>
      cases hempty : u.changes.isEmpty with
      | false =>
        simp only [Mark.step, Option.filter, hempty] at hlegal ⊢
        exact ih hbegan hlater hchanges hlegal
      | true =>
        have hnone : u.changes = [] := List.isEmpty_iff.mp hempty
        simp only [Mark.step, Option.filter, hempty] at hlegal
        have hnoRows : rest.flatMap Mark.changes = [] := flatMap_changes_eq_nil hlater hlegal
        refine (hchanges ?_).elim
        rw [hnone, List.nil_append]
        exact hnoRows

end Segments

/-! ## Rows are of captured tables -/

section Captured

variable {ν : Type} {cfg : DecoderConfig ν} {context : Context}

/-- A table map has columns only if its table is captured. -/
def Context.Selected (cfg : DecoderConfig ν) (context : Context) : Prop :=
  ∀ entry ∈ context.tables, entry.2.columns ≠ [] →
    captures cfg entry.2.event.databaseName entry.2.event.tableName = true

theorem storeTableMap_selected {table : TableMapEvent}
    {queried : Except String (List ColumnInfo)} {info : TableInfo}
    (h : storeTableMap cfg table queried = .ok info) (hcolumns : info.columns ≠ []) :
    captures cfg info.event.databaseName info.event.tableName = true := by
  simp only [storeTableMap, pure_eq] at h
  split at h
  next hskipped =>
    cases h
    exact (hcolumns rfl).elim
  next hcaptured =>
    simp only [throw_eq, error_bind, bind_eq_ok, guard_eq_ok, Except.ok.injEq] at h
    obtain ⟨columns, -, ⟨⟩, -, -, rfl⟩ := h
    simpa using hcaptured

theorem Context.Selected.next (h : context.Selected cfg) (event : Event) :
    (context.next cfg event).Selected cfg := by
  unfold Context.next
  split
  · intro entry hentry
    cases hentry
  next table queried hdata =>
    split
    next info hinfo =>
      intro entry hentry hcolumns
      rcases List.mem_cons.mp hentry with rfl | hentry
      · exact storeTableMap_selected hinfo hcolumns
      · exact h entry hentry hcolumns
    next => exact h
  · exact h

theorem decodeRows_captured (h : context.Selected cfg) {rows : RowsEvent} {cursor : SourceCursor}
    {timestamp : ℕ} {changes : List RowChange}
    (hrows : decodeRows cfg context rows cursor timestamp = .ok (some changes)) :
    ∀ change ∈ changes, captures cfg change.schema change.table = true := by
  unfold decodeRows at hrows
  split at hrows
  · cases hrows
  next table hlookup =>
    split at hrows
    · cases hrows
    next hselected =>
      simp only [bind_eq_ok, pure_eq, Except.ok.injEq, Option.some.injEq] at hrows
      obtain ⟨decoded, hdecoded, rfl⟩ := hrows
      have hcaptured : captures cfg table.event.databaseName table.event.tableName = true := by
        by_cases hcolumns : table.columns = []
        · rw [hcolumns] at hselected
          have hall : cfg.captureTables.isEmpty = true := by simpa using hselected
          rw [captures, hall, Bool.true_or]
        · obtain ⟨before, after, htables, -⟩ := List.lookup_eq_some_iff.mp hlookup
          have hmem : (rows.tableId, table) ∈ context.tables := by simp [htables]
          exact h _ hmem hcolumns
      intro change hchange
      obtain ⟨read, -, hread⟩ := forall₂_mem_right (mapM_eq_ok hdecoded) hchange
      simp only [bind_eq_ok, Except.ok.injEq] at hread
      obtain ⟨⟨before, after⟩, -, before', -, after', -, rfl⟩ := hread
      exact hcaptured

theorem mark_captured (h : context.Selected cfg) (event : Event) :
    ∀ change ∈ (mark cfg context event).changes,
      captures cfg change.schema change.table = true := by
  unfold mark
  intro change hchange
  split at hchange
  · cases hchange
  · cases hchange
  · unfold queryMark at hchange
    dsimp only at hchange
    split_ifs at hchange <;> cases hchange
  · dsimp only at hchange
    split at hchange
    next changes hrows => exact decodeRows_captured h hrows change hchange
    · cases hchange
  · cases hchange
  · cases hchange

theorem marks_captured (h : context.Selected cfg) {events : List Event} :
    ∀ m ∈ marks cfg context events, ∀ change ∈ m.changes,
      captures cfg change.schema change.table = true := by
  induction events generalizing context with
  | nil =>
    intro m hm
    cases hm
  | cons event events ih =>
    intro m hm
    rcases List.mem_cons.mp hm with rfl | hm
    · exact mark_captured h event
    · exact ih (h.next event) m hm

/-- The changes of a segment are changes of its marks. -/
theorem Segment.changes_mem {source : Source} {marks : List Mark} {closed : ChangeTransaction}
    (h : Segment source marks closed) {change : RowChange} (hchange : change ∈ closed.changes) :
    ∃ m ∈ marks, change ∈ m.changes := by
  obtain ⟨past, last, after, t, rfl, -, hexplains, heq⟩ := h
  have hchange : change ∈ t.changes := by
    rw [heq] at hchange
    exact hchange
  unfold Explains at hexplains
  split at hexplains
  · obtain ⟨before, rest, rfl, -, hchanges, -⟩ := hexplains
    rw [hchanges] at hchange
    obtain ⟨m, hm, hmem⟩ := List.mem_flatMap.mp hchange
    exact ⟨m, by simp [hm], hmem⟩
  · rw [hexplains.1] at hchange
    cases hchange

end Captured

/-! ## The decoder follows the marks -/

/-- The buffered transaction is the open one. -/
def Buffers : Option PendingTransaction → Option Open → Prop
  | none, none => True
  | some p, some t => p.id = t.id ∧ p.beginCursor = t.beginCursor ∧ p.began = t.began ∧
      p.changes = t.changes ∧ (t.began = false → t.changes = [])
  | _, _ => False

theorem Buffers.eq_none {t : Option Open} (h : Buffers none t) : t = none := by
  cases t with
  | none => rfl
  | some t => exact h.elim

theorem Buffers.eq_some {p : PendingTransaction} {t : Option Open} (h : Buffers (some p) t) :
    ∃ u, t = some u ∧ p.id = u.id ∧ p.beginCursor = u.beginCursor ∧ p.began = u.began ∧
      p.changes = u.changes ∧ (u.began = false → u.changes = []) := by
  cases t with
  | none => exact h.elim
  | some t => exact ⟨t, rfl, h⟩

namespace Decoder

variable {ν : Type} {cfg : DecoderConfig ν} {d d' : Decoder} {t : Option Open}
  {cursor : SourceCursor} {emitted : Option ChangeTransaction}

/-- What a step of the decoder does, seen from the marks. -/
structure Follows (cfg : DecoderConfig ν) (m : Mark) (t : Option Open) (context : Context)
    (d' : Decoder) (emitted : Option ChangeTransaction) : Prop where
  legal : m.Legal t
  context : d'.toContext = context
  buffers : Buffers d'.pending (m.step cfg.source t).1
  emits : emitted.toList = (m.step cfg.source t).2.toList.filter (published cfg)

theorem startTransaction_follows {id : String} (hb : Buffers d.pending t)
    (h : d.startTransaction id cursor = .ok d') :
    Follows cfg (.announce id cursor) t d.toContext d' none := by
  simp only [startTransaction, throw_eq, pure_eq, error_bind, guard_eq_ok, Except.ok.injEq] at h
  obtain ⟨hnone, rfl⟩ := h
  have hpending : d.pending = none := by simpa using hnone
  rw [hpending] at hb
  exact ⟨hb.eq_none, rfl, ⟨rfl, rfl, rfl, rfl, fun _ => rfl⟩, rfl⟩

theorem finishTransaction_follows (hb : Buffers d.pending t)
    (h : d.finishTransaction cfg cursor = .ok (d', emitted)) :
    Follows cfg (.commit cursor) t d.toContext d' emitted := by
  unfold finishTransaction at h
  cases hp : d.pending with
  | none =>
    rw [hp] at hb h
    cases h
    cases hb.eq_none
    refine ⟨?_, rfl, ?_, rfl⟩
    · intro u hu
      cases hu
    · rw [hp]
      trivial
  | some p =>
    rw [hp] at hb h
    obtain ⟨t, rfl, hid, hbegin, hbegan, hchanges, -⟩ := hb.eq_some
    simp only [guard_eq_ok, Bool.not_eq_true', Bool.not_eq_false] at h
    obtain ⟨hopen, h⟩ := h
    have hlegal : (Mark.commit cursor).Legal (some t) := by
      intro u hu
      cases hu
      exact hbegan.symm.trans hopen
    have hclose : (⟨cfg.source, p.id, p.beginCursor, cursor, p.changes⟩ : ChangeTransaction) =
        t.close cfg.source cursor := by
      rw [hid, hbegin, hchanges]
      rfl
    rw [hclose, hchanges] at h
    split at h
    next hempty =>
      cases h
      have hunpublished : published cfg (t.close cfg.source cursor) = false := by
        simpa [published, Open.close] using hempty
      exact ⟨hlegal, rfl, trivial, by simp [Mark.step, hunpublished]⟩
    next hnonempty =>
      cases h
      have hpublished : published cfg (t.close cfg.source cursor) = true := by
        simpa [published, Open.close, imp_iff_not_or] using hnonempty
      exact ⟨hlegal, rfl, trivial, by simp [Mark.step, hpublished]⟩

theorem beginTransaction_follows (hb : Buffers d.pending t)
    (h : d.beginTransaction cursor = .ok d') :
    Follows cfg (.begin cursor) t d.toContext d' none := by
  unfold beginTransaction at h
  cases hp : d.pending with
  | none =>
    rw [hp] at hb h
    cases h
    cases hb.eq_none
    refine ⟨?_, rfl, ⟨rfl, rfl, rfl, rfl, fun _ => rfl⟩, rfl⟩
    intro u hu
    cases hu
  | some p =>
    rw [hp] at hb h
    obtain ⟨t, rfl, hid, -, hbegan, hchanges, hnone⟩ := hb.eq_some
    simp only [guard_eq_ok, Except.ok.injEq, Bool.not_eq_true] at h
    obtain ⟨hopen, rfl⟩ := h
    have hclosed : t.began = false := hbegan.symm.trans hopen
    have hempty : p.changes = [] := hchanges.trans (hnone hclosed)
    refine ⟨?_, rfl, ⟨hid, rfl, rfl, hempty, fun _ => rfl⟩, rfl⟩
    intro u hu
    cases hu
    exact hclosed

/-- A control statement commits what has been announced. -/
theorem markBegan_follows (hb : Buffers d.pending t)
    (h : d.markBegan.finishTransaction cfg cursor = .ok (d', emitted)) :
    Follows cfg (.control cursor) t d.toContext d' emitted := by
  have hmarked : Buffers d.markBegan.pending (t.map fun u => { u with began := true }) := by
    unfold markBegan
    cases hp : d.pending with
    | none =>
      rw [hp] at hb
      cases hb.eq_none
      trivial
    | some p =>
      rw [hp] at hb
      obtain ⟨t, rfl, hid, hbegin, -, hchanges, -⟩ := hb.eq_some
      exact ⟨hid, hbegin, rfl, hchanges, fun hnot => by cases hnot⟩
  obtain ⟨-, hcontext, hbuffers, hemits⟩ := finishTransaction_follows hmarked h
  refine ⟨trivial, hcontext, hbuffers, hemits.trans ?_⟩
  cases t <;> rfl

theorem dropped_follows (hb : Buffers d.pending t)
    (h : d' = if d.pending.any (·.changes.isEmpty) then { d with pending := none } else d) :
    Follows cfg .statement t d.toContext d' none := by
  subst h
  cases hp : d.pending with
  | none =>
    rw [hp] at hb
    cases hb.eq_none
    exact ⟨trivial, rfl, by simp [hp, Mark.step, Buffers], rfl⟩
  | some p =>
    rw [hp] at hb
    obtain ⟨t, rfl, -, -, -, hchanges, -⟩ := hb.eq_some
    cases hempty : t.changes.isEmpty with
    | true =>
      refine ⟨trivial, by simp [hchanges, hempty], ?_, rfl⟩
      simp [hchanges, hempty, Mark.step, Option.filter, Buffers]
    | false =>
      refine ⟨trivial, by simp [hchanges, hempty], ?_, rfl⟩
      simpa [hchanges, hempty, Mark.step, Option.filter, hp] using hb

theorem handleQuery_follows {query : String} (hb : Buffers d.pending t)
    (h : d.handleQuery cfg query cursor = .ok (d', emitted)) :
    Follows cfg (queryMark cfg query cursor) t d.toContext d' emitted := by
  unfold handleQuery at h
  unfold queryMark
  dsimp only at h ⊢
  split at h
  next hbegin =>
    rw [if_pos hbegin]
    simp only [pure_eq, bind_eq_ok, Except.ok.injEq, Prod.mk.injEq] at h
    obtain ⟨began, hbegan, rfl, rfl⟩ := h
    exact beginTransaction_follows hb hbegan
  next hbegin =>
    rw [if_neg hbegin]
    split at h
    next hcommit =>
      rw [if_pos hcommit]
      exact finishTransaction_follows hb h
    next hcommit =>
      rw [if_neg hcommit]
      split at h
      next hrollback =>
        rw [if_pos hrollback]
        cases h
        exact ⟨trivial, rfl, trivial, rfl⟩
      next hrollback =>
        rw [if_neg hrollback]
        simp only [throw_eq, guard_eq_ok] at h
        obtain ⟨-, h⟩ := h
        split at h
        next hcontrol =>
          rw [if_pos hcontrol]
          exact markBegan_follows hb h
        next hcontrol =>
          rw [if_neg hcontrol]
          split at h
          next hempty =>
            cases h
            exact dropped_follows hb (if_pos hempty).symm
          next hempty =>
            cases h
            exact dropped_follows hb (if_neg hempty).symm

/-- Buffering changes only appends them. -/
theorem pushChanges_spec {p p' : PendingTransaction} {changes : List RowChange}
    (h : pushChanges cfg p changes = .ok p') :
    p'.id = p.id ∧ p'.beginCursor = p.beginCursor ∧ p'.began = p.began ∧
      p'.changes = p.changes ++ changes := by
  induction changes generalizing p with
  | nil =>
    cases h
    simp
  | cons change changes ih =>
    simp only [pushChanges, List.foldlM_cons, bind_eq_ok] at h
    obtain ⟨pushed, hpushed, hrest⟩ := h
    simp only [PendingTransaction.push, throw_eq, pure_eq, error_bind, guard_eq_ok,
      Except.ok.injEq] at hpushed
    obtain ⟨-, -, rfl⟩ := hpushed
    obtain ⟨hid, hbegin, hbegan, hchanges⟩ := ih hrest
    exact ⟨hid, hbegin, hbegan, by simp [hchanges]⟩

theorem handleRows_follows {rows : RowsEvent} {timestamp : ℕ} (hb : Buffers d.pending t)
    (h : d.handleRows cfg rows cursor timestamp = .ok d') :
    Follows cfg (match decodeRows cfg d.toContext rows cursor timestamp with
      | .ok (some changes) => .rows changes
      | _ => .quiet) t d.toContext d' none := by
  unfold handleRows at h
  simp only [bind_eq_ok] at h
  obtain ⟨decoded, hdecoded, h⟩ := h
  rw [hdecoded]
  cases decoded with
  | none =>
    cases h
    exact ⟨trivial, rfl, hb, rfl⟩
  | some changes =>
    cases hp : d.pending with
    | none =>
      rw [hp] at h
      cases h
    | some p =>
      rw [hp] at hb h
      obtain ⟨t, rfl, hid₀, hbegin₀, hbegan₀, hchanges₀, -⟩ := hb.eq_some
      simp only [throw_eq, pure_eq, error_bind, guard_eq_ok, bind_eq_ok, Except.ok.injEq,
        Bool.not_eq_true', Bool.not_eq_false] at h
      obtain ⟨hbegan, p', hp', rfl⟩ := h
      obtain ⟨hid, hbegin, hbegan', hchanges⟩ := pushChanges_spec hp'
      have hopen : t.began = true := hbegan₀.symm.trans hbegan
      refine ⟨⟨t, rfl, hopen⟩, rfl, ?_, rfl⟩
      simp only [Mark.step, Option.map_some, hopen, if_true]
      refine ⟨hid.trans hid₀, hbegin.trans hbegin₀, hbegan'.trans hbegan, ?_, ?_⟩
      · rw [hchanges, hchanges₀]
      · intro hnot
        cases hnot

/-- One event: the decoder follows its mark. -/
theorem decode_follows {event : Event} (hb : Buffers d.pending t)
    (h : d.decode cfg event = .ok (d', emitted)) :
    Follows cfg (mark cfg d.toContext event) t (d.toContext.next cfg event) d' emitted := by
  unfold decode at h
  unfold mark Context.next
  simp only [bind_eq_ok] at h
  obtain ⟨⟨⟩, -, h⟩ := h
  cases hdata : event.data with
  | rotate name =>
    rw [hdata] at h
    simp only [throw_eq, pure_eq, error_bind, guard_eq_ok, Except.ok.injEq, Prod.mk.injEq] at h
    obtain ⟨hnone, rfl, rfl⟩ := h
    have hpending : d.pending = none := by simpa using hnone
    rw [hpending] at hb
    cases hb.eq_none
    exact ⟨trivial, rfl, trivial, rfl⟩
  | tableMap table queried =>
    rw [hdata] at h
    simp only [bind_eq_ok, pure_eq, Except.ok.injEq, Prod.mk.injEq] at h
    obtain ⟨info, hinfo, rfl, rfl⟩ := h
    simp only [hinfo]
    exact ⟨trivial, rfl, hb, rfl⟩
  | gtid sid gno tag =>
    rw [hdata] at h
    simp only [bind_eq_ok, pure_eq, Except.ok.injEq, Prod.mk.injEq] at h
    obtain ⟨started, hstarted, rfl, rfl⟩ := h
    exact startTransaction_follows hb hstarted
  | anonymousGtid =>
    rw [hdata] at h
    simp only [bind_eq_ok, pure_eq, Except.ok.injEq, Prod.mk.injEq] at h
    obtain ⟨started, hstarted, rfl, rfl⟩ := h
    exact startTransaction_follows hb hstarted
  | query text =>
    rw [hdata] at h
    exact handleQuery_follows hb h
  | rows rows =>
    rw [hdata] at h
    simp only [bind_eq_ok, pure_eq, Except.ok.injEq, Prod.mk.injEq] at h
    obtain ⟨handled, hhandled, rfl, rfl⟩ := h
    exact handleRows_follows hb hhandled
  | xid =>
    rw [hdata] at h
    exact finishTransaction_follows hb h
  | other | unknown | invalid message =>
    rw [hdata] at h
    cases h
  | heartbeat | formatDescription | previousGtids | stop | rowsQuery | ignorable =>
    rw [hdata] at h
    cases h
    exact ⟨trivial, rfl, hb, rfl⟩

/-- All events: the binlog is a legal one, and the emitted transactions are the published ones
among the committed. -/
theorem decodeAll_emits {events : List Event} {all : List ChangeTransaction}
    (hb : Buffers d.pending t) (h : decodeAll cfg d events = .ok (d', all)) :
    LegalRun cfg.source t (marks cfg d.toContext events) ∧
      all = (transactions cfg.source t (marks cfg d.toContext events)).filter (published cfg) := by
  induction events generalizing d t all with
  | nil =>
    cases h
    exact ⟨trivial, rfl⟩
  | cons event events ih =>
    simp only [decodeAll, bind_eq_ok, pure_eq, Except.ok.injEq, Prod.mk.injEq] at h
    obtain ⟨⟨next, emitted⟩, hstep, ⟨last, rest⟩, hrest, rfl, rfl⟩ := h
    obtain ⟨hlegal, hcontext, hbuffers, hemits⟩ := decode_follows hb hstep
    obtain ⟨hlegals, hlater⟩ := ih hbuffers hrest
    rw [hcontext] at hlegals hlater
    refine ⟨⟨hlegal, hlegals⟩, ?_⟩
    rw [marks, transactions, List.filter_append, ← hemits, ← hlater]

end Decoder

end DatabaseSync.MysqlSource
