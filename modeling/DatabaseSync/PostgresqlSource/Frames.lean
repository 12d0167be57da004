import DatabaseSync.PostgresqlSource.Stream

/-! # The transactions of a message stream

The committed transactions of a stream are read off its `BEGIN`, row and `COMMIT` messages
without any decoder. The decoder emits those with rows, in the order of their commits.
-/

namespace DatabaseSync.PostgresqlSource

open ChangeEvent Checked

/-- A row message with the messages that came before it in the stream. -/
structure RowMessage where
  past : List Message
  message : Message

/-- A transaction that has begun, with its rows so far. -/
structure OpenFrame where
  xid : ℕ
  finalLsn : ℕ
  timestamp : ℤ
  rows : List RowMessage

/-- A committed transaction. -/
structure Frame extends OpenFrame where
  commitLsn : ℕ
  endLsn : ℕ

/-- The committed transactions of a stream, where `past` came before it. -/
def frames : List Message → Option OpenFrame → List Message → List Frame
  | _, _, [] => []
  | past, _, .begin finalLsn timestamp xid :: rest =>
    frames (past ++ [.begin finalLsn timestamp xid]) (some ⟨xid, finalLsn, timestamp, []⟩) rest
  | past, some t, .commit flags commitLsn endLsn timestamp :: rest =>
    ⟨t, commitLsn, endLsn⟩ :: frames (past ++ [.commit flags commitLsn endLsn timestamp]) none rest
  | past, t, message :: rest =>
    frames (past ++ [message])
      (if message.isRow then t.map fun t => { t with rows := t.rows ++ [⟨past, message⟩] } else t)
      rest

/-- The checked catalog agrees with a `Relation` message. -/
structure Table.Agrees (table : Table) (schema relationName : String) (replicaIdentity : Char)
    (columns : List ColumnInfo) : Prop where
  schema : table.schema = schema
  name : table.name = relationName
  identity : table.identity = replicaIdentity
  length : table.columns.length = columns.length
  columns : ∀ c ∈ table.columns.zip columns, c.1.name = c.2.name ∧ c.1.oid = c.2.typeId ∧
    c.1.modifier = c.2.typeModifier ∧ (replicaIdentity = 'f' ∨ c.1.key.isSome = c.2.isKey)

def Message.relationId : Message → Option ℕ
  | .insert relationId _ | .update relationId _ _ _ | .delete relationId _ _ => some relationId
  | _ => none

variable (cfg : DecoderConfig)

/-- A `Relation` message for the table came before, and agrees with the catalog. -/
def Announced (past : List Message) (relationId : ℕ) (table : Table) : Prop :=
  cfg.tables.lookup relationId = some table ∧
    ∃ schema relationName replicaIdentity columns,
      .relation relationId schema relationName replicaIdentity columns ∈ past ∧
        table.Agrees schema relationName replicaIdentity columns

/-- The operation and the images of a row message. -/
def readImages (table : Table) (sourceCursor : SourceCursor) : Message →
    Except PgError (Operation × Option (List ColumnDatum) × Option (List ColumnDatum))
  | .insert _ tuple => do
    return (.insert, none, some (← image cfg table tuple false sourceCursor))
  | .update _ oldTuple newTuple keyType => do
    let after ← image cfg table newTuple false sourceCursor
    return (.update, some (← oldImage cfg table sourceCursor after keyType oldTuple), some after)
  | .delete _ oldTuple keyType => do
    let keyOnly ← deletedKeyOnly table keyType
    return (.delete, some (← image cfg table oldTuple keyOnly sourceCursor), none)
  | _ => throw (.invalid "row outside a transaction")

/-- A decoded row of an open transaction. -/
def decodedRow (table : Table) (finalLsn : ℕ) (timestamp : ℤ) (operation : Operation)
    (before after : Option (List ColumnDatum)) : RowChange where
  database := some cfg.database
  operation := operation
  schema := table.schema
  table := table.name
  sourceCursor := cursor finalLsn
  sourceTimestamp := (timestamp.fdiv 1000000 + 946684800).toNat
  schemaBasis := "pgoutput+catalog:" ++ toString table.oid ++ ":" ++ table.sourceTypeCatalogDigest
  before := before
  after := after

/-- The change is the row of the message, decoded for an announced table. -/
def Reads (t : OpenFrame) (row : RowMessage) (change : RowChange) : Prop :=
  ∃ relationId table operation before after, row.message.relationId = some relationId ∧
    Announced cfg row.past relationId table ∧
    readImages cfg table (cursor t.finalLsn) row.message = .ok (operation, before, after) ∧
    change = decodedRow cfg table t.finalLsn t.timestamp operation before after

/-- The transaction holds the rows between `BEGIN` and `COMMIT` in their order, stamped with
the end of the commit record. -/
structure Frame.Emits (frame : Frame) (transaction : ChangeTransaction) : Prop where
  source : transaction.source = cfg.source
  id : transaction.id = "pg:" ++ toString frame.xid ++ ":" ++ formatLsn frame.endLsn
  beginCursor : transaction.beginCursor = cursor frame.finalLsn
  commitCursor : transaction.commitCursor = cursor frame.endLsn
  changes : ∃ changes, List.Forall₂ (Reads cfg frame.toOpenFrame) frame.rows changes ∧
    transaction.changes = changes.map (Decoder.atEnd frame.endLsn)

/-- The row and every envelope in it carry the cursor. -/
def AtCursor (sourceCursor : SourceCursor) (change : RowChange) : Prop :=
  change.sourceCursor = sourceCursor ∧
    ∀ column ∈ change.before.getD [] ++ change.after.getD [], ∀ envelope,
      column.datum = .sourceRepresentationEnvelope envelope →
        envelope.context.sourceCursor = sourceCursor

/-- The pending rows are those of the open transaction. -/
structure Holds (t : OpenFrame) (p : Pending) : Prop where
  xid : p.xid = t.xid
  finalLsn : p.finalLsn = t.finalLsn
  timestamp : p.timestamp = t.timestamp
  rows : List.Forall₂ (Reads cfg t) t.rows p.rows

def HoldsOpen : Option OpenFrame → Option Pending → Prop
  | none, none => True
  | some t, some p => Holds cfg t p
  | _, _ => False

/-- What the decoder knows after the messages `past`: the announced relations and the rows of
the open transaction. -/
structure Tracks (past : List Message) (t : Option OpenFrame) (d : Decoder) : Prop where
  seen : ∀ relationId ∈ d.seen, ∃ table, Announced cfg past relationId table
  pending : HoldsOpen cfg t d.pending

variable {cfg} {past : List Message} {t : Option OpenFrame} {d d' : Decoder} {m : Message}
  {bytes : ℕ}

theorem Announced.mono {past' : List Message} {relationId : ℕ} {table : Table}
    (h : Announced cfg past relationId table) (hpast : past ⊆ past') :
    Announced cfg past' relationId table := by
  obtain ⟨htable, schema, name, identity, columns, hmem, hagrees⟩ := h
  exact ⟨htable, schema, name, identity, columns, hpast hmem, hagrees⟩

theorem Reads.of_header {u : OpenFrame} {s : OpenFrame} {row : RowMessage} {change : RowChange}
    (hfinal : s.finalLsn = u.finalLsn) (htimestamp : s.timestamp = u.timestamp)
    (h : Reads cfg u row change) : Reads cfg s row change := by
  obtain ⟨relationId, table, operation, before, after, hid, hannounced, himages, rfl⟩ := h
  refine ⟨relationId, table, operation, before, after, hid, hannounced, ?_, ?_⟩
  · rw [hfinal]
    exact himages
  · rw [hfinal, htimestamp]

theorem atCursor_of_map {f : ColumnDatum → ColumnDatum} {target : SourceCursor}
    (hf : ∀ original envelope, (f original).datum = .sourceRepresentationEnvelope envelope →
      envelope.context.sourceCursor = target) (image : Option (List ColumnDatum)) :
    ∀ column ∈ (image.map (·.map f)).getD [], ∀ envelope,
      column.datum = .sourceRepresentationEnvelope envelope →
      envelope.context.sourceCursor = target := by
  intro column hcolumn envelope henvelope
  cases image with
  | none => cases hcolumn
  | some image =>
    obtain ⟨original, -, rfl⟩ := List.mem_map.mp hcolumn
    exact hf original envelope henvelope

theorem atEnd_atCursor (endLsn : ℕ) (change : RowChange) :
    AtCursor (cursor endLsn) (Decoder.atEnd endLsn change) := by
  constructor
  · rfl
  · intro column hcolumn
    rcases List.mem_append.mp hcolumn with h | h
    all_goals
      refine atCursor_of_map ?_ _ column h
      intro original envelope henvelope
      split at henvelope
      · cases henvelope
        rfl
      · next hother => exact absurd henvelope (hother envelope)

namespace Decoder

theorem row_ok {relationId : ℕ} {operation : Operation} {before after : Option (List ColumnDatum)}
    (h : d.row cfg relationId operation before after = .ok d') :
    ∃ table p, cfg.tables.lookup relationId = some table ∧ d.pending = some p ∧
      d' = { d with pending := some { p with rows := p.rows ++
        [decodedRow cfg table p.finalLsn p.timestamp operation before after] } } := by
  unfold row at h
  cases htable : cfg.tables.lookup relationId with
  | none => simp [htable] at h
  | some table =>
    cases hp : d.pending with
    | none => simp [htable, hp] at h
    | some p =>
      simp only [htable, hp, throw_eq, pure_eq, error_bind, guard_eq_ok, Except.ok.injEq] at h
      obtain ⟨-, -, -, rfl⟩ := h
      exact ⟨table, p, rfl, rfl, rfl⟩

theorem table_ok {relationId : ℕ} {table : Table} (h : d.table cfg relationId = .ok table) :
    relationId ∈ d.seen ∧ cfg.tables.lookup relationId = some table := by
  simp only [Decoder.table, throw_eq, error_bind, pure_eq, guard_eq_ok, not_not] at h
  obtain ⟨hseen, h⟩ := h
  cases htable : cfg.tables.lookup relationId with
  | none => simp [htable] at h
  | some found =>
    simp only [htable, Except.ok.injEq] at h
    exact ⟨hseen, by rw [h]⟩

theorem currentCursor_ok {sourceCursor : SourceCursor} (h : d.currentCursor = .ok sourceCursor) :
    ∃ p, d.pending = some p ∧ sourceCursor = cursor p.finalLsn := by
  unfold currentCursor at h
  split at h
  next p hp =>
    cases h
    exact ⟨p, hp, rfl⟩
  · cases h

/-- The decoder `d'` has the row of the message as one more pending row. -/
def AppendsRow (cfg : DecoderConfig) (m : Message) (d d' : Decoder) : Prop :=
  ∃ relationId table p operation before after, m.relationId = some relationId ∧
    relationId ∈ d.seen ∧ cfg.tables.lookup relationId = some table ∧ d.pending = some p ∧
    readImages cfg table (cursor p.finalLsn) m = .ok (operation, before, after) ∧
    d' = { d with pending := some { p with rows := p.rows ++
      [decodedRow cfg table p.finalLsn p.timestamp operation before after] } }

theorem pushBody_row (hm : m.isRow = true) (h : d.pushBody cfg m = .ok d') :
    AppendsRow cfg m d d' := by
  have hcollect : ∀ {relationId : ℕ} {table : Table} {sourceCursor : SourceCursor}
      {operation : Operation} {before after : Option (List ColumnDatum)},
      m.relationId = some relationId → d.table cfg relationId = .ok table →
      d.currentCursor = .ok sourceCursor →
      readImages cfg table sourceCursor m = .ok (operation, before, after) →
      d.row cfg relationId operation before after = .ok d' →
      AppendsRow cfg m d d' := by
    intro relationId table sourceCursor operation before after hid htable hcursor himages hrow
    obtain ⟨hseen, htable⟩ := table_ok htable
    obtain ⟨p, hp, rfl⟩ := currentCursor_ok hcursor
    obtain ⟨table', p', htable', hp', hd'⟩ := row_ok hrow
    rw [htable, Option.some.injEq] at htable'
    rw [hp, Option.some.injEq] at hp'
    subst htable' hp'
    exact ⟨relationId, table, p, operation, before, after, hid, hseen, htable, hp, himages, hd'⟩
  cases m with
  | insert id tuple =>
    simp only [pushBody, bind_eq_ok] at h
    obtain ⟨table, htable, c, hcursor, after, hafter, h⟩ := h
    exact hcollect rfl htable hcursor (by simp [readImages, hafter]) h
  | update id old new key =>
    simp only [pushBody, bind_eq_ok] at h
    obtain ⟨table, htable, c, hcursor, after, hafter, before, hbefore, h⟩ := h
    exact hcollect rfl htable hcursor (by simp [readImages, hafter, hbefore]) h
  | delete id old key =>
    simp only [pushBody, bind_eq_ok] at h
    obtain ⟨table, htable, c, hcursor, keyOnly, hkey, before, hbefore, h⟩ := h
    exact hcollect rfl htable hcursor (by simp [readImages, hkey, hbefore]) h
  | _ => cases hm

/-- What any other message inside a transaction does. -/
theorem pushBody_other (hm : m.isRow = false) (h : d.pushBody cfg m = .ok d') :
    d' = d ∨ ∃ relationId table, d' = { d with seen := relationId :: d.seen } ∧
      Announced cfg [m] relationId table := by
  cases m with
  | relation id schema name identity columns =>
    right
    simp only [pushBody] at h
    cases htable : cfg.tables.lookup id with
    | none => simp [htable] at h
    | some table =>
      simp only [htable, throw_eq, pure_eq, error_bind, guard_eq_ok, Except.ok.injEq, not_or,
        not_not, List.all_eq_true, Bool.and_eq_true, Bool.or_eq_true, beq_iff_eq] at h
      obtain ⟨⟨hschema, hname, hidentity, hlength, hcolumns⟩, rfl⟩ := h
      refine ⟨id, table, rfl, htable, schema, name, identity, columns, List.mem_singleton_self _,
        hschema, hname, hidentity, hlength, ?_⟩
      intro c hc
      obtain ⟨⟨⟨hname, hoid⟩, hmodifier⟩, hkey⟩ := hcolumns c hc
      exact ⟨hname, hoid, hmodifier, hkey⟩
  | type id schema name =>
    left
    simp only [pushBody] at h
    cases htype : cfg.typeNames.lookup id with
    | none => simp [htype] at h
    | some expected =>
      simp only [htype, throw_eq, pure_eq, error_bind, guard_eq_ok, Except.ok.injEq] at h
      exact h.2.symm
  | insert _ _ => cases hm
  | update _ _ _ _ => cases hm
  | delete _ _ _ => cases hm
  | _ => cases h

/-- The branches of `push` by the kind of the message. -/
theorem push_cases {emitted : Option ChangeTransaction}
    (h : d.push cfg m bytes = .ok (d', emitted)) : ∃ d₁, d.charge cfg bytes = .ok d₁ ∧
      ((∃ finalLsn timestamp xid, m = .begin finalLsn timestamp xid ∧ emitted = none ∧
          d₁.pushBegin finalLsn timestamp xid bytes = .ok d') ∨
        (∃ flags commitLsn endLsn timestamp, m = .commit flags commitLsn endLsn timestamp ∧
          d₁.pushCommit cfg flags commitLsn endLsn timestamp = .ok (d', emitted)) ∨
        (m.isBody = true ∧ emitted = none ∧ d₁.pushBody cfg m = .ok d')) := by
  cases m with
  | begin finalLsn timestamp xid =>
    simp only [push, bind_eq_ok, pure_eq, Except.ok.injEq, Prod.mk.injEq] at h
    obtain ⟨d₁, hcharge, d₂, hbegin, rfl, rfl⟩ := h
    exact ⟨d₁, hcharge, .inl ⟨_, _, _, rfl, rfl, hbegin⟩⟩
  | commit flags commitLsn endLsn timestamp =>
    simp only [push, bind_eq_ok] at h
    obtain ⟨d₁, hcharge, hcommit⟩ := h
    exact ⟨d₁, hcharge, .inr (.inl ⟨_, _, _, _, rfl, hcommit⟩)⟩
  | _ =>
    rw [push_body rfl] at h
    simp only [bind_eq_ok, pure_eq, Except.ok.injEq, Prod.mk.injEq] at h
    obtain ⟨d₁, hcharge, d₂, hbody, rfl, rfl⟩ := h
    exact ⟨d₁, hcharge, .inr (.inr ⟨rfl, rfl, hbody⟩)⟩

theorem charge_ok (h : d.charge cfg bytes = .ok d') : (d.pending = none ∧ d' = d) ∨
    ∃ p n, d.pending = some p ∧ d' = { d with pending := some { p with bytes := n } } := by
  cases hp : d.pending with
  | none =>
    simp only [charge, hp, pure_eq, Except.ok.injEq] at h
    exact .inl ⟨rfl, h.symm⟩
  | some p =>
    obtain ⟨n, rfl⟩ := charge_cases h hp
    exact .inr ⟨p, n, rfl, rfl⟩

theorem pushBegin_ok {finalLsn xid : ℕ} {timestamp : ℤ}
    (h : d.pushBegin finalLsn timestamp xid bytes = .ok d') : d.pending = none ∧
      d.previousEnd < finalLsn ∧
      d' = { d with pending := some ⟨xid, finalLsn, timestamp, bytes, []⟩ } := by
  simp only [pushBegin, throw_eq, pure_eq, error_bind, guard_eq_ok, Except.ok.injEq, not_or,
    not_le] at h
  obtain ⟨⟨hopen, -, -, hend⟩, rfl⟩ := h
  exact ⟨by simpa using hopen, hend, rfl⟩

theorem pushCommit_ok {flags commitLsn endLsn : ℕ} {timestamp : ℤ}
    {emitted : Option ChangeTransaction}
    (h : d.pushCommit cfg flags commitLsn endLsn timestamp = .ok (d', emitted)) :
    ∃ p, d.pending = some p ∧ commitLsn = p.finalLsn ∧ d.previousEnd < endLsn ∧
      d' = ⟨d.seen, none, endLsn⟩ ∧
      emitted = if p.rows = [] then none else some (committed cfg p commitLsn endLsn) := by
  unfold pushCommit at h
  cases hp : d.pending with
  | none => simp [hp] at h
  | some p =>
    simp only [hp, throw_eq, pure_eq, error_bind, guard_eq_ok, not_or, not_not, not_le] at h
    obtain ⟨⟨-, hcommit, -, -, hend⟩, h⟩ := h
    refine ⟨p, rfl, hcommit, hend, ?_⟩
    cases hrows : p.rows with
    | nil =>
      simp only [hrows, List.isEmpty_nil, if_true, Except.ok.injEq, Prod.mk.injEq] at h
      exact ⟨h.1.symm, h.2.symm⟩
    | cons row rows =>
      simp only [hrows, List.isEmpty_cons, Bool.false_eq_true, if_false, bind_eq_ok,
        Except.ok.injEq, Prod.mk.injEq] at h
      obtain ⟨⟨⟩, -, rfl, rfl⟩ := h
      exact ⟨rfl, rfl⟩

end Decoder

/-! ## The decoder follows the stream -/

theorem Holds.congr {t : OpenFrame} {p : Pending} (h : Holds cfg t p) (n : ℕ) :
    Holds cfg t { p with bytes := n } :=
  ⟨h.xid, h.finalLsn, h.timestamp, h.rows⟩

theorem Holds.append {t : OpenFrame} {p : Pending} {row : RowMessage} {change : RowChange}
    (h : Holds cfg t p) (hread : Reads cfg t row change) :
    Holds cfg { t with rows := t.rows ++ [row] } { p with rows := p.rows ++ [change] } := by
  refine ⟨h.xid, h.finalLsn, h.timestamp, ?_⟩
  have hrows : List.Forall₂ (Reads cfg t) (t.rows ++ [row]) (p.rows ++ [change]) :=
    List.rel_append h.rows (.cons hread .nil)
  exact hrows.imp fun row change hread => hread.of_header rfl rfl

namespace Tracks

theorem charge (h : Tracks cfg past t d) (hcharge : d.charge cfg bytes = .ok d') :
    Tracks cfg past t d' := by
  rcases Decoder.charge_ok hcharge with ⟨-, rfl⟩ | ⟨p, n, hp, rfl⟩
  · exact h
  · refine ⟨h.seen, ?_⟩
    have hpending := h.pending
    rw [hp] at hpending
    cases t with
    | none => exact hpending
    | some t => exact Holds.congr hpending n

theorem extend (h : Tracks cfg past t d) (m : Message) : Tracks cfg (past ++ [m]) t d := by
  refine ⟨?_, h.pending⟩
  intro relationId hseen
  obtain ⟨table, htable⟩ := h.seen relationId hseen
  exact ⟨table, htable.mono (List.subset_append_left _ _)⟩

theorem begin (h : Tracks cfg past t d) {finalLsn xid : ℕ} {timestamp : ℤ}
    (hbegin : d.pushBegin finalLsn timestamp xid bytes = .ok d') :
    Tracks cfg (past ++ [.begin finalLsn timestamp xid])
      (some ⟨xid, finalLsn, timestamp, []⟩) d' := by
  obtain ⟨-, -, rfl⟩ := Decoder.pushBegin_ok hbegin
  exact ⟨(h.extend _).seen, rfl, rfl, rfl, .nil⟩

/-- A message inside a transaction adds its row, if it is one. -/
theorem body (h : Tracks cfg past t d) (hbody : d.pushBody cfg m = .ok d') :
    Tracks cfg (past ++ [m]) (if m.isRow then
      t.map fun t => { t with rows := t.rows ++ [⟨past, m⟩] } else t) d' := by
  split
  next hm =>
    obtain ⟨relationId, table, p, operation, before, after, hid, hseen, htable, hp, himages,
      rfl⟩ := Decoder.pushBody_row hm hbody
    refine ⟨(h.extend m).seen, ?_⟩
    have hpending := h.pending
    rw [hp] at hpending
    cases t with
    | none => exact hpending
    | some t =>
      have hpending : Holds cfg t p := hpending
      obtain ⟨table', hannounced⟩ := h.seen relationId hseen
      obtain rfl : table' = table := Option.some.inj (hannounced.1.symm.trans htable)
      rw [hpending.finalLsn] at himages
      apply hpending.append
      refine ⟨relationId, table', operation, before, after, hid, hannounced, himages, ?_⟩
      rw [hpending.finalLsn, hpending.timestamp]
  next hm =>
    have h' := h.extend m
    rcases Decoder.pushBody_other (by simpa using hm) hbody with rfl | ⟨id, table, rfl, hnew⟩
    · exact h'
    · refine ⟨?_, h'.pending⟩
      intro relationId hseen
      rcases List.mem_cons.mp hseen with rfl | hseen
      · exact ⟨table, hnew.mono (List.subset_append_right _ _)⟩
      · exact h'.seen relationId hseen

/-- A commit emits the open transaction, if it has rows. -/
theorem commit (h : Tracks cfg past t d) {flags commitLsn endLsn : ℕ} {timestamp : ℤ}
    {emitted : Option ChangeTransaction}
    (hcommit : d.pushCommit cfg flags commitLsn endLsn timestamp = .ok (d', emitted)) :
    ∃ u : OpenFrame, t = some u ∧ d.previousEnd < endLsn ∧ d'.previousEnd = endLsn ∧
      Tracks cfg (past ++ [.commit flags commitLsn endLsn timestamp]) none d' ∧
      List.Forall₂ (Frame.Emits cfg) ([⟨u, commitLsn, endLsn⟩].filter fun frame : Frame =>
        !frame.rows.isEmpty) emitted.toList := by
  obtain ⟨p, hp, rfl, hend, rfl, rfl⟩ := Decoder.pushCommit_ok hcommit
  have hpending := h.pending
  rw [hp] at hpending
  cases t with
  | none => exact hpending.elim
  | some u =>
    have hpending : Holds cfg u p := hpending
    refine ⟨u, rfl, hend, rfl, ⟨(h.extend _).seen, trivial⟩, ?_⟩
    cases hrows : p.rows with
    | nil =>
      have hu : u.rows = [] := List.forall₂_nil_right_iff.mp (hrows ▸ hpending.rows)
      simp [hu]
    | cons change changes =>
      have hu : u.rows ≠ [] := by
        intro hu
        have hnil := hpending.rows
        rw [hu, hrows] at hnil
        cases hnil
      have hfilter : ([⟨u, p.finalLsn, endLsn⟩].filter fun frame : Frame =>
          !frame.rows.isEmpty) = [⟨u, p.finalLsn, endLsn⟩] := by
        simp [hu]
      rw [hfilter, if_neg (List.cons_ne_nil _ _), Option.toList_some]
      refine .cons ⟨rfl, ?_, ?_, rfl, p.rows, hpending.rows, rfl⟩ .nil
      · rw [Decoder.committed, hpending.xid]
      · rw [Decoder.committed, hpending.finalLsn]

end Tracks

theorem frames_begin {finalLsn xid : ℕ} {timestamp : ℤ} {rest : List Message} :
    frames past t (.begin finalLsn timestamp xid :: rest) =
      frames (past ++ [.begin finalLsn timestamp xid])
        (some ⟨xid, finalLsn, timestamp, []⟩) rest := by
  cases t <;> rfl

theorem frames_body {rest : List Message} (hm : m.isBody = true) :
    frames past t (m :: rest) = frames (past ++ [m]) (if m.isRow then
      t.map fun t => { t with rows := t.rows ++ [⟨past, m⟩] } else t) rest := by
  cases m with
  | begin finalLsn timestamp xid => cases hm
  | commit flags commitLsn endLsn timestamp => cases hm
  | _ => cases t <;> rfl

/-- What the decoder emits for the rest of a stream, given what it knows of its beginning. -/
theorem Tracks.pushAll (h : Tracks cfg past t d) {stream : List (Message × ℕ)}
    {emitted : List ChangeTransaction} (hpush : d.pushAll cfg stream = .ok (d', emitted)) :
    List.Forall₂ (Frame.Emits cfg) ((frames past t (stream.map Prod.fst)).filter fun frame =>
        !frame.rows.isEmpty) emitted ∧
      (∀ frame ∈ frames past t (stream.map Prod.fst), d.previousEnd < frame.endLsn) ∧
      (frames past t (stream.map Prod.fst)).Pairwise fun a b => a.endLsn < b.endLsn := by
  induction stream generalizing past t d emitted with
  | nil =>
    cases hpush
    simp [frames]
  | cons message rest ih =>
    obtain ⟨m, bytes⟩ := message
    simp only [Decoder.pushAll, bind_eq_ok, pure_eq, Except.ok.injEq, Prod.mk.injEq] at hpush
    obtain ⟨⟨d₂, first⟩, hfirst, ⟨d₃, later⟩, hlater, rfl, rfl⟩ := hpush
    obtain ⟨d₁, hcharge, hcases⟩ := Decoder.push_cases hfirst
    have hprevious : d₁.previousEnd = d.previousEnd := by
      rcases Decoder.charge_ok hcharge with ⟨-, rfl⟩ | ⟨p, n, -, rfl⟩ <;> rfl
    have h₁ := h.charge hcharge
    rcases hcases with ⟨finalLsn, timestamp, xid, rfl, rfl, hbegin⟩ |
      ⟨flags, commitLsn, endLsn, timestamp, rfl, hcommit⟩ | ⟨hm, rfl, hbody⟩
    · have hsame : d₂.previousEnd = d₁.previousEnd := by
        obtain ⟨-, -, rfl⟩ := Decoder.pushBegin_ok hbegin
        rfl
      rw [List.map_cons, frames_begin, ← hprevious, ← hsame]
      exact ih (h₁.begin hbegin) hlater
    · obtain ⟨u, rfl, hend, hnext, h₂, hemitted⟩ := h₁.commit hcommit
      obtain ⟨hforall, hafter, hpairwise⟩ := ih h₂ hlater
      have hframes : frames past (some u) ((Message.commit flags commitLsn endLsn timestamp, bytes)
          :: rest |>.map Prod.fst) = ⟨u, commitLsn, endLsn⟩ ::
            frames (past ++ [.commit flags commitLsn endLsn timestamp]) none
              (rest.map Prod.fst) := rfl
      rw [hframes, ← hprevious]
      refine ⟨?_, ?_, List.pairwise_cons.mpr ⟨?_, hpairwise⟩⟩
      · rw [← List.singleton_append, List.filter_append]
        exact List.rel_append hemitted hforall
      · intro frame hframe
        rcases List.mem_cons.mp hframe with rfl | hframe
        · exact hend
        · have hlt := hafter frame hframe
          omega
      · intro frame hframe
        rw [← hnext]
        exact hafter frame hframe
    · have hsame : d₂.previousEnd = d₁.previousEnd := by
        cases hrow : m.isRow with
        | true =>
          obtain ⟨-, -, -, -, -, -, -, -, -, -, -, rfl⟩ := Decoder.pushBody_row hrow hbody
          rfl
        | false =>
          rcases Decoder.pushBody_other hrow hbody with rfl | ⟨id, table, rfl, -⟩ <;> rfl
      rw [List.map_cons, frames_body hm, ← hprevious, ← hsame]
      exact ih (h₁.body hbody) hlater

theorem Frame.Emits.atCursor {frame : Frame} {transaction : ChangeTransaction}
    (h : frame.Emits cfg transaction) :
    ∀ change ∈ transaction.changes, AtCursor transaction.commitCursor change := by
  obtain ⟨changes, -, hchanges⟩ := h.changes
  intro change hchange
  rw [hchanges] at hchange
  obtain ⟨original, -, rfl⟩ := List.mem_map.mp hchange
  rw [h.commitCursor]
  exact atEnd_atCursor frame.endLsn original

/-- The transactions are the committed ones of the stream that have rows, in the order of
their increasing commits, and everything in them carries the cursor of its commit. -/
structure EmitsCommitted (cfg : DecoderConfig) (stream : List (Message × ℕ))
    (emitted : List ChangeTransaction) : Prop where
  emits : List.Forall₂ (Frame.Emits cfg)
    ((frames [] none (stream.map Prod.fst)).filter fun frame => !frame.rows.isEmpty) emitted
  increasing :
    (frames [] none (stream.map Prod.fst)).Pairwise fun a b => a.endLsn < b.endLsn
  cursors : ∀ transaction ∈ emitted, ∀ change ∈ transaction.changes,
    AtCursor transaction.commitCursor change

theorem Decoder.pushAll_emits {stream : List (Message × ℕ)} {emitted : List ChangeTransaction}
    (hpush : Decoder.pushAll cfg .new stream = .ok (d', emitted)) :
    EmitsCommitted cfg stream emitted := by
  have hnew : Tracks cfg [] none .new := ⟨by simp [Decoder.new], trivial⟩
  obtain ⟨hemitted, -, hpairwise⟩ := hnew.pushAll hpush
  refine ⟨hemitted, hpairwise, ?_⟩
  intro transaction htransaction
  obtain ⟨i, hi, rfl⟩ := List.mem_iff_getElem.mp htransaction
  have hlength := hemitted.length_eq
  exact (List.forall₂_iff_get.mp hemitted).2 i (by omega) hi |>.atCursor

end DatabaseSync.PostgresqlSource
