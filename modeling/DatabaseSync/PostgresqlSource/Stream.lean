import DatabaseSync.PostgresqlSource.Decoder

/-! # Streams of committed transactions

What the server sends for a WAL history, and what the decoder makes of it. The commit records
of a history are disjoint and increasing; two of them may be adjacent.
-/

namespace DatabaseSync.PostgresqlSource

open ChangeEvent Checked

/-- The messages that may stand between `BEGIN` and `COMMIT`. -/
def Message.isBody : Message → Bool
  | .begin .. | .commit .. => false
  | _ => true

def Message.isRow : Message → Bool
  | .insert .. | .update .. | .delete .. => true
  | _ => false

/-- A committed transaction with its commit record `[commitLsn, endLsn)`. `BEGIN` carries the
start of that record, `COMMIT` its start and its end. -/
structure WalTransaction where
  xid : ℕ
  commitLsn : ℕ
  endLsn : ℕ
  timestamp : ℤ
  body : List (Message × ℕ)
  beginBytes : ℕ
  commitBytes : ℕ
  xid_pos : 0 < xid
  commit_pos : 0 < commitLsn
  commit_lt_end : commitLsn < endLsn
  body_only : ∀ m ∈ body, m.1.isBody = true

namespace WalTransaction

variable (tx : WalTransaction)

def messages : List (Message × ℕ) :=
  (.begin tx.commitLsn tx.timestamp tx.xid, tx.beginBytes) :: tx.body ++
    [(.commit 0 tx.commitLsn tx.endLsn tx.timestamp, tx.commitBytes)]

/-- The number of rows the transaction changes in published tables. -/
def rowCount : ℕ := tx.body.countP (·.1.isRow)

def id : String := "pg:" ++ toString tx.xid ++ ":" ++ formatLsn tx.endLsn

def pending (bytes : ℕ) (rows : List RowChange) : Pending :=
  ⟨tx.xid, tx.commitLsn, tx.timestamp, bytes, rows⟩

end WalTransaction

/-- Commit records in increasing order, adjacent ones allowed. -/
def WalHistory (history : List WalTransaction) : Prop :=
  history.Pairwise fun a b => a.endLsn ≤ b.commitLsn

/-- The messages of the transactions that touch published tables. -/
def stream (history : List WalTransaction) (touches : WalTransaction → Bool) :
    List (Message × ℕ) :=
  (history.filter touches).flatMap (·.messages)

variable (cfg : DecoderConfig)

/-- Push the messages inside a transaction. -/
def Decoder.pushBodies : Decoder → List (Message × ℕ) → Except PgError Decoder
  | d, [] => return d
  | d, (message, bytes) :: rest => do
    let d ← d.charge cfg bytes
    let d ← d.pushBody cfg message
    pushBodies d rest

/-- Take a transaction from `BEGIN` up to its `COMMIT`, the bytes of which count. -/
def Decoder.collect (seen : List ℕ) (previousEnd : ℕ) (tx : WalTransaction) :
    Except PgError Decoder := do
  let d ← Decoder.pushBodies cfg ⟨seen, some (tx.pending tx.beginBytes []), previousEnd⟩ tx.body
  d.charge cfg tx.commitBytes

/-- Nothing but the order of the commit records can make the decoder refuse the
transactions: their rows decode, respect the limits, and validate. -/
def Decodes : List ℕ → List WalTransaction → Prop
  | _, [] => True
  | seen, tx :: rest => ∃ d, Decoder.collect cfg seen 0 tx = .ok d ∧
      (∀ p, d.pending = some p → p.rows ≠ [] →
        cfg.validateChangeEvent (Decoder.committed cfg p tx.commitLsn tx.endLsn) = .ok ()) ∧
      Decodes d.seen rest

/-- The errors about the order of transactions. -/
def OrderingError (e : PgError) : Prop :=
  e = .invalid "invalid/nested BEGIN or out-of-order transaction" ∨
    e = .invalid "inconsistent PostgreSQL COMMIT boundary"

/-- The decoder takes the whole stream and emits the row-bearing transactions, in order. -/
structure Delivers (history : List WalTransaction) (touches : WalTransaction → Bool) : Prop where
  no_ordering_error : ∀ e,
    Decoder.pushAll cfg .new (stream history touches) = .error e → ¬ OrderingError e
  emits : ∃ d emitted, Decoder.pushAll cfg .new (stream history touches) = .ok (d, emitted) ∧
    emitted.map (fun t => (t.id, t.changes.length)) =
      ((history.filter touches).filter (0 < ·.rowCount)).map fun tx => (tx.id, tx.rowCount)

namespace Decoder

variable {cfg} {d d' : Decoder} {p : Pending} {m : Message} {bytes : ℕ}

/-- The decoder with another end of the previous transaction. -/
def withEnd (e : ℕ) (d : Decoder) : Decoder := { d with previousEnd := e }

private theorem map_bind {α β γ : Type} (f : β → γ) (x : Except PgError α)
    (g : α → Except PgError β) : (x >>= g).map f = x >>= fun a => (g a).map f := by
  cases x <;> rfl

theorem charge_withEnd (e : ℕ) : (d.withEnd e).charge cfg bytes =
    (d.charge cfg bytes).map (withEnd e) := by
  obtain ⟨seen, pending, previousEnd⟩ := d
  cases pending with
  | none => rfl
  | some p =>
    simp only [charge, withEnd, throw_eq, pure_eq, error_bind]
    split
    · rfl
    · split <;> rfl

theorem row_withEnd (e : ℕ) {relationId : ℕ} {operation : Operation}
    {before after : Option (List ColumnDatum)} :
    (d.withEnd e).row cfg relationId operation before after =
      (d.row cfg relationId operation before after).map (withEnd e) := by
  obtain ⟨seen, pending, previousEnd⟩ := d
  simp only [row, withEnd]
  cases cfg.tables.lookup relationId with
  | none => rfl
  | some t =>
    cases pending with
    | none => rfl
    | some p =>
      simp only [throw_eq, pure_eq, error_bind]
      split
      · rfl
      · split
        · rfl
        · split <;> rfl

/-- The branches inside a transaction do not read the end of the previous one. -/
theorem pushBody_withEnd (e : ℕ) : (d.withEnd e).pushBody cfg m =
    (d.pushBody cfg m).map (withEnd e) := by
  have htable : ∀ id, (d.withEnd e).table cfg id = d.table cfg id := fun _ => rfl
  have hcursor : (d.withEnd e).currentCursor = d.currentCursor := rfl
  cases m with
  | insert id tuple =>
    simp only [pushBody, htable, hcursor, row_withEnd, map_bind]
  | update id old new key =>
    simp only [pushBody, htable, hcursor, row_withEnd, map_bind]
  | delete id old key =>
    simp only [pushBody, htable, hcursor, row_withEnd, map_bind]
  | relation id schema name identity columns =>
    simp only [pushBody]
    cases cfg.tables.lookup id with
    | none => rfl
    | some t =>
      simp only [throw_eq, pure_eq, error_bind]
      split <;> rfl
  | type id schema name =>
    simp only [pushBody]
    cases cfg.typeNames.lookup id with
    | none => rfl
    | some expected =>
      simp only [throw_eq, pure_eq, error_bind]
      split <;> rfl
  | _ => rfl

/-- What a message inside a transaction does: at most one row, and only for the row messages. -/
theorem pushBody_cases (h : d.pushBody cfg m = .ok d') :
    (m.isRow = false ∧ ∃ seen, d' = { d with seen := seen }) ∨
      (m.isRow = true ∧ ∃ p change, d.pending = some p ∧
        d' = { d with pending := some { p with rows := p.rows ++ [change] } }) := by
  have hrow : ∀ {id operation before after},
      d.row cfg id operation before after = .ok d' → ∃ p change, d.pending = some p ∧
        d' = { d with pending := some { p with rows := p.rows ++ [change] } } := by
    intro id operation before after h
    unfold row at h
    cases htable : cfg.tables.lookup id with
    | none => simp [htable] at h
    | some t =>
      cases hp : d.pending with
      | none => simp [htable, hp] at h
      | some p =>
        simp only [htable, hp, throw_eq, pure_eq, error_bind, guard_eq_ok, Except.ok.injEq] at h
        obtain ⟨-, -, -, rfl⟩ := h
        exact ⟨p, _, rfl, rfl⟩
  cases m with
  | insert id tuple =>
    simp only [pushBody, bind_eq_ok] at h
    obtain ⟨t, -, c, -, after, -, h⟩ := h
    exact .inr ⟨rfl, hrow h⟩
  | update id old new key =>
    simp only [pushBody, bind_eq_ok] at h
    obtain ⟨t, -, c, -, after, -, before, -, h⟩ := h
    exact .inr ⟨rfl, hrow h⟩
  | delete id old key =>
    simp only [pushBody, bind_eq_ok] at h
    obtain ⟨t, -, c, -, keyOnly, -, before, -, h⟩ := h
    exact .inr ⟨rfl, hrow h⟩
  | relation id schema name identity columns =>
    refine .inl ⟨rfl, ?_⟩
    simp only [pushBody] at h
    cases htable : cfg.tables.lookup id with
    | none => simp [htable] at h
    | some t =>
      simp only [htable, throw_eq, pure_eq, error_bind, guard_eq_ok, Except.ok.injEq] at h
      exact ⟨_, h.2.symm⟩
  | type id schema name =>
    refine .inl ⟨rfl, ?_⟩
    simp only [pushBody] at h
    cases htype : cfg.typeNames.lookup id with
    | none => simp [htype] at h
    | some expected =>
      simp only [htype, throw_eq, pure_eq, error_bind, guard_eq_ok, Except.ok.injEq] at h
      exact ⟨d.seen, h.2.symm⟩
  | _ => cases h

theorem charge_cases (h : d.charge cfg bytes = .ok d') (hp : d.pending = some p) :
    ∃ n, d' = { d with pending := some { p with bytes := n } } := by
  simp only [charge, hp, throw_eq, pure_eq, error_bind, guard_eq_ok, Except.ok.injEq] at h
  obtain ⟨-, -, rfl⟩ := h
  exact ⟨_, rfl⟩

theorem pushBodies_withEnd (e : ℕ) {body : List (Message × ℕ)} :
    (d.withEnd e).pushBodies cfg body = (d.pushBodies cfg body).map (withEnd e) := by
  induction body generalizing d with
  | nil => rfl
  | cons message rest ih =>
    simp only [pushBodies, charge_withEnd]
    cases d.charge cfg message.2 with
    | error e => rfl
    | ok d₁ =>
      simp only [Except.map, ok_bind, pushBody_withEnd]
      cases d₁.pushBody cfg message.1 with
      | error e => rfl
      | ok d₂ => exact ih

/-- The messages inside a transaction keep its header and append one row for each row message. -/
theorem pushBodies_cases {body : List (Message × ℕ)} (h : d.pushBodies cfg body = .ok d')
    (hp : d.pending = some p) : ∃ seen bytes rows,
      d' = ⟨seen, some { p with bytes := bytes, rows := rows }, d.previousEnd⟩ ∧
        rows.length = p.rows.length + body.countP (·.1.isRow) := by
  induction body generalizing d p with
  | nil =>
    simp only [pushBodies, pure_eq, Except.ok.injEq] at h
    subst h
    obtain ⟨seen, pending, previousEnd⟩ := d
    cases hp
    exact ⟨_, _, _, rfl, rfl⟩
  | cons message rest ih =>
    simp only [pushBodies, bind_eq_ok] at h
    obtain ⟨d₁, hcharge, d₂, hbody, hrest⟩ := h
    obtain ⟨n, rfl⟩ := charge_cases hcharge hp
    rcases pushBody_cases hbody with ⟨hm, seen, rfl⟩ | ⟨hm, q, change, hq, rfl⟩
    · obtain ⟨seen, bytes, rows, rfl, hlength⟩ := ih hrest rfl
      refine ⟨seen, bytes, rows, rfl, ?_⟩
      simpa [hm] using hlength
    · cases hq
      obtain ⟨seen, bytes, rows, rfl, hlength⟩ := ih hrest rfl
      refine ⟨seen, bytes, rows, rfl, ?_⟩
      simp only [List.length_append, List.length_singleton] at hlength
      simp only [List.countP_cons, hm, if_true]
      omega

theorem pushAll_append (d : Decoder) (xs ys : List (Message × ℕ)) :
    d.pushAll cfg (xs ++ ys) = (do
      let (d, emitted) ← d.pushAll cfg xs
      let (d, rest) ← d.pushAll cfg ys
      return (d, emitted ++ rest)) := by
  induction xs generalizing d with
  | nil =>
    simp only [List.nil_append, pushAll, pure_eq, ok_bind]
    cases d.pushAll cfg ys <;> rfl
  | cons message xs ih =>
    simp only [List.cons_append, pushAll, ih]
    cases d.push cfg message.1 message.2 with
    | error e => rfl
    | ok pushed =>
      simp only [ok_bind]
      cases pushed.1.pushAll cfg xs with
      | error e => rfl
      | ok result =>
        simp only [ok_bind, pure_eq]
        cases result.1.pushAll cfg ys with
        | error e => rfl
        | ok last => simp only [ok_bind, List.append_assoc]

theorem push_body (hm : m.isBody = true) : d.push cfg m bytes = (do
    let d ← d.charge cfg bytes
    return (← d.pushBody cfg m, none)) := by
  cases m with
  | begin finalLsn timestamp xid => cases hm
  | commit flags commitLsn endLsn timestamp => cases hm
  | _ => rfl

/-- Messages inside a transaction emit nothing. -/
theorem pushAll_body {body : List (Message × ℕ)} (hbody : ∀ m ∈ body, m.1.isBody = true)
    (h : d.pushBodies cfg body = .ok d') : d.pushAll cfg body = .ok (d', []) := by
  induction body generalizing d with
  | nil => cases h; rfl
  | cons message rest ih =>
    simp only [pushBodies, bind_eq_ok] at h
    obtain ⟨d₁, hcharge, d₂, hpush, hrest⟩ := h
    have hfirst : d.push cfg message.1 message.2 = .ok (d₂, none) := by
      rw [push_body (hbody message (List.mem_cons_self ..))]
      simp only [hcharge, hpush, ok_bind, pure_eq]
    have hlast := ih (fun m hm => hbody m (List.mem_cons_of_mem _ hm)) hrest
    simp [pushAll, hfirst, hlast]

end Decoder

section Transaction

open Decoder

variable {cfg} {seen : List ℕ} {e : ℕ} {tx : WalTransaction} {rest : List WalTransaction}

/-- A transaction that begins at or before the recorded end is refused. -/
theorem refused_of_le (h : tx.commitLsn ≤ e) :
    Decoder.pushAll cfg ⟨seen, none, e⟩ tx.messages =
      .error (.invalid "invalid/nested BEGIN or out-of-order transaction") := by
  simp [WalTransaction.messages, pushAll, push, charge, pushBegin, h]

/-- Collecting a transaction keeps its header, counts its rows, and does not depend on where
the previous transaction ended. -/
theorem collect_cases {d : Decoder} (h : Decoder.collect cfg seen 0 tx = .ok d) :
    ∃ seen' bytes rows, d = ⟨seen', some (tx.pending bytes rows), 0⟩ ∧
      rows.length = tx.rowCount ∧
      ∀ e, Decoder.collect cfg seen e tx = .ok ⟨seen', some (tx.pending bytes rows), e⟩ := by
  have hend : ∀ e, Decoder.collect cfg seen e tx = .ok (d.withEnd e) := by
    intro e
    have hbodies : Decoder.pushBodies cfg ⟨seen, some (tx.pending tx.beginBytes []), e⟩ tx.body =
        (Decoder.pushBodies cfg ⟨seen, some (tx.pending tx.beginBytes []), 0⟩ tx.body).map
          (withEnd e) :=
      pushBodies_withEnd (d := ⟨seen, some (tx.pending tx.beginBytes []), 0⟩) e
    simp only [collect, bind_eq_ok] at h ⊢
    obtain ⟨d₁, hbody, hcharge⟩ := h
    rw [hbody] at hbodies
    refine ⟨_, hbodies, ?_⟩
    rw [charge_withEnd, hcharge]
    rfl
  simp only [collect, bind_eq_ok] at h
  obtain ⟨d₁, hbody, hcharge⟩ := h
  obtain ⟨seen', n, rows, rfl, hlength⟩ := pushBodies_cases hbody rfl
  obtain ⟨bytes, rfl⟩ := charge_cases hcharge rfl
  refine ⟨seen', bytes, rows, rfl, ?_, hend⟩
  simpa [WalTransaction.pending, WalTransaction.rowCount] using hlength

/-- `COMMIT` closes a collected transaction and emits it if it has rows. -/
theorem commit_collected (seen : List ℕ) {bytes : ℕ} {rows : List RowChange} (he : e ≤ tx.commitLsn)
    (hvalid : rows ≠ [] → cfg.validateChangeEvent
      (Decoder.committed cfg (tx.pending bytes rows) tx.commitLsn tx.endLsn) = .ok ()) :
    ∃ emitted, Decoder.pushCommit cfg ⟨seen, some (tx.pending bytes rows), e⟩ 0 tx.commitLsn
        tx.endLsn tx.timestamp = .ok (⟨seen, none, tx.endLsn⟩, emitted) ∧
      emitted.toList.map (fun t => (t.id, t.changes.length)) =
        if rows = [] then [] else [(tx.id, rows.length)] := by
  have hl := tx.commit_lt_end
  have hboundary : ¬ (0 ≠ 0 ∨ tx.commitLsn ≠ tx.commitLsn ∨ tx.endLsn ≤ tx.commitLsn ∨
      tx.timestamp ≠ tx.timestamp ∨ tx.endLsn ≤ e) := by
    omega
  have hcommit : Decoder.pushCommit cfg ⟨seen, some (tx.pending bytes rows), e⟩ 0 tx.commitLsn
      tx.endLsn tx.timestamp =
        if rows.isEmpty then .ok (⟨seen, none, tx.endLsn⟩, none)
        else do
          cfg.validateChangeEvent
            (Decoder.committed cfg (tx.pending bytes rows) tx.commitLsn tx.endLsn)
          return (⟨seen, none, tx.endLsn⟩,
            some (Decoder.committed cfg (tx.pending bytes rows) tx.commitLsn tx.endLsn)) := by
    unfold Decoder.pushCommit
    exact if_neg hboundary
  rw [hcommit]
  cases rows with
  | nil => exact ⟨none, rfl, by simp⟩
  | cons row rows =>
    refine ⟨some (Decoder.committed cfg (tx.pending bytes (row :: rows)) tx.commitLsn
      tx.endLsn), ?_, ?_⟩
    · simp [hvalid (List.cons_ne_nil _ _)]
    · simp [committed, WalTransaction.pending, WalTransaction.id]

/-- A transaction that begins after the recorded end is taken, and emitted if it has rows. -/
theorem taken_of_lt (he : e < tx.commitLsn) (hdecodes : Decodes cfg seen (tx :: rest)) :
    ∃ seen' emitted, Decoder.pushAll cfg ⟨seen, none, e⟩ tx.messages =
        .ok (⟨seen', none, tx.endLsn⟩, emitted) ∧
      emitted.map (fun t => (t.id, t.changes.length)) =
        ([tx].filter (0 < ·.rowCount)).map (fun tx => (tx.id, tx.rowCount)) ∧
      Decodes cfg seen' rest := by
  obtain ⟨d, hcollect, hvalid, hrest⟩ := hdecodes
  obtain ⟨seen', bytes, rows, rfl, hlength, hcollect⟩ := collect_cases hcollect
  have hvalid : rows ≠ [] → cfg.validateChangeEvent
      (Decoder.committed cfg (tx.pending bytes rows) tx.commitLsn tx.endLsn) = .ok () :=
    hvalid (tx.pending bytes rows) rfl
  obtain ⟨emitted, hcommit, hemitted⟩ := commit_collected seen' he.le hvalid
  have hcollect := hcollect e
  simp only [collect, bind_eq_ok] at hcollect
  obtain ⟨d, hbody, hcharge⟩ := hcollect
  have hbegin : Decoder.push cfg ⟨seen, none, e⟩ (.begin tx.commitLsn tx.timestamp tx.xid)
      tx.beginBytes = .ok (⟨seen, some (tx.pending tx.beginBytes []), e⟩, none) := by
    have hx := tx.xid_pos
    have hopen : ¬ (false = true ∨ tx.xid = 0 ∨ tx.commitLsn = 0 ∨ tx.commitLsn ≤ e) := by
      simp only [Bool.false_eq_true, false_or]
      omega
    simp only [push, charge, pushBegin, pure_eq, ok_bind, Option.isSome_none, throw_eq]
    split
    · next hbad => exact absurd hbad hopen
    · rfl
  refine ⟨seen', emitted.toList, ?_, ?_, hrest⟩
  · have hlast : d.push cfg (.commit 0 tx.commitLsn tx.endLsn tx.timestamp) tx.commitBytes =
        .ok (⟨seen', none, tx.endLsn⟩, emitted) := by
      simp only [push, hcharge, ok_bind, hcommit]
    rw [WalTransaction.messages, pushAll_append]
    simp only [pushAll, hbegin, pushAll_body tx.body_only hbody, hlast, ok_bind, pure_eq,
      Option.toList_none, List.nil_append, List.append_nil]
  · rw [hemitted]
    cases rows with
    | nil => simp [← hlength]
    | cons row rows => simp [← hlength]

/-- Transactions that begin after the recorded end and keep a gap to each other are all taken. -/
theorem taken_of_apart {txs : List WalTransaction} (he : ∀ tx ∈ txs, e ≤ tx.commitLsn)
    (horder : WalHistory txs) (hdecodes : Decodes cfg seen txs)
    (hhead : ∀ tx ∈ txs.head?, e ≠ tx.commitLsn)
    (hapart : txs.IsChain fun a b => a.endLsn ≠ b.commitLsn) :
    ∃ d emitted, Decoder.pushAll cfg ⟨seen, none, e⟩ (txs.flatMap (·.messages)) =
        .ok (d, emitted) ∧
      emitted.map (fun t => (t.id, t.changes.length)) =
        (txs.filter (0 < ·.rowCount)).map fun tx => (tx.id, tx.rowCount) := by
  induction txs generalizing seen e with
  | nil => exact ⟨_, [], rfl, rfl⟩
  | cons tx txs ih =>
    have hlt : e < tx.commitLsn :=
      lt_of_le_of_ne (he tx (List.mem_cons_self ..)) (hhead tx rfl)
    obtain ⟨seen', emitted, hfirst, hemitted, hrest⟩ := taken_of_lt hlt hdecodes
    obtain ⟨hafter, horder⟩ := List.pairwise_cons.mp horder
    obtain ⟨d, later, hlater, hmap⟩ := ih hafter horder hrest
      (fun next hnext => by
        cases txs with
        | nil => cases hnext
        | cons b txs => cases hnext; exact (List.isChain_cons_cons.mp hapart).1)
      hapart.of_cons
    refine ⟨d, emitted ++ later, ?_, ?_⟩
    · simp [List.flatMap_cons, pushAll_append, hfirst, hlater]
    · rw [List.map_append, hemitted, hmap, ← List.map_append, ← List.filter_append]
      rfl

/-- If two delivered transactions are adjacent, the second is refused as out of order. -/
theorem refused_of_adjacent {txs : List WalTransaction} (hdecodes : Decodes cfg seen txs)
    (he : ∀ tx ∈ txs, e ≤ tx.commitLsn) (horder : WalHistory txs)
    (hadjacent : ¬ ((∀ tx ∈ txs.head?, e ≠ tx.commitLsn) ∧
      txs.IsChain fun a b => a.endLsn ≠ b.commitLsn)) :
    Decoder.pushAll cfg ⟨seen, none, e⟩ (txs.flatMap (·.messages)) =
      .error (.invalid "invalid/nested BEGIN or out-of-order transaction") := by
  induction txs generalizing seen e with
  | nil => exact absurd ⟨by simp, .nil⟩ hadjacent
  | cons tx txs ih =>
    rw [List.flatMap_cons, pushAll_append]
    by_cases hlt : e < tx.commitLsn
    · obtain ⟨seen', emitted, hfirst, -, hrest⟩ := taken_of_lt hlt hdecodes
      obtain ⟨hafter, horder⟩ := List.pairwise_cons.mp horder
      have hlater := ih hrest hafter horder (fun ⟨hhead, hapart⟩ => hadjacent
        ⟨fun _ h => by cases h; exact hlt.ne, by
          cases txs with
          | nil => exact .singleton _
          | cons b txs => exact .cons_cons (hhead b rfl) hapart⟩)
      simp [hfirst, hlater]
    · rw [refused_of_le (not_lt.mp hlt)]
      rfl

end Transaction

/-- The decoder delivers a legitimate stream exactly when no delivered transaction begins where
the previously delivered one ends. -/
theorem delivers_iff_apart (history : List WalTransaction) (touches : WalTransaction → Bool)
    (hhistory : WalHistory history) (hdecodes : Decodes cfg [] (history.filter touches)) :
    Delivers cfg history touches ↔
      (history.filter touches).IsChain fun a b => a.endLsn ≠ b.commitLsn := by
  have hfiltered : WalHistory (history.filter touches) := hhistory.filter _
  have hzero : ∀ tx ∈ history.filter touches, 0 ≤ tx.commitLsn := fun _ _ => Nat.zero_le _
  have hhead : ∀ tx ∈ (history.filter touches).head?, 0 ≠ tx.commitLsn :=
    fun tx _ => tx.commit_pos.ne
  constructor
  · intro hdelivers
    by_contra hadjacent
    exact hdelivers.no_ordering_error _
      (refused_of_adjacent hdecodes hzero hfiltered fun h => hadjacent h.2) (.inl rfl)
  · intro hapart
    obtain ⟨d, emitted, hall, hemitted⟩ := taken_of_apart hzero hfiltered hdecodes hhead hapart
    constructor
    · intro err herr
      rw [stream, Decoder.new, hall] at herr
      cases herr
    · exact ⟨d, emitted, hall, hemitted⟩

section Sample

def sampleTable : Table :=
  ⟨16384, "public", "orders", 'd', "sha256:orders", [⟨"id", 23, -1, "int4", false, false, some 1⟩]⟩

/-- One published table with an `int4` key. Its texts are already canonical integers. -/
def sampleConfig : DecoderConfig where
  source := ⟨"postgresql", "15", "7301:1:16384"⟩
  database := "shop"
  tables := [(16384, sampleTable)]
  typeNames := []
  protocolTypeIdentityMatches _ _ _ := false
  decodeText _ _ _ bytes :=
    .ok (.value (.integer true 32 (String.ofList (bytes.map fun b => Char.ofNat b.toNat))))
  validateChangeEvent _ := .ok ()
  maxBytes := 1048576

/-- The insertion of one row whose key is a digit. -/
def sampleInsert (digit : UInt8) : List (Message × ℕ) :=
  [(.relation 16384 "public" "orders" 'd' [⟨"id", 23, -1, true⟩], 40),
    (.insert 16384 [⟨'t', [digit]⟩], 20)]

def sampleFirst : WalTransaction :=
  ⟨740, 1000, 1048, 0, sampleInsert 49, 25, 30, by decide, by decide, by decide, by decide⟩

/-- Its commit record starts where that of `sampleFirst` ends. -/
def sampleAdjacent : WalTransaction :=
  ⟨741, 1048, 1096, 0, sampleInsert 50, 25, 30, by decide, by decide, by decide, by decide⟩

/-- Its commit record starts later. -/
def sampleLater : WalTransaction :=
  ⟨741, 1200, 1248, 0, sampleInsert 50, 25, 30, by decide, by decide, by decide, by decide⟩

theorem delivers_iff_apart_sample :
    Delivers sampleConfig [sampleFirst, sampleLater] (fun _ => true) ↔
      ([sampleFirst, sampleLater].filter fun _ => true).IsChain
        fun a b => a.endLsn ≠ b.commitLsn :=
  delivers_iff_apart sampleConfig [sampleFirst, sampleLater] (fun _ => true)
    (by simp [WalHistory, sampleFirst, sampleLater])
    ⟨_, rfl, fun _ _ _ => rfl, _, rfl, fun _ _ _ => rfl, trivial⟩

/-- Two transactions that commit back to back: the decoder refuses the second one. -/
theorem adjacent_refused :
    WalHistory [sampleFirst, sampleAdjacent] ∧
      Decodes sampleConfig [] ([sampleFirst, sampleAdjacent].filter fun _ => true) ∧
      Decoder.pushAll sampleConfig .new
          (stream [sampleFirst, sampleAdjacent] fun _ => true) =
        .error (.invalid "invalid/nested BEGIN or out-of-order transaction") ∧
      ¬ Delivers sampleConfig [sampleFirst, sampleAdjacent] fun _ => true := by
  have hrefused : Decoder.pushAll sampleConfig .new
      (stream [sampleFirst, sampleAdjacent] fun _ => true) =
        .error (.invalid "invalid/nested BEGIN or out-of-order transaction") := rfl
  refine ⟨by simp [WalHistory, sampleFirst, sampleAdjacent],
    ⟨_, rfl, fun _ _ _ => rfl, _, rfl, fun _ _ _ => rfl, trivial⟩, hrefused, ?_⟩
  intro hdelivers
  exact hdelivers.no_ordering_error _ hrefused (.inl rfl)

end Sample

end DatabaseSync.PostgresqlSource
