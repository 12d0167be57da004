import DatabaseSync.Library.Transition
import DatabaseSync.MysqlSource.Transactions

/-! # The binlog stream

The iterator over complete committed transactions. What the connection delivers, when a stop is
requested and how the raw log is written are the input of a call.
-/

namespace DatabaseSync.MysqlSource

open ChangeEvent Checked

/-- What one turn of the loop meets: whether a stop is requested, what the connection delivers,
whether a stop is requested when it fails, and how logging the event ends. -/
structure Polled where
  stopped : Bool
  item : Option (Except String Event)
  stoppedOnError : Bool
  logged : Except String Unit

structure BinlogStream where
  decoder : Decoder
  count : ℕ
  ended : Bool

def BinlogStream.new (currentFile : String) : BinlogStream := ⟨.new currentFile, 0, false⟩

/-- The outcome of a turn: the loop goes on, or it returns an item or the end. -/
inductive Turn
  | continue
  | item (result : Except String ChangeTransaction)
  | finished

def Turn.ofComplete : Except String Unit → Turn
  | .ok () => .finished
  | .error e => .item (.error e)

def Turn.ofEmitted : Option ChangeTransaction → Turn
  | none => .continue
  | some transaction => .item (.ok transaction)

namespace BinlogStream

variable {ν : Type} (cfg : DecoderConfig ν) (maxEvents : Option ℕ) (s : BinlogStream)

def finish : BinlogStream := { s with ended := true }

/-- An event that has been read. A transaction without changes is not checked. -/
def takeEvent (event : Event) (logged : Except String Unit) : BinlogStream × Turn :=
  match logged with
  | .error e => (s.finish, .item (.error e))
  | .ok () =>
    match s.decoder.decode cfg event with
    | .error e => (s.finish, .item (.error e))
    | .ok (decoder, none) => ({ s with decoder }, .continue)
    | .ok (decoder, some transaction) =>
      if transaction.changes.isEmpty then ({ s with decoder }, .item (.ok transaction))
      else
        match cfg.validateChangeEvent transaction with
        | .ok () => ({ s with decoder }, .item (.ok transaction))
        | .error e => (s.finish, .item (.error e))

def turn (polled : Polled) : BinlogStream × Turn :=
  if polled.stopped then (s.finish, .finished)
  else if maxEvents.any (· ≤ s.count) then (s.finish, .ofComplete s.decoder.ensureComplete)
  else
    match polled.item with
    | none => (s.finish, .ofComplete s.decoder.ensureComplete)
    | some (.error e) =>
      (s.finish, if polled.stoppedOnError then .finished else .item (.error e))
    | some (.ok event) => { s with count := s.count + 1 }.takeEvent cfg event polled.logged

def nextLoop : BinlogStream → List Polled →
    Option (BinlogStream × Option (Except String ChangeTransaction) × List Polled)
  | _, [] => none
  | s, polled :: rest =>
    match s.turn cfg maxEvents polled with
    | (s, .continue) => nextLoop s rest
    | (s, .item result) => some (s, some result, rest)
    | (s, .finished) => some (s, none, rest)

/-- The item of a call and the input it has not read. There is no result while the input gives
none. -/
def next (input : List Polled) :
    Option (BinlogStream × Option (Except String ChangeTransaction) × List Polled) :=
  if s.ended then some (s, none, input) else s.nextLoop cfg maxEvents input

end BinlogStream

variable {ν : Type} (cfg : DecoderConfig ν) (maxEvents : Option ℕ)

/-- A sequence of calls on one input, each of which returns a transaction. -/
inductive Delivers : BinlogStream → List Polled → List ChangeTransaction → BinlogStream →
    List Polled → Prop
  | done {s : BinlogStream} {input : List Polled} : Delivers s input [] s input
  | next {s s₁ s₂ : BinlogStream} {input rest rest₁ : List Polled}
      {transaction : ChangeTransaction} {transactions : List ChangeTransaction}
      (hnext : s.next cfg maxEvents input = some (s₁, some (.ok transaction), rest))
      (h : Delivers s₁ rest transactions s₂ rest₁) :
      Delivers s input (transaction :: transactions) s₂ rest₁

/-- A call that has returned. -/
def Called (s : BinlogStream) (input : List Polled) (s' : BinlogStream) : Prop :=
  ∃ item rest, s.next cfg maxEvents input = some (s', item, rest)

/-- The event of a turn. -/
def Polled.event (polled : Polled) : Option Event :=
  match polled.item with
  | some (.ok event) => some event
  | _ => none

/-- The events of a binlog that starts in a file are given by these transactions: the committed
ones that are published, each a segment of the binlog with changes of captured tables only, and
every segment with changes. -/
structure EmitsCommitted (currentFile : String) (events : List Event)
    (emitted : List ChangeTransaction) : Prop where
  committed : emitted = (transactions cfg.source none (marks cfg ⟨currentFile, []⟩ events)).filter
    (published cfg)
  segment : ∀ t ∈ emitted, Segment cfg.source (marks cfg ⟨currentFile, []⟩ events) t
  captured : ∀ t ∈ emitted, ∀ change ∈ t.changes, captures cfg change.schema change.table = true
  complete : ∀ before beginCursor rest last commitCursor after,
    marks cfg ⟨currentFile, []⟩ events = before ++ .begin beginCursor :: rest ++ last :: after →
    (∀ m ∈ rest, m.bounds = false) →
    (last = .commit commitCursor ∨ last = .control commitCursor) →
    rest.flatMap Mark.changes ≠ [] →
    ∃ t ∈ emitted, t.beginCursor = beginCursor ∧ t.commitCursor = commitCursor ∧
      t.changes = rest.flatMap Mark.changes

variable {cfg maxEvents}

section Committed

theorem LegalRun.append_right {source : Source} {t : Option Open} {before after : List Mark}
    (h : LegalRun source t (before ++ after)) :
    ∃ u, LegalRun source u after ∧
      ∀ closed ∈ transactions source u after, closed ∈ transactions source t (before ++ after) := by
  induction before generalizing t with
  | nil => exact ⟨t, h, fun closed hclosed => hclosed⟩
  | cons m before ih =>
    obtain ⟨-, h⟩ := h
    obtain ⟨u, hu, hmem⟩ := ih h
    exact ⟨u, hu, fun closed hclosed => List.mem_append_right _ (hmem closed hclosed)⟩

/-- A segment with changes is among the committed transactions. -/
theorem mem_transactions_of_segment {source : Source} {t : Option Open}
    {before rest after : List Mark} {last : Mark} {beginCursor commitCursor : SourceCursor}
    (hlegal : LegalRun source t (before ++ .begin beginCursor :: rest ++ last :: after))
    (hrest : ∀ m ∈ rest, m.bounds = false)
    (hlast : last = .commit commitCursor ∨ last = .control commitCursor)
    (hchanges : rest.flatMap Mark.changes ≠ []) :
    ∃ closed ∈ transactions source t (before ++ .begin beginCursor :: rest ++ last :: after),
      closed.beginCursor = beginCursor ∧ closed.commitCursor = commitCursor ∧
        closed.changes = rest.flatMap Mark.changes := by
  rw [List.append_assoc] at hlegal ⊢
  obtain ⟨u, ⟨-, hbegun⟩, hmem⟩ := hlegal.append_right
  obtain ⟨v, hv, hbegan, hcursor, hnone⟩ : ∃ v, (Mark.step source u (.begin beginCursor)).1 =
      some v ∧ v.began = true ∧ v.beginCursor = beginCursor ∧ v.changes = [] := by
    cases u <;> exact ⟨_, rfl, rfl, rfl, rfl⟩
  rw [hv] at hbegun
  have hcollected : v.changes ++ rest.flatMap Mark.changes = rest.flatMap Mark.changes := by
    rw [hnone, List.nil_append]
  have hclosed := transactions_mem_of_rest hbegan hrest hlast
    (by rw [hcollected]; exact hchanges) hbegun
  rw [← hv] at hclosed
  exact ⟨_, hmem _ (List.mem_append_right _ hclosed), hcursor, rfl, hcollected⟩

/-- What the decoder emits for the events it accepts. -/
theorem Decoder.decodeAll_emitsCommitted {currentFile : String} {events : List Event}
    {d : Decoder} {emitted : List ChangeTransaction}
    (h : decodeAll cfg (.new currentFile) events = .ok (d, emitted)) :
    EmitsCommitted cfg currentFile events emitted := by
  have hnew : Buffers (Decoder.new currentFile).pending none := trivial
  obtain ⟨hlegal, hemitted⟩ := decodeAll_emits hnew h
  have hsegment : ∀ t ∈ emitted, Segment cfg.source (marks cfg ⟨currentFile, []⟩ events) t := by
    intro t ht
    rw [hemitted] at ht
    have hexplained : ∀ u, (none : Option Open) = some u → Explains [] u := by
      intro u hu
      cases hu
    exact segment_of_transactions hexplained hlegal t (List.mem_filter.mp ht).1
  refine ⟨hemitted, hsegment, ?_, ?_⟩
  · intro t ht change hchange
    obtain ⟨m, hm, hmem⟩ := (hsegment t ht).changes_mem hchange
    have hselected : (⟨currentFile, []⟩ : Context).Selected cfg := by
      intro entry hentry
      cases hentry
    exact marks_captured hselected m hm change hmem
  · intro before beginCursor rest last commitCursor after hmarks hrest hlast hchanges
    have hlegal : LegalRun cfg.source none (marks cfg ⟨currentFile, []⟩ events) := hlegal
    rw [hmarks] at hlegal
    obtain ⟨t, ht, hbegin, hcommit, heq⟩ :=
      mem_transactions_of_segment hlegal hrest hlast hchanges
    refine ⟨t, ?_, hbegin, hcommit, heq⟩
    rw [hemitted, List.mem_filter]
    refine ⟨?_, ?_⟩
    · exact hmarks ▸ ht
    · rw [published, heq]
      simp [hchanges]

end Committed

section Delivery

variable {s s' : BinlogStream}

theorem Decoder.decodeAll_cons {d₁ d₂ d₃ : Decoder} {event : Event} {events : List Event}
    {emitted : Option ChangeTransaction} {rest : List ChangeTransaction}
    (hstep : d₁.decode cfg event = .ok (d₂, emitted))
    (hrest : decodeAll cfg d₂ events = .ok (d₃, rest)) :
    decodeAll cfg d₁ (event :: events) = .ok (d₃, emitted.toList ++ rest) := by
  simp [decodeAll, hstep, hrest]

theorem Decoder.decodeAll_append {d₁ d₂ d₃ : Decoder} {events₁ events₂ : List Event}
    {emitted₁ emitted₂ : List ChangeTransaction}
    (h₁ : decodeAll cfg d₁ events₁ = .ok (d₂, emitted₁))
    (h₂ : decodeAll cfg d₂ events₂ = .ok (d₃, emitted₂)) :
    decodeAll cfg d₁ (events₁ ++ events₂) = .ok (d₃, emitted₁ ++ emitted₂) := by
  induction events₁ generalizing d₁ emitted₁ with
  | nil =>
    cases h₁
    exact h₂
  | cons event events ih =>
    simp only [decodeAll, bind_eq_ok, pure_eq, Except.ok.injEq, Prod.mk.injEq] at h₁
    obtain ⟨⟨next, emitted⟩, hstep, ⟨last, rest⟩, hrest, rfl, rfl⟩ := h₁
    rw [List.append_assoc]
    exact decodeAll_cons hstep (ih hrest)

/-- The ways a turn can go: the stream ends without a transaction, or the event is decoded. -/
def TurnCases (cfg : DecoderConfig ν) (s : BinlogStream) (polled : Polled)
    (s' : BinlogStream) (outcome : Turn) : Prop :=
  (s'.ended = true ∧ (outcome = .finished ∨ ∃ e, outcome = .item (.error e))) ∨
    ∃ event emitted, polled.event = some event ∧
      s.decoder.decode cfg event = .ok (s'.decoder, emitted) ∧ s'.ended = s.ended ∧
      outcome = .ofEmitted emitted

theorem ofComplete_cases (complete : Except String Unit) :
    Turn.ofComplete complete = .finished ∨ ∃ e, Turn.ofComplete complete = .item (.error e) := by
  cases complete with
  | ok _ => exact .inl rfl
  | error e => exact .inr ⟨e, rfl⟩

theorem BinlogStream.takeEvent_cases {polled : Polled} {event : Event}
    (hevent : polled.event = some event) {outcome : Turn}
    (h : s.takeEvent cfg event polled.logged = (s', outcome)) :
    TurnCases cfg s polled s' outcome := by
  unfold takeEvent at h
  split at h
  next e hlogged =>
    cases h
    exact .inl ⟨rfl, .inr ⟨e, rfl⟩⟩
  next hlogged =>
    split at h
    next e hdecode =>
      cases h
      exact .inl ⟨rfl, .inr ⟨e, rfl⟩⟩
    next decoder hdecode =>
      cases h
      exact .inr ⟨event, none, hevent, hdecode, rfl, rfl⟩
    next decoder transaction hdecode =>
      have hdelivered : ({ s with decoder }, Turn.item (.ok transaction)) = (s', outcome) →
          TurnCases cfg s polled s' outcome := by
        intro h
        cases h
        exact .inr ⟨event, some transaction, hevent, hdecode, rfl, rfl⟩
      split at h
      · exact hdelivered h
      · split at h
        next hvalid => exact hdelivered h
        next e hinvalid =>
          cases h
          exact .inl ⟨rfl, .inr ⟨e, rfl⟩⟩

theorem BinlogStream.turn_cases {polled : Polled} {outcome : Turn}
    (h : s.turn cfg maxEvents polled = (s', outcome)) : TurnCases cfg s polled s' outcome := by
  unfold turn at h
  split at h
  · cases h
    exact .inl ⟨rfl, .inl rfl⟩
  · split at h
    · cases h
      exact .inl ⟨rfl, ofComplete_cases _⟩
    · split at h
      next hitem =>
        cases h
        exact .inl ⟨rfl, ofComplete_cases _⟩
      next e hitem =>
        cases h
        refine .inl ⟨rfl, ?_⟩
        split
        · exact .inl rfl
        · exact .inr ⟨e, rfl⟩
      next event hitem =>
        have hevent : polled.event = some event := by rw [Polled.event, hitem]
        have hcases := takeEvent_cases hevent h
        exact hcases

/-- A call ends the stream, or it has decoded the events it read up to a transaction. -/
theorem BinlogStream.nextLoop_cases {input rest : List Polled}
    {item : Option (Except String ChangeTransaction)}
    (h : s.nextLoop cfg maxEvents input = some (s', item, rest)) :
    (s'.ended = true ∧ ∀ transaction, item ≠ some (.ok transaction)) ∨
      ∃ read transaction, input = read ++ rest ∧ item = some (.ok transaction) ∧
        s'.ended = s.ended ∧ Decoder.decodeAll cfg s.decoder (read.filterMap Polled.event) =
          .ok (s'.decoder, [transaction]) := by
  induction input generalizing s with
  | nil => cases h
  | cons polled input ih =>
    rw [nextLoop] at h
    cases hturn : s.turn cfg maxEvents polled with
    | mk s₁ outcome =>
      rw [hturn] at h
      rcases turn_cases hturn with ⟨hended, rfl | ⟨e, rfl⟩⟩ | ⟨event, emitted, hevent, hdecode,
        hkept, rfl⟩
      · cases h
        refine .inl ⟨hended, ?_⟩
        intro transaction hitem
        cases hitem
      · cases h
        refine .inl ⟨hended, ?_⟩
        intro transaction hitem
        cases hitem
      · cases emitted with
        | none =>
          rcases ih h with hfailed | ⟨read, transaction, rfl, rfl, hended, hread⟩
          · exact .inl hfailed
          · refine .inr ⟨polled :: read, transaction, rfl, rfl, hended.trans hkept, ?_⟩
            rw [List.filterMap_cons_some hevent]
            exact Decoder.decodeAll_cons hdecode hread
        | some transaction =>
          cases h
          refine .inr ⟨[polled], transaction, rfl, rfl, hkept, ?_⟩
          rw [List.filterMap_cons_some hevent]
          exact Decoder.decodeAll_cons hdecode rfl

theorem Delivers.decodeAll {input rest : List Polled} {transactions : List ChangeTransaction}
    (h : Delivers cfg maxEvents s input transactions s' rest) :
    ∃ read, input = read ++ rest ∧
      Decoder.decodeAll cfg s.decoder (read.filterMap Polled.event) =
        .ok (s'.decoder, transactions) := by
  induction h with
  | done => exact ⟨[], rfl, rfl⟩
  | next hnext _ ih =>
    rw [BinlogStream.next] at hnext
    split at hnext
    · cases hnext
    · rcases BinlogStream.nextLoop_cases hnext with ⟨-, hnot⟩ | ⟨read, transaction, rfl, hitem, -,
        hread⟩
      · exact (hnot _ rfl).elim
      · cases hitem
        obtain ⟨later, rfl, hlater⟩ := ih
        refine ⟨read ++ later, by simp, ?_⟩
        rw [List.filterMap_append]
        exact Decoder.decodeAll_append hread hlater

end Delivery

section Ended

variable {s s' : BinlogStream}

/-- A call that returns no transaction ends the stream. -/
theorem next_ends {input rest : List Polled} {item : Option (Except String ChangeTransaction)}
    (hitem : ∀ transaction, item ≠ some (.ok transaction))
    (h : s.next cfg maxEvents input = some (s', item, rest)) : s'.ended = true := by
  rw [BinlogStream.next] at h
  split at h
  next hended =>
    cases h
    exact hended
  next hrunning =>
    rcases BinlogStream.nextLoop_cases h with ⟨hended, -⟩ | ⟨-, transaction, -, hok, -⟩
    · exact hended
    · exact (hitem transaction hok).elim

theorem next_ended (hended : s.ended = true) {input rest : List Polled}
    {item : Option (Except String ChangeTransaction)}
    (h : s.next cfg maxEvents input = some (s', item, rest)) : s' = s ∧ item = none := by
  rw [BinlogStream.next, if_pos hended] at h
  cases h
  exact ⟨rfl, rfl⟩

/-- An ended stream stays ended. -/
theorem Called.ended (hended : s.ended = true) {input : List Polled}
    (h : Called cfg maxEvents s input s') : s'.ended = true := by
  obtain ⟨item, rest, h⟩ := h
  rw [(next_ended hended h).1]
  exact hended

end Ended

/-- The decoder emits exactly the published ones among the committed transactions of the events
it accepts. The stream delivers them, and nothing once a call has returned something else. -/
theorem binlog_delivers (cfg : DecoderConfig ν) (maxEvents : Option ℕ) (currentFile : String) :
    (∀ events d emitted, Decoder.decodeAll cfg (.new currentFile) events = .ok (d, emitted) →
      EmitsCommitted cfg currentFile events emitted) ∧
    (∀ input transactions s rest,
      Delivers cfg maxEvents (.new currentFile) input transactions s rest →
      ∃ read, input = read ++ rest ∧
        EmitsCommitted cfg currentFile (read.filterMap Polled.event) transactions) ∧
    ∀ s input item s₁ rest, BinlogStream.next cfg maxEvents s input = some (s₁, item, rest) →
      (∀ transaction, item ≠ some (.ok transaction)) →
      ∀ s₂, Transition.Run (Called cfg maxEvents) s₁ s₂ →
        ∀ later item s₃ rest₁, BinlogStream.next cfg maxEvents s₂ later =
          some (s₃, item, rest₁) → item = none := by
  refine ⟨fun events d emitted h => Decoder.decodeAll_emitsCommitted h, ?_, ?_⟩
  · intro input transactions s rest h
    obtain ⟨read, hread, hdecode⟩ := h.decodeAll
    exact ⟨read, hread, Decoder.decodeAll_emitsCommitted hdecode⟩
  · intro s input item s₁ rest hnext hitem s₂ hrun later item₂ s₃ rest₁ hlater
    have hended : s₂.ended = true :=
      Transition.Run.invariant (P := fun s => s.ended = true)
        (fun _ _ _ hended hcall => Called.ended hended hcall) hrun (next_ends hitem hnext)
    exact (next_ended hended hlater).2

section Sample

/-- Every rows event inserts one row with the number of its body. -/
def sampleConfig (captureTables : List (String × String)) : DecoderConfig String where
  source := ⟨"mysql", "8.0", "db-1"⟩
  rejectStatements := true
  captureTables := captureTables
  readRows _ rows := [.ok (none, some [⟨"@0", some (some (toString rows.body.length))⟩])]
  decodeValue text _ := .ok (.integer true 32 text)
  sourceTypeMapping _ := .ok ()
  jsonSize _ := 256
  validateChangeEvent _ := .ok ()

def sampleColumn : ColumnInfo := ⟨"id", "int", "int", none, none, false, some 1⟩

def sampleEvent (logPos : ℕ) (data : EventData) : Event := ⟨0x21, logPos, 1700000000, data⟩

/-- A transaction with a row and one that is rolled back. -/
def sampleEvents : List Event :=
  [sampleEvent 200 (.gtid (List.replicate 16 17) 5 none), sampleEvent 300 (.query "BEGIN"),
    sampleEvent 400 (.tableMap ⟨7, "shop", "orders", 1, []⟩ (.ok [sampleColumn])),
    sampleEvent 500 (.rows ⟨.write, 7, [1]⟩), sampleEvent 600 .xid,
    sampleEvent 700 (.gtid (List.replicate 16 17) 6 none), sampleEvent 800 (.query "BEGIN"),
    sampleEvent 900 (.rows ⟨.write, 7, [1, 2]⟩), sampleEvent 1000 (.query "ROLLBACK")]

def sampleCursor (logPos : ℕ) : SourceCursor := (⟨"binlog.000001", []⟩ : Context).cursor logPos

def sampleTransaction : ChangeTransaction :=
  ⟨⟨"mysql", "8.0", "db-1"⟩, transactionId (List.replicate 16 17) 5 none, sampleCursor 300,
    sampleCursor 600, [⟨none, .insert, "shop", "orders", sampleCursor 500, 1700000000,
      "information_schema_at_capture", none,
      some [⟨0, "id", "int", some 1, false, none, .value (.integer true 32 "1")⟩]⟩]⟩

def samplePolled (event : Event) : Polled := ⟨false, some (.ok event), false, .ok ()⟩

def sampleDecoder : Decoder :=
  ⟨⟨"binlog.000001", [(7, ⟨⟨7, "shop", "orders", 1, []⟩, [sampleColumn]⟩)]⟩, none⟩

theorem sample_decodeAll : Decoder.decodeAll (sampleConfig [("shop", "orders")])
    (.new "binlog.000001") sampleEvents = .ok (sampleDecoder, [sampleTransaction]) := by
  rfl

theorem binlog_delivers_sample :
    EmitsCommitted (sampleConfig [("shop", "orders")]) "binlog.000001" sampleEvents
        [sampleTransaction] ∧
      (∃ read, sampleEvents.map samplePolled = read ++ (sampleEvents.drop 5).map samplePolled ∧
        EmitsCommitted (sampleConfig [("shop", "orders")]) "binlog.000001"
          (read.filterMap Polled.event) [sampleTransaction]) ∧
      ∀ s, Transition.Run (Called (sampleConfig [("shop", "orders")]) none)
          ⟨sampleDecoder, 5, true⟩ s →
        ∀ later item s₁ rest, BinlogStream.next (sampleConfig [("shop", "orders")]) none s later =
          some (s₁, item, rest) → item = none := by
  obtain ⟨hdecode, hstream, hended⟩ :=
    binlog_delivers (sampleConfig [("shop", "orders")]) none "binlog.000001"
  refine ⟨hdecode _ _ _ sample_decodeAll, ?_, ?_⟩
  · refine hstream _ _ ⟨sampleDecoder, 5, false⟩ _ (.next ?_ .done)
    rfl
  · refine hended ⟨sampleDecoder, 5, false⟩ [⟨false, some (.error "lost"), false, .ok ()⟩]
      (some (.error "lost")) _ [] rfl ?_
    intro transaction hitem
    cases hitem

/-- Without a selection of tables a committed transaction without rows is not emitted. -/
theorem empty_transaction_not_emitted :
    ∃ d transaction, Decoder.decodeAll (sampleConfig []) (.new "binlog.000001")
        [sampleEvent 200 (.gtid (List.replicate 16 17) 5 none),
          sampleEvent 300 (.query "BEGIN"), sampleEvent 600 .xid] = .ok (d, []) ∧
      transactions (sampleConfig []).source none (marks (sampleConfig []) ⟨"binlog.000001", []⟩
        [sampleEvent 200 (.gtid (List.replicate 16 17) 5 none),
          sampleEvent 300 (.query "BEGIN"), sampleEvent 600 .xid]) = [transaction] :=
  ⟨_, _, rfl, rfl⟩

end Sample

end DatabaseSync.MysqlSource
