import DatabaseSync.ChangeEvent.Reader

/-! # The framing of JSON lines

A transaction is read exactly from the contiguous lines of its begin, its rows and its commit, and
from what `json` writes the same transactions are read again.
-/

namespace DatabaseSync.ChangeEvent

open Checked Lines

section Framing

variable {library : ValidationLibrary} {codec : LineCodec}

/-- The line says what the event says, in a format that is supported. -/
def Line (codec : LineCodec) (line : List UInt8) (event : Envelope) : Prop :=
  IsLine line ∧ ∃ format, supportedFormat { event with format } = true ∧
    codec.fromSlice line = .ok { event with format }

namespace ChangeTransaction

variable (transaction : ChangeTransaction)

/-- The events before the commit. -/
def openEvents : List Envelope :=
  transaction.event 0 .transactionBegin :: transaction.rowEvents 1 transaction.changes

def commitEvent : Envelope :=
  transaction.event (transaction.changes.length + 1)
    (.transactionCommit transaction.changes.length)

theorem events_eq : transaction.events = transaction.openEvents ++ [transaction.commitEvent] := rfl

end ChangeTransaction

/-- The lines of one transaction from its begin to its commit. -/
def IsFrame (codec : LineCodec) (lines : List (List UInt8))
    (validated : ValidatedTransaction library) : Prop :=
  List.Forall₂ (Line codec) lines validated.transaction.events

/-- The lines of the pending transaction, none if there is none. -/
def Opened (codec : LineCodec) (lines : List (List UInt8)) :
    Option ChangeTransaction → Prop
  | none => lines = []
  | some tx => List.Forall₂ (Line codec) lines tx.openEvents

/-! ## From lines to transactions -/

/-- A line that continues the pending transaction has its identity and its place. -/
theorem continues_some {tx : ChangeTransaction} {envelope : Envelope}
    (h : continues (some tx) envelope = true) :
    { tx.event (tx.changes.length + 1) envelope.payload with format := envelope.format } =
      envelope := by
  obtain ⟨format, source, ⟨id, sequence, beginCursor, commitCursor⟩, payload⟩ := envelope
  simp only [continues, Bool.and_eq_true, beq_iff_eq] at h
  obtain ⟨⟨⟨⟨hsource, hid⟩, hbegin⟩, hcommit⟩, hsequence⟩ := h
  simp only [ChangeTransaction.event, hsource, hid, hbegin, hcommit, hsequence]

/-- What a line does to the pending transaction: it opens one, adds a row to it or closes it. -/
theorem acceptLine_ok {frame frame' : OpenFrame} {lines : List (List UInt8)} {line : List UInt8}
    {out : Option (ValidatedTransaction library)} (hline : IsLine line)
    (hopened : Opened codec lines frame.pending)
    (h : acceptLine library codec frame line = .ok (frame', out)) :
    (out = none ∧ Opened codec (lines ++ [line]) frame'.pending) ∨
      ∃ validated, out = some validated ∧ IsFrame codec (lines ++ [line]) validated ∧
        frame'.pending = none := by
  simp only [acceptLine, bind_eq_ok, pure_eq] at h
  obtain ⟨envelope, hslice, _, hformat, _, hcontinues, h⟩ := h
  rw [ensure_eq_ok] at hformat hcontinues
  obtain ⟨pending, bytes⟩ := frame
  cases hpayload : envelope.payload with
  | transactionBegin =>
    simp only [hpayload, bind_eq_ok, ensure_eq_ok, Bool.and_eq_true, beq_iff_eq,
      Except.ok.injEq, Prod.mk.injEq] at h
    obtain ⟨_, ⟨hnone, hsequence⟩, rfl, rfl⟩ := h
    rw [Option.isNone_iff_eq_none.mp hnone, Opened] at hopened
    refine .inl ⟨rfl, ?_⟩
    subst hopened
    refine List.Forall₂.cons ⟨hline, envelope.format, ?_⟩ List.Forall₂.nil
    have henvelope : { ChangeTransaction.event ⟨envelope.source, envelope.transaction.id,
        envelope.transaction.beginCursor, envelope.transaction.commitCursor, []⟩ 0
          .transactionBegin with format := envelope.format } = envelope := by
      obtain ⟨format, source, ⟨id, sequence, beginCursor, commitCursor⟩, payload⟩ := envelope
      subst hsequence
      subst hpayload
      rfl
    rw [henvelope]
    exact ⟨hformat, hslice⟩
  | rowChange change =>
    cases pending with
    | none => simp only [hpayload] at h; cases h
    | some tx =>
      simp only [hpayload, Except.ok.injEq, Prod.mk.injEq] at h
      obtain ⟨rfl, rfl⟩ := h
      refine .inl ⟨rfl, ?_⟩
      have henvelope := continues_some hcontinues
      rw [hpayload] at henvelope
      have hrows : ChangeTransaction.openEvents { tx with changes := tx.changes ++ [change] } =
          tx.openEvents ++ [tx.event (tx.changes.length + 1) (.rowChange change)] := by
        rw [ChangeTransaction.openEvents, ChangeTransaction.rowEvents_append, Nat.add_comm 1]
        rfl
      rw [Opened, hrows]
      refine List.rel_append hopened (List.Forall₂.cons ⟨hline, envelope.format, ?_⟩ .nil)
      rw [henvelope]
      exact ⟨hformat, hslice⟩
  | transactionCommit changeCount =>
    cases pending with
    | none => simp only [hpayload] at h; cases h
    | some tx =>
      simp only [hpayload, bind_eq_ok, ensure_eq_ok, beq_iff_eq, Except.ok.injEq,
        Prod.mk.injEq] at h
      obtain ⟨_, hcount, validated, hvalidated, rfl, rfl⟩ := h
      refine .inr ⟨validated, rfl, ?_, rfl⟩
      have henvelope := continues_some hcontinues
      rw [hpayload, ← hcount] at henvelope
      rw [IsFrame, validate_eq_ok hvalidated, ChangeTransaction.events_eq]
      refine List.rel_append hopened (List.Forall₂.cons ⟨hline, envelope.format, ?_⟩ .nil)
      rw [ChangeTransaction.commitEvent, henvelope]
      exact ⟨hformat, hslice⟩

/-- The bytes read so far are the frames returned, the lines pending and the line begun. -/
def Framed (codec : LineCodec) (bytes : List UInt8) (held : OpenFrame × List UInt8)
    (outs : List (ValidatedTransaction library)) : Prop :=
  ∃ frames lines, bytes = (frames.map List.flatten).flatten ++ (lines.flatten ++ held.2) ∧
    List.Forall₂ (IsFrame codec) frames outs ∧ Opened codec lines held.1.pending ∧
    newline ∉ held.2

/-- One byte keeps the bytes framed. -/
theorem Framed.feedByte {bytes : List UInt8} {held held' : OpenFrame × List UInt8}
    {outs : List (ValidatedTransaction library)} {b : UInt8}
    {out : Option (ValidatedTransaction library)} (hframed : Framed codec bytes held outs)
    (h : (frameMachine library codec).feedByte held b = .ok (held', out)) :
    Framed codec (bytes ++ [b]) held' (outs ++ out.toList) := by
  obtain ⟨frames, lines, rfl, hframes, hopened, hline⟩ := hframed
  obtain ⟨frame, line⟩ := held
  unfold Machine.feedByte at h
  split at h
  next => cases h
  next =>
    split at h
    next hb =>
      subst hb
      split at h
      next frame' out' haccept =>
        obtain ⟨rfl, rfl⟩ := Prod.mk.inj (Except.ok.inj h)
        rcases acceptLine_ok ⟨line, hline, rfl⟩ hopened haccept with
          ⟨rfl, hopened'⟩ | ⟨validated, rfl, hframe, hnone⟩
        · refine ⟨frames, lines ++ [line ++ [newline]], ?_, ?_, hopened', List.not_mem_nil⟩
          · simp
          · simpa using hframes
        · refine ⟨frames ++ [lines ++ [line ++ [newline]]], [], ?_, ?_, ?_, List.not_mem_nil⟩
          · simp
          · exact List.rel_append hframes (List.Forall₂.cons hframe .nil)
          · rw [hnone]
            rfl
      next => cases h
    next hb =>
      obtain ⟨rfl, rfl⟩ := Prod.mk.inj (Except.ok.inj h)
      refine ⟨frames, lines, by simp, by simpa using hframes, hopened, ?_⟩
      rw [List.mem_append, List.mem_singleton, not_or]
      exact ⟨hline, Ne.symm hb⟩

theorem Framed.feed {bytes rest : List UInt8} {held held' : OpenFrame × List UInt8}
    {outs outs' : List (ValidatedTransaction library)} (hframed : Framed codec bytes held outs)
    (h : (frameMachine library codec).feed held rest = .ok (held', outs')) :
    Framed codec (bytes ++ rest) held' (outs ++ outs') := by
  induction rest generalizing bytes held outs outs' with
  | nil =>
    obtain ⟨rfl, rfl⟩ := Prod.mk.inj (Except.ok.inj h)
    simpa using hframed
  | cons b rest ih =>
    simp only [Machine.feed, bind_eq_ok, pure_eq, Except.ok.injEq, Prod.mk.injEq] at h
    obtain ⟨⟨mid, out⟩, hbyte, ⟨last, outs''⟩, hrest, rfl, rfl⟩ := h
    have hnext := ih (hframed.feedByte hbyte) hrest
    rwa [List.append_assoc, List.append_assoc] at hnext

/-! ## From transactions to lines -/

theorem emit_faithful {event : Envelope} {line : List UInt8} (hfaithful : codec.Faithful event)
    (h : emit codec event = .ok line) : IsLine line ∧ codec.fromSlice line = .ok event := by
  obtain ⟨text, htext, hno, hslice⟩ := hfaithful
  rw [emit, htext] at h
  cases h
  exact ⟨⟨text, hno, rfl⟩, hslice⟩

theorem emit_exists {event : Envelope} (hfaithful : codec.Faithful event) :
    ∃ line, emit codec event = .ok line := by
  obtain ⟨text, htext, -, -⟩ := hfaithful
  refine ⟨text ++ [newline], ?_⟩
  rw [emit, htext]
  rfl

theorem supportedFormat_event (tx : ChangeTransaction) (sequence : ℕ) (payload : Payload) :
    supportedFormat (tx.event sequence payload) = true :=
  if_pos (.inl rfl)

theorem continues_event (tx : ChangeTransaction) (payload : Payload) :
    continues (some tx) (tx.event (tx.changes.length + 1) payload) = true := by
  simp [continues, ChangeTransaction.event]

theorem validate_transaction (validated : ValidatedTransaction library) :
    validate library validated.transaction = .ok validated := by
  unfold validate
  split
  next => rfl
  next e h =>
    rw [validated.valid] at h
    cases h

theorem acceptLine_begin {tx : ChangeTransaction} {line : List UInt8}
    (h : codec.fromSlice line = .ok (tx.event 0 .transactionBegin)) :
    acceptLine library codec ⟨none, 0⟩ line =
      .ok (⟨some { tx with changes := [] }, line.length⟩, none) := by
  rw [acceptLine, h, ok_bind, ensure, if_pos (supportedFormat_event tx _ _), Nat.zero_add]
  rfl

theorem acceptLine_row {tx : ChangeTransaction} {change : RowChange} {bytes : ℕ}
    {line : List UInt8}
    (h : codec.fromSlice line = .ok (tx.event (tx.changes.length + 1) (.rowChange change))) :
    acceptLine library codec ⟨some tx, bytes⟩ line =
      .ok (⟨some { tx with changes := tx.changes ++ [change] }, bytes + line.length⟩, none) := by
  rw [acceptLine, h, ok_bind, ensure, if_pos (supportedFormat_event tx _ _), ok_bind, ensure,
    if_pos (continues_event tx _)]
  rfl

theorem acceptLine_commit {validated : ValidatedTransaction library} {bytes : ℕ}
    {line : List UInt8}
    (h : codec.fromSlice line = .ok validated.transaction.commitEvent) :
    acceptLine library codec ⟨some validated.transaction, bytes⟩ line =
      .ok (⟨none, 0⟩, some validated) := by
  rw [acceptLine, h, ok_bind, ChangeTransaction.commitEvent, ensure,
    if_pos (supportedFormat_event _ _ _), ok_bind, ensure, if_pos (continues_event _ _)]
  simp only [ok_bind, ChangeTransaction.event, ensure, beq_self_eq_true, if_true,
    validate_transaction, pure_eq]

/-- The rows of a transaction are added one after another. -/
theorem feed_rows {tx : ChangeTransaction} {changes : List RowChange} {bytes : ℕ}
    {lines : List (List UInt8)}
    (hlines : List.Forall₂ (fun event line => IsLine line ∧ codec.fromSlice line = .ok event)
      (tx.rowEvents (tx.changes.length + 1) changes) lines)
    (hroom : bytes + lines.flatten.length ≤ MAX_BYTES) :
    (frameMachine library codec).feed (⟨some tx, bytes⟩, []) lines.flatten =
      .ok ((⟨some { tx with changes := tx.changes ++ changes },
        bytes + lines.flatten.length⟩, []), []) := by
  induction changes generalizing tx bytes lines with
  | nil =>
    cases hlines
    rw [List.append_nil]
    rfl
  | cons change changes ih =>
    rw [ChangeTransaction.rowEvents_cons] at hlines
    obtain ⟨line, rest, ⟨hline, hslice⟩, hrest, rfl⟩ := List.forall₂_cons_left_iff.mp hlines
    rw [List.flatten_cons, List.length_append] at hroom
    have hlength : (tx.changes ++ [change]).length = tx.changes.length + 1 := List.length_append
    have hrows : List.Forall₂ (fun event line => IsLine line ∧ codec.fromSlice line = .ok event)
        (ChangeTransaction.rowEvents { tx with changes := tx.changes ++ [change] }
          ((tx.changes ++ [change]).length + 1) changes) rest := by
      rw [hlength]
      exact hrest
    have hnext := ih hrows (show bytes + line.length + rest.flatten.length ≤ MAX_BYTES by omega)
    have hfirst : (frameMachine library codec).feed (⟨some tx, bytes⟩, []) line =
        .ok ((⟨some { tx with changes := tx.changes ++ [change] }, bytes + line.length⟩, []), []) :=
      Machine.feed_accepted _ hline (show bytes + line.length ≤ MAX_BYTES by omega)
        (acceptLine_row hslice) rfl
    rw [List.flatten_cons, Machine.feed_append_of_ok _ hfirst, hnext, List.append_assoc,
      List.length_append, Nat.add_assoc]
    rfl

/-- What `json` wrote for a transaction is read as that transaction. -/
theorem feed_json {validated : ValidatedTransaction library} {text : List UInt8}
    (hfaithful : ∀ event ∈ validated.transaction.events, codec.Faithful event)
    (htext : json codec validated = .ok text) (hroom : text.length ≤ MAX_BYTES) :
    (frameMachine library codec).feed (⟨none, 0⟩, []) text =
      .ok ((⟨none, 0⟩, []), [validated]) := by
  simp only [json, bind_eq_ok, pure_eq, Except.ok.injEq] at htext
  obtain ⟨lines, hlines, rfl⟩ := htext
  have hread : List.Forall₂ (fun event line => IsLine line ∧ codec.fromSlice line = .ok event)
      validated.transaction.events lines := by
    have hemit := mapM_eq_ok hlines
    rw [List.forall₂_iff_get] at hemit ⊢
    refine ⟨hemit.1, fun i hi hi' => emit_faithful (hfaithful _ (List.get_mem _ _)) ?_⟩
    exact hemit.2 i hi hi'
  rw [ChangeTransaction.events_eq, ChangeTransaction.openEvents, List.cons_append] at hread
  obtain ⟨begun, others, ⟨hbegun, hbeginSlice⟩, hothers, rfl⟩ := List.forall₂_cons_left_iff.mp hread
  obtain ⟨rows, last, hrows, hlast, rfl⟩ := forall₂_append_left hothers
  obtain ⟨line, after, ⟨hline, hslice⟩, hnil, rfl⟩ := List.forall₂_cons_left_iff.mp hlast
  cases hnil
  simp only [List.flatten_cons, List.flatten_append, List.flatten_nil, List.append_nil,
    List.length_append] at hroom ⊢
  have hfirst : (frameMachine library codec).feed (⟨none, 0⟩, []) begun =
      .ok ((⟨some { validated.transaction with changes := [] }, begun.length⟩, []), []) :=
    Machine.feed_accepted _ hbegun (show 0 + begun.length ≤ MAX_BYTES by omega)
      (acceptLine_begin hbeginSlice) rfl
  have hmiddle : (frameMachine library codec).feed
      (⟨some { validated.transaction with changes := [] }, begun.length⟩, []) rows.flatten =
      .ok ((⟨some validated.transaction, begun.length + rows.flatten.length⟩, []), []) :=
    feed_rows hrows (by omega)
  have hcommit : (frameMachine library codec).feed
      (⟨some validated.transaction, begun.length + rows.flatten.length⟩, []) line =
      .ok ((⟨none, 0⟩, []), [validated]) :=
    Machine.feed_accepted _ hline
      (show begun.length + rows.flatten.length + line.length ≤ MAX_BYTES by omega)
      (acceptLine_commit hslice) rfl
  rw [Machine.feed_append_of_ok _ hfirst, Machine.feed_append_of_ok _ hmiddle, hcommit]
  rfl

/-- What `json` wrote for a list of transactions is read as that list. -/
theorem feed_texts {txs : List (ValidatedTransaction library)} {texts : List (List UInt8)}
    (hfaithful : ∀ tx ∈ txs, ∀ event ∈ tx.transaction.events, codec.Faithful event)
    (htexts : txs.mapM (json codec) = .ok texts)
    (hroom : ∀ text ∈ texts, text.length ≤ MAX_BYTES) :
    (frameMachine library codec).feed (⟨none, 0⟩, []) texts.flatten =
      .ok ((⟨none, 0⟩, []), txs) := by
  have hjson := mapM_eq_ok htexts
  clear htexts
  induction hjson with
  | nil => rfl
  | @cons tx text txs texts htext _ ih =>
    have hfirst := feed_json (hfaithful tx List.mem_cons_self) htext
      (hroom text List.mem_cons_self)
    have hrest := ih (fun tx htx => hfaithful tx (List.mem_cons_of_mem _ htx))
      (fun text htext => hroom text (List.mem_cons_of_mem _ htext))
    rw [List.flatten_cons, Machine.feed_append_of_ok _ hfirst, hrest]
    rfl

/-- Transactions whose events survive one line each are written. -/
theorem json_exists {tx : ValidatedTransaction library}
    (hfaithful : ∀ event ∈ tx.transaction.events, codec.Faithful event) :
    ∃ text, json codec tx = .ok text := by
  obtain ⟨lines, hlines⟩ := mapM_exists fun event hevent => emit_exists (hfaithful event hevent)
  refine ⟨lines.flatten, ?_⟩
  rw [json, hlines]
  rfl

end Framing

/-! ## Round trip and frames -/

section RoundTrip

variable {library : ValidationLibrary}

/-- However the output of `json` is cut into reads, with temporary ends of input among them, the
calls that read all of it return exactly the transactions written. -/
def ReadBack (codec : LineCodec) (txs : List (ValidatedTransaction library))
    (texts : List (List UInt8)) : Prop :=
  ∀ chunks : List (List UInt8), chunks.flatten = texts.flatten →
    ∀ n, chunks.length + txs.length < n →
      (∀ result ∈ ((JsonReader.new ⟨[], chunks.map .ok⟩).calls library codec n).1,
        result.isOk = true) ∧
      returned ((JsonReader.new ⟨[], chunks.map .ok⟩).calls library codec n).1 = txs ∧
      ((JsonReader.new ⟨[], chunks.map .ok⟩).calls library codec n).2.finish = .ok ()

theorem readBack {codec : LineCodec} {txs : List (ValidatedTransaction library)}
    {texts : List (List UInt8)}
    (hfaithful : ∀ tx ∈ txs, ∀ event ∈ tx.transaction.events, codec.Faithful event)
    (htexts : txs.mapM (json codec) = .ok texts)
    (hroom : ∀ text ∈ texts, text.length ≤ MAX_BYTES) : ReadBack codec txs texts := by
  intro chunks hchunks n hn
  have hbytes : (JsonReader.new ⟨[], chunks.map .ok⟩).reader.bytes = texts.flatten := by
    have hread : (chunks.map (Except.ok (ε := String))).map readBytes = chunks := by
      rw [List.map_map]
      exact List.map_id chunks
    rw [JsonReader.new, BufRead.bytes, List.nil_append, hread, hchunks]
  have hfeed := feed_texts hfaithful htexts hroom
  rw [← hbytes] at hfeed
  obtain ⟨hall, hreturned, hheld, hfailed⟩ := JsonReader.calls_complete
    (r := JsonReader.new ⟨[], chunks.map .ok⟩) n rfl (by
      rintro e he
      obtain ⟨chunk, -, hchunk⟩ := List.mem_map.mp he
      cases hchunk) hfeed (by
      simpa only [JsonReader.new, List.length_map] using hn)
  refine ⟨hall, hreturned, ?_⟩
  obtain ⟨hframe, hline⟩ := Prod.mk.inj hheld
  rw [JsonReader.finish, hfailed, hframe, hline]
  rfl

/-- On any input each transaction returned comes from its own contiguous lines. -/
theorem returned_framed (codec : LineCodec) (reads : List (Except String (List UInt8))) (n : ℕ) :
    ∃ frames rest, (reads.map readBytes).flatten = (frames.map List.flatten).flatten ++ rest ∧
      List.Forall₂ (IsFrame codec) frames
        (returned ((JsonReader.new ⟨[], reads⟩).calls library codec n).1) := by
  obtain ⟨r, -, -, taken, htaken, hfeed⟩ := JsonReader.calls_reads library codec n
    (r := JsonReader.new ⟨[], reads⟩) rfl
  have hnew : Framed codec [] (⟨none, 0⟩, []) ([] : List (ValidatedTransaction library)) :=
    ⟨[], [], rfl, List.Forall₂.nil, rfl, List.not_mem_nil⟩
  obtain ⟨frames, lines, hbytes, hframes, -⟩ := hnew.feed hfeed
  rw [List.nil_append] at hbytes hframes
  refine ⟨frames, lines.flatten ++ r.held.2 ++ r.reader.bytes, ?_, hframes⟩
  rw [← List.append_assoc, ← hbytes, htaken]
  rfl

/-- What is written is read, what is read was framed, and an error is the end. -/
theorem json_framing (library : ValidationLibrary) (codec : LineCodec) :
    (∀ txs : List (ValidatedTransaction library),
      (∀ tx ∈ txs, ∀ event ∈ tx.transaction.events, codec.Faithful event) →
      ∃ texts, txs.mapM (json codec) = .ok texts ∧
        ((∀ text ∈ texts, text.length ≤ MAX_BYTES) → ReadBack codec txs texts)) ∧
    ∀ (reads : List (Except String (List UInt8))) (n : ℕ),
      (∃ frames rest, (reads.map readBytes).flatten = (frames.map List.flatten).flatten ++ rest ∧
        List.Forall₂ (IsFrame codec) frames
          (returned ((JsonReader.new ⟨[], reads⟩).calls library codec n).1)) ∧
      ((JsonReader.new ⟨[], reads⟩).calls library codec n).1.Pairwise
        (fun result later => result.isOk = false → later.isOk = false) ∧
      ((∃ result ∈ ((JsonReader.new ⟨[], reads⟩).calls library codec n).1, result.isOk = false) →
        ((JsonReader.new ⟨[], reads⟩).calls library codec n).2.finish.isOk = false) := by
  constructor
  · intro txs hfaithful
    obtain ⟨texts, htexts⟩ := mapM_exists fun tx htx => json_exists (hfaithful tx htx)
    exact ⟨texts, htexts, readBack hfaithful htexts⟩
  · intro reads n
    exact ⟨returned_framed codec reads n, JsonReader.calls_sticky n _⟩

end RoundTrip

section Sample

def noteCursor : SourceCursor := ⟨"mysql", "4", "4"⟩

def noteChange : RowChange where
  database := none
  operation := .insert
  schema := "shop"
  table := "notes"
  sourceCursor := noteCursor
  sourceTimestamp := 0
  schemaBasis := "catalog"
  before := none
  after := some [⟨0, "note", "text", none, false, none, .null⟩]

/-- One row inserted into a table of one column without a key. -/
def noteInsert : ChangeTransaction :=
  ⟨⟨"mysql", "8.0", "server"⟩, "7", noteCursor, noteCursor, [noteChange]⟩

def noteValidation : ValidationLibrary := ⟨fun _ => "", id⟩

def noteInserted : ValidatedTransaction noteValidation := ⟨noteInsert, by decide +kernel⟩

/-- The bytes of an ASCII text. -/
def ascii (text : String) : List UInt8 := text.toList.map fun c => c.toNat.toUInt8

/-- A literal is the text of its characters, so this lemma rewrites literals. -/
theorem ascii_ofList (text : List Char) :
    ascii (String.ofList text) = text.map fun c => c.toNat.toUInt8 := by
  rw [ascii, String.toList_ofList]

def noteCursorText : List UInt8 :=
  ascii "\x7b\"format\":\"mysql\",\"value\":\"4\",\"display\":\"4\"\x7d"

/-- The text of an event of the sample up to its payload. -/
def noteHead (sequence : String) : List UInt8 :=
  ascii "\x7b\"format\":\"cdc.change-event-json.v0.3\"," ++
    ascii "\"source\":\x7b\"kind\":\"mysql\",\"version\":\"8.0\",\"id\":\"server\"\x7d," ++
    ascii "\"transaction\":\x7b\"id\":\"7\",\"sequence\":" ++ ascii sequence ++
    ascii ",\"begin_cursor\":" ++ noteCursorText ++ ascii ",\"commit_cursor\":" ++
    noteCursorText ++ ascii "\x7d,\"payload\":"

def noteBeginText : List UInt8 :=
  noteHead "0" ++ ascii "\x7b\"type\":\"transaction_begin\"\x7d\x7d"

def noteRowText : List UInt8 :=
  noteHead "1" ++ ascii "\x7b\"type\":\"row_change\",\"operation\":\"insert\"," ++
    ascii "\"schema\":\"shop\",\"table\":\"notes\",\"source_cursor\":" ++ noteCursorText ++
    ascii ",\"source_timestamp\":0,\"schema_basis\":\"catalog\",\"after\":[\x7b\"ordinal\":0," ++
    ascii "\"name\":\"note\",\"native_type\":\"text\",\"primary_key_ordinal\":null," ++
    ascii "\"generated\":false,\"collation\":null,\"presence\":\"null\"\x7d]\x7d\x7d"

def noteCommitText : List UInt8 :=
  noteHead "2" ++ ascii "\x7b\"type\":\"transaction_commit\",\"change_count\":1\x7d\x7d"

theorem noteTexts_ne : noteRowText ++ [newline] ≠ noteBeginText ++ [newline] ∧
    noteCommitText ++ [newline] ≠ noteBeginText ++ [newline] ∧
    noteCommitText ++ [newline] ≠ noteRowText ++ [newline] := by
  unfold noteBeginText noteRowText noteCommitText noteHead noteCursorText
  repeat rw [ascii_ofList]
  decide +kernel

theorem newline_notMem_noteTexts : newline ∉ noteBeginText ∧ newline ∉ noteRowText ∧
    newline ∉ noteCommitText := by
  unfold noteBeginText noteRowText noteCommitText noteHead noteCursorText
  repeat rw [ascii_ofList]
  decide +kernel

theorem length_noteTexts : ((noteBeginText ++ [newline]) ++ ((noteRowText ++ [newline]) ++
    ((noteCommitText ++ [newline]) ++ []))).length ≤ MAX_BYTES := by
  unfold noteBeginText noteRowText noteCommitText noteHead noteCursorText
  repeat rw [ascii_ofList]
  decide +kernel

/-- The lines of the sample as `serde_json` writes and reads them. -/
def noteCodec : LineCodec where
  toWriter envelope := .ok <| match envelope.payload with
    | .transactionBegin => noteBeginText
    | .rowChange _ => noteRowText
    | .transactionCommit _ => noteCommitText
  fromSlice line :=
    if line = noteBeginText ++ [newline] then .ok (noteInsert.event 0 .transactionBegin)
    else if line = noteRowText ++ [newline] then
      .ok (noteInsert.event 1 (.rowChange noteChange))
    else if line = noteCommitText ++ [newline] then
      .ok (noteInsert.event 2 (.transactionCommit 1))
    else .error "expected value at line 1 column 1"

theorem noteCodec_fromSlice (line : List UInt8) : noteCodec.fromSlice line =
    if line = noteBeginText ++ [newline] then .ok (noteInsert.event 0 .transactionBegin)
    else if line = noteRowText ++ [newline] then
      .ok (noteInsert.event 1 (.rowChange noteChange))
    else if line = noteCommitText ++ [newline] then
      .ok (noteInsert.event 2 (.transactionCommit 1))
    else .error "expected value at line 1 column 1" := rfl

theorem noteCodec_faithful {event : Envelope} (h : event ∈ noteInsert.events) :
    noteCodec.Faithful event := by
  have hevents : noteInsert.events = [noteInsert.event 0 .transactionBegin,
      noteInsert.event 1 (.rowChange noteChange),
      noteInsert.event 2 (.transactionCommit 1)] := rfl
  obtain ⟨hrow, hcommit, hcommitRow⟩ := noteTexts_ne
  obtain ⟨hbeginLine, hrowLine, hcommitLine⟩ := newline_notMem_noteTexts
  simp only [hevents, List.mem_cons, List.not_mem_nil, or_false] at h
  rcases h with rfl | rfl | rfl
  · refine ⟨noteBeginText, rfl, hbeginLine, ?_⟩
    rw [noteCodec_fromSlice, if_pos rfl]
  · refine ⟨noteRowText, rfl, hrowLine, ?_⟩
    rw [noteCodec_fromSlice, if_neg hrow, if_pos rfl]
  · refine ⟨noteCommitText, rfl, hcommitLine, ?_⟩
    rw [noteCodec_fromSlice, if_neg hcommit, if_neg hcommitRow, if_pos rfl]

/-- The sample in two reads with a temporary end of input in the middle of its first line. -/
theorem json_framing_sample : ∃ text, [noteInserted].mapM (json noteCodec) = .ok [text] ∧
    returned ((JsonReader.new ⟨[], [.ok (text.take 40), .ok [], .ok (text.drop 40)]⟩).calls
      noteValidation noteCodec 5).1 = [noteInserted] := by
  obtain ⟨texts, htexts, hread⟩ := (json_framing noteValidation noteCodec).1 [noteInserted]
    (by
      rintro tx htx event hevent
      rw [List.mem_singleton.mp htx] at hevent
      exact noteCodec_faithful hevent)
  have htext : [noteInserted].mapM (json noteCodec) = .ok [(noteBeginText ++ [newline]) ++
      ((noteRowText ++ [newline]) ++ ((noteCommitText ++ [newline]) ++ []))] := rfl
  cases htexts.symm.trans htext
  refine ⟨_, htexts, ?_⟩
  have hroom := length_noteTexts
  generalize (noteBeginText ++ [newline]) ++ ((noteRowText ++ [newline]) ++
    ((noteCommitText ++ [newline]) ++ [])) = text at hread hroom
  exact (hread (by simpa using hroom) [text.take 40, [], text.drop 40] (by simp) 5
    (by simp)).2.1

end Sample

end DatabaseSync.ChangeEvent
