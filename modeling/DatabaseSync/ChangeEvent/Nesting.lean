import DatabaseSync.ChangeEvent.Framing
import DatabaseSync.ChangeEvent.Wire

/-! # Nesting on the wire

The reader's JSON parser refuses containers nested too deep, which the levels of a validated value
can reach. A transaction survives the wire exactly if none of its values takes too many of them.
-/

namespace DatabaseSync.ChangeEvent

open Checked Lines JsonText

/-- `remaining_depth` of a `serde_json` parser: the container that exhausts it is refused. -/
def RECURSION_LIMIT : ℕ := 128

/-- The text that `serde_json::to_writer` makes of a line. -/
def Envelope.line (envelope : Envelope) : List UInt8 := utf8 envelope.toJson.render

/-- Lines as they are written, with the parser as a parameter. -/
def serdeJson (fromSlice : List UInt8 → Except String Envelope) : LineCodec :=
  ⟨fun envelope => .ok envelope.line, fromSlice⟩

/-- The parser reads the line of the envelope back unless its containers nest too deep. -/
structure ReadsLimited (fromSlice : List UInt8 → Except String Envelope) (envelope : Envelope) :
    Prop where
  reads : envelope.toJson.depth < RECURSION_LIMIT →
    fromSlice (envelope.line ++ [newline]) = .ok envelope
  refuses : RECURSION_LIMIT ≤ envelope.toJson.depth →
    ∃ e, fromSlice (envelope.line ++ [newline]) = .error e

theorem newline_not_mem_line (envelope : Envelope) : newline ∉ envelope.line :=
  newline_not_mem_utf8 (newline_not_mem_render envelope.toJson)

/-! ## Values and their lines -/

/-- A column is four containers inside the line, and its value is next. -/
theorem ColumnDatum.depth_toJson_le {column : ColumnDatum} {n : ℕ} (hn : 4 ≤ n) :
    column.toJson.depth ≤ n ↔ ∀ value, column.value? = some value → 1 + value.containers ≤ n := by
  have hcolumn : column.toJson.depth = 1 + depthEntries column.datum.fields := by
    simp only [ColumnDatum.toJson, depth_object, depthEntries_append, depthEntries_cons,
      depthEntries_nil, depth_number, depth_string, depth_bool, depth_nullable,
      depth_leaf depth_natural, depth_leaf depth_string, Nat.zero_max, Nat.max_self]
  rw [hcolumn, ColumnDatum.value?]
  cases column.datum with
  | value v =>
    simp [Datum.fields, v.depth_toJson]
  | sourceRepresentationEnvelope envelope =>
    simp [Datum.fields]
    omega
  | _ =>
    simp [Datum.fields]
    omega

theorem imageToJson_depth_le {image : List ColumnDatum} {n : ℕ} :
    (imageToJson image).depth ≤ n + 1 ↔ ∀ column ∈ image, column.toJson.depth ≤ n := by
  rw [imageToJson, depth_array, Nat.add_comm, Nat.add_le_add_iff_right, depthItems_le_iff]
  simp only [List.mem_map, forall_exists_index, and_imp, forall_apply_eq_imp_iff₂]

theorem optionalImage_depth_le {image : Option (List ColumnDatum)} {n : ℕ} :
    ((image.map imageToJson).map Json.depth).getD 0 ≤ n + 1 ↔
      ∀ column ∈ image.getD [], column.toJson.depth ≤ n := by
  cases image with
  | none => simp
  | some image => exact imageToJson_depth_le

/-- The line of a row change has room for values of 123 containers. -/
theorem rowChange_depth_lt {tx : ChangeTransaction} {sequence : ℕ} {change : RowChange} :
    (tx.event sequence (.rowChange change)).toJson.depth < RECURSION_LIMIT ↔
      ∀ value ∈ change.values, value.containers ≤ 123 := by
  have hdepth : (tx.event sequence (.rowChange change)).toJson.depth =
      1 + max 2 (1 + max 1 (max (((change.before.map imageToJson).map Json.depth).getD 0)
        (((change.after.map imageToJson).map Json.depth).getD 0))) := by
    simp only [Envelope.toJson, ChangeTransaction.event, Payload.toJson, RowChange.fields,
      depth_object, depth_tagged, depthEntries_append, depthEntries_skipNone, depthEntries_cons,
      depthEntries_nil, depth_number, depth_string, depth_leaf depth_string,
      SourceCursor.depth_toJson, Source.depth_toJson, TransactionHeader.depth_toJson]
    omega
  have hcolumns : (tx.event sequence (.rowChange change)).toJson.depth < RECURSION_LIMIT ↔
      ∀ column ∈ change.columns, column.toJson.depth ≤ 124 := by
    have hbefore := @optionalImage_depth_le change.before 124
    have hafter := @optionalImage_depth_le change.after 124
    rw [hdepth, RECURSION_LIMIT, RowChange.columns, List.forall_mem_append, ← hbefore, ← hafter]
    omega
  rw [hcolumns]
  simp only [RowChange.values, List.mem_filterMap, forall_exists_index, and_imp]
  constructor
  · rintro h value column hcolumn hvalue
    have hle := (ColumnDatum.depth_toJson_le (by omega)).mp (h column hcolumn) value hvalue
    omega
  · rintro h column hcolumn
    rw [ColumnDatum.depth_toJson_le (by omega)]
    intro value hvalue
    have hle := h value column hcolumn hvalue
    omega

theorem rowEvents_depth_lt {tx : ChangeTransaction} {sequence : ℕ} {changes : List RowChange} :
    (∀ event ∈ tx.rowEvents sequence changes, event.toJson.depth < RECURSION_LIMIT) ↔
      ∀ change ∈ changes, ∀ value ∈ change.values, value.containers ≤ 123 := by
  induction changes generalizing sequence with
  | nil => simp
  | cons change changes ih =>
    rw [ChangeTransaction.rowEvents_cons, List.forall_mem_cons, List.forall_mem_cons, ih,
      rowChange_depth_lt]

/-- Begin and commit are shallow, so the values alone decide. -/
theorem events_depth_lt {tx : ChangeTransaction} :
    (∀ event ∈ tx.events, event.toJson.depth < RECURSION_LIMIT) ↔
      ∀ value ∈ tx.values, value.containers ≤ 123 := by
  have hbegin : (tx.event 0 .transactionBegin).toJson.depth < RECURSION_LIMIT :=
    (by decide : 3 < RECURSION_LIMIT)
  have hcommit : tx.commitEvent.toJson.depth < RECURSION_LIMIT :=
    (by decide : 3 < RECURSION_LIMIT)
  have hvalues : (∀ value ∈ tx.values, value.containers ≤ 123) ↔
      ∀ change ∈ tx.changes, ∀ value ∈ change.values, value.containers ≤ 123 := by
    rw [ChangeTransaction.values, List.forall_mem_flatMap]
  rw [ChangeTransaction.events_eq, ChangeTransaction.openEvents, List.forall_mem_append,
    List.forall_mem_cons, List.forall_mem_singleton, rowEvents_depth_lt, hvalues]
  constructor
  · rintro ⟨⟨-, hrows⟩, -⟩
    exact hrows
  · intro hrows
    exact ⟨⟨hbegin, hrows⟩, hcommit⟩

/-! ## Reading the lines -/

section Reading

variable {library : ValidationLibrary} {codec : LineCodec}

/-- The line is read as the event or refused. -/
def Read (codec : LineCodec) (event : Envelope) (line : List UInt8) : Prop :=
  IsLine line ∧ (codec.fromSlice line = .ok event ∨ ∃ e, codec.fromSlice line = .error e)

/-- A line that is accepted was read. -/
theorem Read.of_accept {event : Envelope} {line : List UInt8} {frame frame' : OpenFrame}
    {out : Option (ValidatedTransaction library)} (h : Read codec event line)
    (haccept : acceptLine library codec frame line = .ok (frame', out)) :
    codec.fromSlice line = .ok event := by
  rcases h.2 with hread | ⟨e, hread⟩
  · exact hread
  · rw [acceptLine, hread] at haccept
    cases haccept

/-- Rows that went through the machine were all read, and the rest goes through after them. -/
theorem rows_read {tx : ChangeTransaction} {changes : List RowChange} {bytes : ℕ}
    {lines : List (List UInt8)} {tail : List UInt8}
    {p : (OpenFrame × List UInt8) × List (ValidatedTransaction library)}
    (hlines : List.Forall₂ (Read codec) (tx.rowEvents (tx.changes.length + 1) changes) lines)
    (h : (frameMachine library codec).feed (⟨some tx, bytes⟩, []) (lines.flatten ++ tail) = .ok p) :
    List.Forall₂ (fun event line => codec.fromSlice line = .ok event)
        (tx.rowEvents (tx.changes.length + 1) changes) lines ∧
      ∃ p', (frameMachine library codec).feed (⟨some { tx with changes := tx.changes ++ changes },
        bytes + lines.flatten.length⟩, []) tail = .ok p' := by
  induction changes generalizing tx bytes lines p with
  | nil =>
    cases hlines
    refine ⟨List.Forall₂.nil, p, ?_⟩
    simpa using h
  | cons change changes ih =>
    rw [ChangeTransaction.rowEvents_cons] at hlines ⊢
    obtain ⟨line, rest, hread, hrest, rfl⟩ := List.forall₂_cons_left_iff.mp hlines
    rw [List.flatten_cons, List.append_assoc] at h
    obtain ⟨mid, hmid, last, hlast⟩ := Machine.feed_append_eq_ok _ h
    obtain ⟨-, frame', out, haccept, rfl⟩ := Machine.feed_line_eq_ok _ hread.1 hmid
    have hslice := hread.of_accept haccept
    have hrow := haccept.symm.trans (acceptLine_row hslice)
    obtain ⟨rfl, rfl⟩ := Prod.mk.inj (Except.ok.inj hrow)
    have hlength : (tx.changes ++ [change]).length = tx.changes.length + 1 := List.length_append
    have hrows : List.Forall₂ (Read codec)
        (ChangeTransaction.rowEvents { tx with changes := tx.changes ++ [change] }
          ((tx.changes ++ [change]).length + 1) changes) rest := by
      rw [hlength]
      exact hrest
    obtain ⟨hall, p', hp'⟩ := ih hrows hlast
    rw [hlength] at hall
    refine ⟨List.Forall₂.cons hslice hall, p', ?_⟩
    rw [List.flatten_cons, List.length_append, ← Nat.add_assoc]
    rw [List.append_assoc] at hp'
    exact hp'

/-- What went through the machine was within its limit and read line by line. -/
theorem text_read {tx : ValidatedTransaction library} {lines : List (List UInt8)}
    {p : (OpenFrame × List UInt8) × List (ValidatedTransaction library)}
    (hlines : List.Forall₂ (Read codec) tx.transaction.events lines)
    (h : (frameMachine library codec).feed (⟨none, 0⟩, []) lines.flatten = .ok p) :
    lines.flatten.length ≤ MAX_BYTES ∧
      List.Forall₂ (fun event line => codec.fromSlice line = .ok event)
        tx.transaction.events lines := by
  rw [ChangeTransaction.events_eq, ChangeTransaction.openEvents, List.cons_append] at hlines ⊢
  obtain ⟨begun, others, hbegun, hothers, rfl⟩ := List.forall₂_cons_left_iff.mp hlines
  obtain ⟨rows, last, hrows, hlast, rfl⟩ := forall₂_append_left hothers
  obtain ⟨line, after, hline, hnil, rfl⟩ := List.forall₂_cons_left_iff.mp hlast
  cases hnil
  rw [List.flatten_cons, List.flatten_append] at h ⊢
  obtain ⟨mid, hmid, next, hnext⟩ := Machine.feed_append_eq_ok _ h
  obtain ⟨-, frame', out, haccept, rfl⟩ := Machine.feed_line_eq_ok _ hbegun.1 hmid
  have hbeginSlice := hbegun.of_accept haccept
  have hbegin := haccept.symm.trans (acceptLine_begin hbeginSlice)
  obtain ⟨rfl, rfl⟩ := Prod.mk.inj (Except.ok.inj hbegin)
  obtain ⟨hrowSlices, p', hp'⟩ := @rows_read library codec
    { tx.transaction with changes := [] } _ _ _ _ _ hrows hnext
  rw [List.nil_append, List.flatten_cons, List.flatten_nil, List.append_nil] at hp'
  obtain ⟨hroom, frame', out, hcommit, -⟩ := Machine.feed_line_eq_ok _ hline.1 hp'
  constructor
  · have hfits : begun.length + rows.flatten.length + line.length ≤ MAX_BYTES := hroom
    simp only [List.length_append, List.flatten_cons, List.flatten_nil, List.append_nil]
    omega
  · refine List.Forall₂.cons hbeginSlice (List.rel_append hrowSlices ?_)
    exact List.Forall₂.cons (hline.of_accept hcommit) List.Forall₂.nil

/-- A text that is read back without an error went through the machine. -/
theorem ReadBack.feed_ok {txs : List (ValidatedTransaction library)} {text : List UInt8}
    (h : ReadBack codec txs [text]) :
    ∃ p, (frameMachine library codec).feed (⟨none, 0⟩, []) text = .ok p := by
  cases hfeed : (frameMachine library codec).feed (⟨none, 0⟩, []) text with
  | ok p => exact ⟨p, rfl⟩
  | error e =>
    have hbytes : (JsonReader.new ⟨[], [.ok text]⟩).reader.bytes = text := by
      simp [JsonReader.new, BufRead.bytes, readBytes]
    rw [← hbytes] at hfeed
    obtain ⟨n, result, hresult, herror⟩ := @JsonReader.calls_error library codec
      (JsonReader.new ⟨[], [.ok text]⟩) e rfl hfeed
    have hall := (h [text] rfl (n + txs.length + 2) (by
      rw [List.length_singleton]
      omega)).1
    have hmono := @JsonReader.calls_mono library codec n (n + txs.length + 2) (by omega)
      (JsonReader.new ⟨[], [.ok text]⟩)
    have hok := hall result (hmono.subset hresult)
    rw [herror] at hok
    cases hok

end Reading

/-! ## Survival -/

section Survival

variable {library : ValidationLibrary} {fromSlice : List UInt8 → Except String Envelope}

theorem json_serdeJson (tx : ValidatedTransaction library) :
    json (serdeJson fromSlice) tx =
      .ok (tx.transaction.events.map fun event => event.line ++ [newline]).flatten := by
  have hlines : tx.transaction.events.mapM (emit (serdeJson fromSlice)) =
      .ok (tx.transaction.events.map fun event => event.line ++ [newline]) := by
    apply mapM_ok_of_forall₂
    rw [List.forall₂_map_right_iff, List.forall₂_same]
    exact fun _ _ => rfl
  rw [json, hlines]
  rfl

theorem ReadBack.depth_lt {tx : ValidatedTransaction library} {text : List UInt8}
    (h : ReadBack (serdeJson fromSlice) [tx] [text])
    (hserde : ∀ event ∈ tx.transaction.events, ReadsLimited fromSlice event)
    (htext : json (serdeJson fromSlice) tx = .ok text) :
    text.length ≤ MAX_BYTES ∧
      ∀ event ∈ tx.transaction.events, event.toJson.depth < RECURSION_LIMIT := by
  have hlines : List.Forall₂ (Read (serdeJson fromSlice)) tx.transaction.events
      (tx.transaction.events.map fun event => event.line ++ [newline]) := by
    rw [List.forall₂_map_right_iff, List.forall₂_same]
    intro event hevent
    refine ⟨⟨event.line, newline_not_mem_line event, rfl⟩, ?_⟩
    rcases Nat.lt_or_ge event.toJson.depth RECURSION_LIMIT with hlt | hge
    · exact .inl ((hserde event hevent).reads hlt)
    · exact .inr ((hserde event hevent).refuses hge)
  have hjson := Except.ok.inj ((json_serdeJson tx).symm.trans htext)
  subst hjson
  obtain ⟨p, hfeed⟩ := h.feed_ok
  obtain ⟨hroom, hslices⟩ := text_read hlines hfeed
  refine ⟨hroom, ?_⟩
  intro event hevent
  by_contra hdeep
  obtain ⟨e, he⟩ := (hserde event hevent).refuses (Nat.le_of_not_lt hdeep)
  rw [List.forall₂_map_right_iff, List.forall₂_same] at hslices
  have hok : fromSlice (event.line ++ [newline]) = .ok event := hslices event hevent
  rw [hok] at he
  cases he

/-- A transaction survives the wire, however its text arrives, exactly if it fits the reader's
limit and no value of it takes more than 123 containers. -/
theorem readBack_iff_containers_le (tx : ValidatedTransaction library) {text : List UInt8}
    (hserde : ∀ event ∈ tx.transaction.events, ReadsLimited fromSlice event)
    (htext : json (serdeJson fromSlice) tx = .ok text) :
    ReadBack (serdeJson fromSlice) [tx] [text] ↔
      text.length ≤ MAX_BYTES ∧ ∀ value ∈ tx.transaction.values, value.containers ≤ 123 := by
  rw [← events_depth_lt]
  constructor
  · intro hread
    exact hread.depth_lt hserde htext
  · rintro ⟨hroom, hdepth⟩
    have hfaithful : ∀ other ∈ [tx], ∀ event ∈ other.transaction.events,
        (serdeJson fromSlice).Faithful event := by
      rintro other hother event hevent
      rw [List.mem_singleton.mp hother] at hevent
      exact ⟨event.line, rfl, newline_not_mem_line event,
        (hserde event hevent).reads (hdepth event hevent)⟩
    have htexts : [tx].mapM (json (serdeJson fromSlice)) = .ok [text] := by
      rw [List.mapM_cons, htext]
      rfl
    exact readBack hfaithful htexts (by simpa using hroom)

end Survival

section Sample

/-- Arrays of one element inside each other. -/
def nested : ℕ → LogicalValue
  | 0 => .null
  | n + 1 => .array [nested n]

theorem containers_nested (n : ℕ) : (nested n).containers = 2 * n + 1 := by
  induction n with
  | zero => rfl
  | succ n ih =>
    simp only [nested, LogicalValue.containers, LogicalValue.valueContainers, ih]
    omega

/-- The insertion of a row with a nested array. -/
def nestedChange (n : ℕ) : RowChange :=
  { noteChange with after := some [⟨0, "note", "int4[]", none, false, none, .value (nested n)⟩] }

def nestedInsert (n : ℕ) : ChangeTransaction := { noteInsert with changes := [nestedChange n] }

def nestedBegin (n : ℕ) : Envelope := (nestedInsert n).event 0 .transactionBegin
def nestedRow (n : ℕ) : Envelope := (nestedInsert n).event 1 (.rowChange (nestedChange n))
def nestedCommit (n : ℕ) : Envelope := (nestedInsert n).event 2 (.transactionCommit 1)

/-- `serde_json` on the lines of the sample. -/
def nestedSlice (n : ℕ) (line : List UInt8) : Except String Envelope :=
  if line = (nestedBegin n).line ++ [newline] then .ok (nestedBegin n)
  else if line = (nestedCommit n).line ++ [newline] then .ok (nestedCommit n)
  else if line = (nestedRow n).line ++ [newline] ∧ (nestedRow n).toJson.depth < RECURSION_LIMIT then
    .ok (nestedRow n)
  else .error "recursion limit exceeded"

theorem nestedSlice_limited {n : ℕ} (hcommit : (nestedCommit n).line ≠ (nestedBegin n).line)
    (hrowBegin : (nestedRow n).line ≠ (nestedBegin n).line)
    (hrowCommit : (nestedRow n).line ≠ (nestedCommit n).line) :
    ∀ event ∈ (nestedInsert n).events, ReadsLimited (nestedSlice n) event := by
  intro event hevent
  have hevents : (nestedInsert n).events = [nestedBegin n, nestedRow n, nestedCommit n] := rfl
  have hline : ∀ {a b : List UInt8}, a ≠ b → ¬ a ++ [newline] = b ++ [newline] :=
    fun h heq => h (List.append_cancel_right heq)
  rw [hevents] at hevent
  simp only [List.mem_cons, List.not_mem_nil, or_false] at hevent
  rcases hevent with rfl | rfl | rfl
  · constructor
    · intro _
      exact if_pos rfl
    · intro hdeep
      exact absurd hdeep (by decide : ¬ RECURSION_LIMIT ≤ 3)
  · constructor
    · intro hdepth
      rw [nestedSlice, if_neg (hline hrowBegin), if_neg (hline hrowCommit), if_pos ⟨rfl, hdepth⟩]
    · intro hdeep
      refine ⟨"recursion limit exceeded", ?_⟩
      rw [nestedSlice, if_neg (hline hrowBegin), if_neg (hline hrowCommit),
        if_neg fun h => absurd h.2 (Nat.not_lt.mpr hdeep)]
  · constructor
    · intro _
      rw [nestedSlice, if_neg (hline hcommit), if_pos rfl]
    · intro hdeep
      exact absurd hdeep (by decide : ¬ RECURSION_LIMIT ≤ 3)

/-- Arrays nested 61 deep survive. -/
def survivor : ValidatedTransaction noteValidation := ⟨nestedInsert 61, by decide +kernel⟩

/-- Arrays nested 62 deep are validated too. -/
def casualty : ValidatedTransaction noteValidation := ⟨nestedInsert 62, by decide +kernel⟩

theorem readBack_iff_containers_le_survivor : ∃ text,
    json (serdeJson (nestedSlice 61)) survivor = .ok text ∧
    (ReadBack (serdeJson (nestedSlice 61)) [survivor] [text] ↔
      text.length ≤ MAX_BYTES ∧ ∀ value ∈ survivor.transaction.values, value.containers ≤ 123) :=
  ⟨_, json_serdeJson survivor, readBack_iff_containers_le survivor
    (nestedSlice_limited (by decide +kernel) (by decide +kernel) (by decide +kernel))
    (json_serdeJson survivor)⟩

theorem casualty_not_readBack : ∃ text,
    json (serdeJson (nestedSlice 62)) casualty = .ok text ∧
    ¬ ReadBack (serdeJson (nestedSlice 62)) [casualty] [text] := by
  refine ⟨_, json_serdeJson casualty, ?_⟩
  intro hread
  have hdepth := (hread.depth_lt
    (nestedSlice_limited (by decide +kernel) (by decide +kernel) (by decide +kernel))
    (json_serdeJson casualty)).2
  have hvalues := events_depth_lt.mp hdepth (nested 62) List.mem_cons_self
  rw [containers_nested] at hvalues
  omega

end Sample

end DatabaseSync.ChangeEvent
