import DatabaseSync.ChangeEvent.Json

/-! # Reading JSON lines

The reader of a stream of JSON lines: it collects the lines of one transaction at a time, returns
it at its commit, and stops for good at the first error. However the bytes arrive, it reads what
was written.
-/

namespace DatabaseSync.ChangeEvent

open Checked Lines

def MAX_BYTES : ℕ := 64 * 1024 * 1024

/-- The transaction that was begun, and the bytes of its lines so far. -/
structure OpenFrame where
  pending : Option ChangeTransaction
  bytes : ℕ

structure JsonReader extends OpenFrame where
  reader : BufRead
  line : List UInt8
  failed : Bool

section Reader

variable (library : ValidationLibrary) (codec : LineCodec)

/-- The formats of the contract, the older ones from MySQL alone. -/
def supportedFormat (envelope : Envelope) : Bool :=
  if envelope.format = FORMAT ∨ envelope.format = PREVIOUS_FORMAT then true
  else if envelope.format = LEGACY_FORMAT ∨ envelope.format = HISTORICAL_FORMAT then
    envelope.source.kind == "mysql"
  else false

/-- The line continues the pending transaction. -/
def continues (pending : Option ChangeTransaction) (envelope : Envelope) : Bool :=
  match pending with
  | none => true
  | some tx => tx.source == envelope.source && tx.id == envelope.transaction.id &&
    tx.beginCursor == envelope.transaction.beginCursor &&
    tx.commitCursor == envelope.transaction.commitCursor &&
    envelope.transaction.sequence == tx.changes.length + 1

/-- What a complete line does to the frame. -/
def acceptLine (frame : OpenFrame) (line : List UInt8) :
    Except String (OpenFrame × Option (ValidatedTransaction library)) := do
  let envelope ← codec.fromSlice line
  ensure (supportedFormat envelope)
    ("unsupported ChangeEvent format " ++ envelope.format ++ "; recapture with " ++ FORMAT)
  ensure (continues frame.pending envelope)
    "interleaved transaction or inconsistent identity/cursor/sequence"
  match envelope.payload with
  | .transactionBegin => do
    ensure (frame.pending.isNone && envelope.transaction.sequence == 0)
      "nested transaction or invalid begin sequence"
    return (⟨some {
      source := envelope.source
      id := envelope.transaction.id
      beginCursor := envelope.transaction.beginCursor
      commitCursor := envelope.transaction.commitCursor
      changes := [] }, frame.bytes + line.length⟩, none)
  | .rowChange change =>
    match frame.pending with
    | none => .error "row without begin"
    | some tx => return (⟨some { tx with changes := tx.changes ++ [change] },
        frame.bytes + line.length⟩, none)
  | .transactionCommit changeCount =>
    match frame.pending with
    | none => .error "commit without begin"
    | some tx => do
      ensure (tx.changes.length == changeCount) "commit change_count mismatch"
      let validated ← validate library tx
      return (⟨none, 0⟩, some validated)

namespace JsonReader

def new (reader : BufRead) : JsonReader := ⟨⟨none, 0⟩, reader, [], false⟩

/-- One call's loop. What the frame holds after an error is never looked at again. -/
def readTransaction (r : JsonReader) :
    Except String (Option (ValidatedTransaction library)) × JsonReader :=
  match h : r.reader.fillBuf with
  | (.error e, reader) => (.error e, { r with reader })
  | (.ok available, reader) =>
    if hempty : available = [] then (.ok none, { r with reader })
    else
      let length := segmentLength available
      if length > MAX_BYTES - (r.bytes + r.line.length) then
        (.error "JSON transaction exceeds 64 MiB", { r with reader })
      else
        let complete := available[length - 1]? == some newline
        let line := r.line ++ available.take length
        have : (reader.consume length).size < r.reader.size := by
          have hfilled := BufRead.fillBuf_ok h
          have hbuffer : reader.buffer ≠ [] := by rwa [hfilled.buffer]
          exact Nat.lt_of_lt_of_le (BufRead.size_consume_lt hbuffer (segmentLength_pos hempty))
            hfilled.size
        if complete then
          match acceptLine library codec r.toOpenFrame line with
          | .error e => (.error e, { r with reader := reader.consume length, line := [] })
          | .ok (frame, some validated) =>
            (.ok (some validated), ⟨frame, reader.consume length, [], r.failed⟩)
          | .ok (frame, none) => readTransaction ⟨frame, reader.consume length, [], r.failed⟩
        else readTransaction { r with reader := reader.consume length, line }
termination_by r.reader.size

def nextTransaction (r : JsonReader) :
    Except String (Option (ValidatedTransaction library)) × JsonReader :=
  if r.failed then (.error "reader stopped after an earlier error", r)
  else
    match readTransaction library codec r with
    | (.ok result, r) => (.ok result, r)
    | (.error e, r) => (.error e, { r with failed := true })

/-- Finite input must end on a newline and a complete commit. -/
def finish (r : JsonReader) : Except String Unit :=
  ensure (!(r.failed || r.pending.isSome || !r.line.isEmpty))
    "incomplete or failed ChangeEvent transaction at end of input"

/-- A number of calls one after another. -/
def calls : ℕ → JsonReader →
    List (Except String (Option (ValidatedTransaction library))) × JsonReader
  | 0, r => ([], r)
  | n + 1, r =>
    let (result, r) := nextTransaction library codec r
    let (results, r) := calls n r
    (result :: results, r)

end JsonReader

/-- The transactions among the results of calls. -/
def returned {library : ValidationLibrary}
    (results : List (Except String (Option (ValidatedTransaction library)))) :
    List (ValidatedTransaction library) :=
  results.filterMap fun
    | .ok validated => validated
    | .error _ => none

/-! ## The reader as a machine on bytes -/

def frameMachine : Machine OpenFrame (ValidatedTransaction library) String where
  limit := MAX_BYTES
  used := OpenFrame.bytes
  accept := acceptLine library codec
  tooLong := "JSON transaction exceeds 64 MiB"

namespace JsonReader

/-- What the machine holds in place of the reader. -/
def held (r : JsonReader) : OpenFrame × List UInt8 := (r.toOpenFrame, r.line)

/-- The reader took some of the bytes to come, and did with them what the machine does. -/
structure Reads (r : JsonReader) (outs : List (ValidatedTransaction library)) (r' : JsonReader) :
    Prop where
  failed : r'.failed = r.failed
  reads : r'.reader.reads <:+ r.reader.reads
  feeds : ∃ taken, taken ++ r'.reader.bytes = r.reader.bytes ∧
    (frameMachine library codec).feed r.held taken = .ok (r'.held, outs)

variable {library codec}

theorem Reads.trans {r r' r'' : JsonReader} {outs outs' : List (ValidatedTransaction library)}
    (h : Reads library codec r outs r') (h' : Reads library codec r' outs' r'') :
    Reads library codec r (outs ++ outs') r'' := by
  obtain ⟨hfailed, hreads, taken, htaken, hfeed⟩ := h
  obtain ⟨hfailed', hreads', taken', htaken', hfeed'⟩ := h'
  refine ⟨hfailed'.trans hfailed, hreads'.trans hreads, taken ++ taken', ?_, ?_⟩
  · rw [List.append_assoc, htaken', htaken]
  · rw [Machine.feed_append_of_ok _ hfeed, hfeed']
    rfl

/-- What is still to come decides whether the machine fails. -/
theorem Reads.feed_bytes {r r' : JsonReader} {outs : List (ValidatedTransaction library)}
    (h : Reads library codec r outs r') :
    (frameMachine library codec).feed r.held r.reader.bytes =
      ((frameMachine library codec).feed r'.held r'.reader.bytes).map
        fun p => (p.1, outs ++ p.2) := by
  obtain ⟨-, -, taken, htaken, hfeed⟩ := h
  rw [← htaken, Machine.feed_append_of_ok _ hfeed]

/-- What a call may do: wait for more input, return one transaction, or fail on a failed read or
on bytes that the machine refuses. -/
def Outcome (library : ValidationLibrary) (codec : LineCodec) (r : JsonReader) :
    Except String (Option (ValidatedTransaction library)) × JsonReader → Prop
  | (.ok none, r') => Reads library codec r [] r' ∧ r'.reader.buffer = [] ∧
      (r'.reader.reads = [] ∨ r'.reader.reads.length < r.reader.reads.length)
  | (.ok (some validated), r') => Reads library codec r [validated] r'
  | (.error _, _) => (∃ e, .error e ∈ r.reader.reads) ∨
      ∃ e, (frameMachine library codec).feed r.held r.reader.bytes = .error e

theorem Outcome.of_reads {r r' : JsonReader}
    {outcome : Except String (Option (ValidatedTransaction library)) × JsonReader}
    (hreads : Reads library codec r [] r')
    (h : Outcome library codec r' outcome) : Outcome library codec r outcome := by
  obtain ⟨result, r''⟩ := outcome
  cases result with
  | error e =>
    rcases h with ⟨e, he⟩ | ⟨e, he⟩
    · exact .inl ⟨e, hreads.reads.subset he⟩
    · refine .inr ⟨e, ?_⟩
      rw [hreads.feed_bytes, he]
      rfl
  | ok out =>
    cases out with
    | some validated => exact hreads.trans h
    | none =>
      obtain ⟨hreads', hbuffer, hshrinks⟩ := h
      refine ⟨hreads.trans hreads', hbuffer, ?_⟩
      rcases hshrinks with hnil | hlt
      · exact .inl hnil
      · exact .inr (Nat.lt_of_lt_of_le hlt hreads.reads.length_le)

/-- One segment of the buffer goes through the machine as a whole. -/
theorem feed_segment {r : JsonReader} {available : List UInt8} {filled : BufRead}
    (hfilled : BufRead.Filled r.reader available filled) :
    available.take (segmentLength available) ++ (filled.consume (segmentLength available)).bytes =
      r.reader.bytes := by
  rw [← hfilled.bytes, ← hfilled.buffer]
  exact filled.take_append_consume_bytes _

theorem readTransaction_outcome (library : ValidationLibrary) (codec : LineCodec)
    (r : JsonReader) : Outcome library codec r (readTransaction library codec r) := by
  rw [readTransaction]
  split
  next e reader h => exact .inl ⟨e, (BufRead.fillBuf_error h).1⟩
  next available reader h =>
    have hfilled := BufRead.fillBuf_ok h
    split
    next hempty =>
      refine ⟨⟨rfl, hfilled.reads, [], hfilled.bytes, rfl⟩, ?_, hfilled.shrinks hempty⟩
      exact hfilled.buffer.trans hempty
    next hempty =>
      have hlt : (reader.consume (segmentLength available)).size < r.reader.size := by
        have hbuffer : reader.buffer ≠ [] := by rwa [hfilled.buffer]
        exact Nat.lt_of_lt_of_le (BufRead.size_consume_lt hbuffer (segmentLength_pos hempty))
          hfilled.size
      have hbytes := feed_segment hfilled
      have hlength : (available.take (segmentLength available)).length =
          segmentLength available := List.length_take_of_le (segmentLength_le available)
      have hpos := segmentLength_pos hempty
      dsimp only
      split
      next hroom =>
        refine .inr ⟨"JSON transaction exceeds 64 MiB", ?_⟩
        rw [← hbytes]
        apply Machine.feed_append_of_error
        apply Machine.feed_tooLong
        · rcases segment_cases hempty with ⟨-, body, hbody, hline⟩ | ⟨-, hno⟩
          · rwa [hline, List.dropLast_concat]
          · exact fun hmem => hno (List.dropLast_subset _ hmem)
        · rw [hlength]
          simp only [frameMachine]
          omega
        · intro hnil
          rw [hnil, List.length_nil] at hlength
          omega
      next hroom =>
        have hfits : (frameMachine library codec).used r.toOpenFrame + r.line.length +
            (available.take (segmentLength available)).length ≤
              (frameMachine library codec).limit := by
          rw [hlength]
          simp only [frameMachine]
          omega
        rcases segment_cases hempty with ⟨hlast, hline⟩ | ⟨hlast, hno⟩
        · rw [if_pos (by rw [hlast]; rfl)]
          have hfeed := Machine.feed_line (frameMachine library codec) hline hfits
          split
          next e haccept =>
            refine .inr ⟨e, ?_⟩
            rw [← hbytes]
            apply Machine.feed_append_of_error
            exact hfeed.trans (by simp only [frameMachine, haccept])
          next frame validated haccept =>
            refine ⟨rfl, hfilled.reads, _, hbytes, ?_⟩
            exact hfeed.trans (by simp only [frameMachine, haccept]; rfl)
          next frame haccept =>
            have hreads : Reads library codec r []
                ⟨frame, reader.consume (segmentLength available), [], r.failed⟩ := by
              refine ⟨rfl, hfilled.reads, _, hbytes, ?_⟩
              exact hfeed.trans (by simp only [frameMachine, haccept]; rfl)
            exact Outcome.of_reads hreads (readTransaction_outcome library codec _)
        · rw [if_neg (by rwa [beq_iff_eq])]
          have hreads : Reads library codec r [] { r with
              reader := reader.consume (segmentLength available)
              line := r.line ++ available.take (segmentLength available) } :=
            ⟨rfl, hfilled.reads, _, hbytes,
              Machine.feed_body (frameMachine library codec) hno hfits⟩
          exact Outcome.of_reads hreads (readTransaction_outcome library codec _)
termination_by r.reader.size

/-- A reader that has not failed does what a call may do, and fails only with an error. -/
theorem nextTransaction_outcome (library : ValidationLibrary) (codec : LineCodec)
    {r : JsonReader} (h : r.failed = false) :
    Outcome library codec r (nextTransaction library codec r) ∧
      (nextTransaction library codec r).2.failed =
        !(nextTransaction library codec r).1.isOk := by
  have houtcome := readTransaction_outcome library codec r
  rw [nextTransaction, h, if_neg Bool.false_ne_true]
  cases hread : readTransaction library codec r with
  | mk result r' =>
    rw [hread] at houtcome
    cases result with
    | error e => exact ⟨houtcome, rfl⟩
    | ok out =>
      refine ⟨houtcome, ?_⟩
      cases out with
      | none => exact houtcome.1.failed.trans h
      | some validated => exact houtcome.failed.trans h

theorem nextTransaction_failed {r : JsonReader} (h : r.failed = true) :
    nextTransaction library codec r =
      (.error "reader stopped after an earlier error", r) := by
  rw [nextTransaction, if_pos h]

/-! ## Many calls -/

theorem calls_succ (n : ℕ) (r : JsonReader) :
    calls library codec (n + 1) r =
      ((nextTransaction library codec r).1 ::
          (calls library codec n (nextTransaction library codec r).2).1,
        (calls library codec n (nextTransaction library codec r).2).2) := rfl

/-- More calls have the results of fewer among theirs. -/
theorem calls_mono {n m : ℕ} (h : n ≤ m) (r : JsonReader) :
    (calls library codec n r).1 <+: (calls library codec m r).1 := by
  induction n generalizing m r with
  | zero => exact List.nil_prefix
  | succ n ih =>
    cases m with
    | zero => omega
    | succ m =>
      rw [calls_succ, calls_succ]
      exact (List.prefix_cons_inj _).mpr (ih (Nat.le_of_succ_le_succ h) _)

/-- A failed reader only fails. -/
theorem calls_failed (library : ValidationLibrary) (codec : LineCodec) {r : JsonReader}
    (h : r.failed = true) (n : ℕ) :
    (∀ result ∈ (calls library codec n r).1, result.isOk = false) ∧
      (calls library codec n r).2 = r := by
  induction n with
  | zero => exact ⟨fun _ hmem => (List.not_mem_nil hmem).elim, rfl⟩
  | succ n ih =>
    rw [calls_succ, nextTransaction_failed h]
    refine ⟨?_, ih.2⟩
    rintro result hmem
    rcases List.mem_cons.mp hmem with rfl | hmem
    · rfl
    · exact ih.1 result hmem

theorem returned_eq_nil
    {results : List (Except String (Option (ValidatedTransaction library)))}
    (h : ∀ result ∈ results, result.isOk = false) : returned results = [] := by
  rw [returned, List.filterMap_eq_nil_iff]
  intro result hmem
  have hresult := h result hmem
  cases result with
  | error e => rfl
  | ok out => cases hresult

/-- Once a call has failed every later one fails, and so does `finish`. -/
theorem calls_sticky (n : ℕ) (r : JsonReader) :
    (calls library codec n r).1.Pairwise
        (fun result later => result.isOk = false → later.isOk = false) ∧
      ((∃ result ∈ (calls library codec n r).1, result.isOk = false) →
        (calls library codec n r).2.finish.isOk = false) := by
  induction n generalizing r with
  | zero =>
    constructor
    · exact List.Pairwise.nil
    · rintro ⟨result, hmem, -⟩
      cases hmem
  | succ n ih =>
    rw [calls_succ]
    have hnext : (nextTransaction library codec r).1.isOk = false →
        (nextTransaction library codec r).2.failed = true := by
      intro herror
      by_cases hfailed : r.failed = true
      · rw [nextTransaction_failed hfailed]
        exact hfailed
      · rw [(nextTransaction_outcome library codec (Bool.eq_false_iff.mpr hfailed)).2, herror]
        rfl
    obtain ⟨hpairwise, hfinish⟩ := ih (nextTransaction library codec r).2
    constructor
    · refine List.pairwise_cons.mpr ⟨?_, hpairwise⟩
      intro later hlater herror
      exact (calls_failed library codec (hnext herror) n).1 later hlater
    · rintro ⟨result, hmem, herror⟩
      rcases List.mem_cons.mp hmem with rfl | hmem
      · have hfailed := hnext herror
        dsimp only
        rw [(calls_failed library codec hfailed n).2, finish, hfailed]
        rfl
      · exact hfinish ⟨result, hmem, herror⟩

/-- What the calls return is what the machine makes of the bytes they took. -/
theorem calls_reads (library : ValidationLibrary) (codec : LineCodec) (n : ℕ) {r : JsonReader}
    (h : r.failed = false) :
    ∃ r', Reads library codec r (returned (calls library codec n r).1) r' := by
  induction n generalizing r with
  | zero => exact ⟨r, rfl, List.suffix_refl _, [], rfl, rfl⟩
  | succ n ih =>
    rw [calls_succ]
    obtain ⟨houtcome, hfailed⟩ := nextTransaction_outcome library codec h
    cases hnext : nextTransaction library codec r with
    | mk result next =>
      rw [hnext] at houtcome hfailed
      cases result with
      | error e =>
        have hnil := returned_eq_nil (calls_failed library codec hfailed n).1
        refine ⟨r, rfl, List.suffix_refl _, [], rfl, ?_⟩
        rw [returned, List.filterMap_cons, ← returned, hnil]
        rfl
      | ok out =>
        obtain ⟨r', hreads⟩ := ih hfailed
        cases out with
        | none => exact ⟨r', houtcome.1.trans hreads⟩
        | some validated => exact ⟨r', Reads.trans houtcome hreads⟩

/-- On input that the machine refuses some call fails. -/
theorem calls_error {r : JsonReader} {e : String} (h : r.failed = false)
    (hfeed : (frameMachine library codec).feed r.held r.reader.bytes = .error e) :
    ∃ n, ∃ result ∈ (calls library codec n r).1, result.isOk = false := by
  -- the bytes and reads that are left become fewer with each call
  induction hmeasure : r.reader.bytes.length + r.reader.reads.length using Nat.strongRecOn
    generalizing r with
  | ind measure ih =>
    obtain ⟨houtcome, hfailed⟩ := nextTransaction_outcome library codec h
    cases hnext : nextTransaction library codec r with
    | mk result next =>
      rw [hnext] at houtcome hfailed
      cases result with
      | error e =>
        refine ⟨1, .error e, ?_, rfl⟩
        rw [calls_succ, hnext]
        exact List.mem_cons_self
      | ok out =>
        have hreads : Reads library codec r out.toList next := by
          cases out with
          | none => exact houtcome.1
          | some validated => exact houtcome
        obtain ⟨taken, htaken, hfeedTaken⟩ := hreads.feeds
        have hrest : (frameMachine library codec).feed next.held next.reader.bytes = .error e := by
          have hbytes := hreads.feed_bytes
          rw [hfeed] at hbytes
          cases hnextFeed : (frameMachine library codec).feed next.held next.reader.bytes with
          | ok p =>
            rw [hnextFeed] at hbytes
            cases hbytes
          | error e =>
            rw [hnextFeed] at hbytes
            cases hbytes
            rfl
        have hlength : taken.length + next.reader.bytes.length = r.reader.bytes.length := by
          rw [← htaken, List.length_append]
        have hsuffix := hreads.reads.length_le
        have hless : next.reader.bytes.length + next.reader.reads.length < measure := by
          cases out with
          | some validated =>
            have hpos : 0 < taken.length := by
              rcases List.eq_nil_or_concat taken with rfl | ⟨init, last, rfl⟩
              · exact absurd (congrArg Prod.snd (Except.ok.inj hfeedTaken))
                  (List.cons_ne_nil validated []).symm
              · simp
            omega
          | none =>
            obtain ⟨-, hbuffer, hnil | hlt⟩ := houtcome
            · have hbytes : next.reader.bytes = [] := by
                rw [BufRead.bytes, hbuffer, hnil]
                rfl
              rw [hbytes, Machine.feed_nil] at hrest
              cases hrest
            · omega
        obtain ⟨n, result, hmem, herror⟩ := ih _ hless hfailed hrest rfl
        refine ⟨n + 1, result, ?_, herror⟩
        rw [calls_succ, hnext]
        exact List.mem_cons_of_mem _ hmem

/-- With enough calls on input that the machine takes, everything it makes of it is returned. -/
theorem calls_complete (n : ℕ) {r : JsonReader} {frame : OpenFrame × List UInt8}
    {outs : List (ValidatedTransaction library)} (h : r.failed = false)
    (hreads : ∀ e, .error e ∉ r.reader.reads)
    (hfeed : (frameMachine library codec).feed r.held r.reader.bytes = .ok (frame, outs))
    (hn : r.reader.reads.length + outs.length < n) :
    (∀ result ∈ (calls library codec n r).1, result.isOk = true) ∧
      returned (calls library codec n r).1 = outs ∧
      (calls library codec n r).2.held = frame ∧ (calls library codec n r).2.failed = false := by
  induction n generalizing r outs with
  | zero => omega
  | succ n ih =>
    rw [calls_succ]
    obtain ⟨houtcome, hfailed⟩ := nextTransaction_outcome library codec h
    cases hnext : nextTransaction library codec r with
    | mk result next =>
      rw [hnext] at houtcome hfailed
      cases result with
      | error e =>
        rcases houtcome with ⟨e, he⟩ | ⟨e, he⟩
        · exact absurd he (hreads e)
        · rw [hfeed] at he
          cases he
      | ok out =>
        have hnotFailed : next.failed = false := hfailed
        have hok : ∀ {results : List (Except String (Option (ValidatedTransaction library)))},
            (∀ result ∈ results, result.isOk = true) →
              ∀ result ∈ .ok out :: results, result.isOk = true := by
          intro results hresults result hmem
          rcases List.mem_cons.mp hmem with rfl | hmem
          · rfl
          · exact hresults result hmem
        cases out with
        | some validated =>
          have hnextReads := Reads.reads houtcome
          rw [Reads.feed_bytes houtcome] at hfeed
          obtain ⟨rest, hrest, houts⟩ := map_eq_ok.mp hfeed
          obtain ⟨rfl, rfl⟩ := Prod.mk.inj houts
          rw [List.length_append, List.length_singleton] at hn
          have hlength := hnextReads.length_le
          obtain ⟨hall, hreturned, hheld, hlast⟩ := ih hnotFailed
            (fun e he => hreads e (hnextReads.subset he)) hrest (by omega)
          refine ⟨hok hall, ?_, hheld, hlast⟩
          rw [returned, List.filterMap_cons, ← returned, hreturned]
          rfl
        | none =>
          obtain ⟨hnext', hbuffer, hshrinks⟩ := houtcome
          rw [hnext'.feed_bytes] at hfeed
          obtain ⟨rest, hrest, houts⟩ := map_eq_ok.mp hfeed
          obtain ⟨rfl, rfl⟩ := Prod.mk.inj houts
          rw [List.nil_append] at hn ⊢
          have hnextReads := hnext'.reads
          rcases Nat.eq_zero_or_pos n with rfl | hpos
          · -- no call is left, and what this one waits for never comes
            have hlength := hnextReads.length_le
            have hnil : next.reader.reads = [] := by
              rcases hshrinks with hnil | hlt
              · exact hnil
              · omega
            have hbytes : next.reader.bytes = [] := by
              rw [BufRead.bytes, hbuffer, hnil]
              rfl
            rw [hbytes, Machine.feed_nil] at hrest
            cases hrest
            exact ⟨hok fun _ hmem => (List.not_mem_nil hmem).elim, rfl, rfl, hfailed⟩
          · obtain ⟨hall, hreturned, hheld, hlast⟩ := ih hnotFailed
              (fun e he => hreads e (hnextReads.subset he)) hrest (by
                rcases hshrinks with hnil | hlt
                · have hbytes : next.reader.bytes = [] := by
                    rw [BufRead.bytes, hbuffer, hnil]
                    rfl
                  rw [hbytes, Machine.feed_nil] at hrest
                  cases hrest
                  rw [hnil]
                  exact hpos
                · omega)
            exact ⟨hok hall, hreturned, hheld, hlast⟩

end JsonReader

end Reader

end DatabaseSync.ChangeEvent
