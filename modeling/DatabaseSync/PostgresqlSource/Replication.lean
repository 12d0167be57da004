import DatabaseSync.Library.Transition
import DatabaseSync.PostgresqlSource.Frames

/-! # The replication stream

A call reads frames until the decoder has a complete transaction. The first failure of a call
poisons the stream. The parsers of the wire protocol are fields of `Wire`; what the connection
delivers is the input of a call.
-/

namespace DatabaseSync.PostgresqlSource

open ChangeEvent Checked

/-- The parsers of the wire protocol: whether a keepalive asks for a reply, the message of a
WAL frame, and a position. -/
structure Wire where
  parseKeepalive : List UInt8 → Except PgError Bool
  parseWal : List UInt8 → Except PgError Message
  parseLsn : String → Except PgError ℕ

/-- What the connection does in one turn of the loop: the frame or the failure of the read,
whether the feedback is due, and how sending it ends. -/
structure Received where
  data : Except PgError (List UInt8)
  feedbackDue : Bool
  feedback : Except PgError Unit

structure Replication where
  decoder : Decoder
  acknowledged : ℕ
  delivered : Option SourceCursor
  failed : Bool

def Replication.new : Replication := ⟨.new, 0, none, false⟩

variable (cfg : DecoderConfig) (wire : Wire)

/-- One turn of the loop of `read_transaction`. -/
def receive (d : Decoder) (received : Received) :
    Except PgError (Decoder × Option ChangeTransaction) := do
  let data ← received.data
  match data with
  | [] => throw (.invalid "replication stream ended")
  | kind :: _ =>
    if 64 * 1024 * 1024 < data.length then
      throw (.invalid "replication message exceeds 64 MiB")
    if kind = 107 then
      let replyRequested ← wire.parseKeepalive data
      if replyRequested || received.feedbackDue then received.feedback
      return (d, none)
    if kind ≠ 119 ∨ data.length < 26 then throw (.invalid "invalid XLogData frame")
    let message ← wire.parseWal (data.drop 25)
    if received.feedbackDue then received.feedback
    d.push cfg message data.length

/-- Read up to a transaction or a failure. There is no result while the input gives neither.
The decoder is not used any more after a failure. -/
def readTransaction : Decoder → List Received →
    Option (Decoder × Except PgError ChangeTransaction × List Received)
  | _, [] => none
  | d, received :: rest =>
    match receive cfg wire d received with
    | .error e => some (d, .error e, rest)
    | .ok (d, none) => readTransaction d rest
    | .ok (d, some transaction) => some (d, .ok transaction, rest)

namespace Replication

variable (r : Replication)

/-- The result of a call and the input it has not read. -/
def nextTransaction (input : List Received) :
    Option (Replication × Except PgError ChangeTransaction × List Received) :=
  if r.failed then some (r, .error (.invalid
    "capture stopped after an earlier error/cancellation; reopen the existing slot"), input)
  else
    match readTransaction cfg wire r.decoder input with
    | none => none
    | some (decoder, .error e, rest) =>
      some ({ r with decoder, failed := true }, .error e, rest)
    | some (decoder, .ok transaction, rest) =>
      some ({ r with decoder, delivered := some transaction.commitCursor }, .ok transaction, rest)

/-- The feedback is sent last, so its failure leaves the new position in place. -/
def acknowledge (transaction : ChangeTransaction) (feedback : Except PgError Unit) :
    Replication × Except PgError Unit :=
  if r.failed ∨ transaction.source ≠ cfg.source ∨ r.delivered ≠ some transaction.commitCursor then
    (r, .error (.invalid
      "can only acknowledge this stream's most recently delivered complete transaction"))
  else
    match wire.parseLsn transaction.commitCursor.value with
    | .error e => (r, .error e)
    | .ok lsn =>
      if lsn < r.acknowledged then (r, .error (.invalid "acknowledgement moved backwards"))
      else ({ r with acknowledged := lsn }, feedback)

end Replication

inductive Call
  | next (input : List Received)
  | acknowledge (transaction : ChangeTransaction) (feedback : Except PgError Unit)

/-- The stream after a call that has returned. -/
def Called (r : Replication) : Call → Replication → Prop
  | .next input, r' => ∃ result rest, r.nextTransaction cfg wire input = some (r', result, rest)
  | .acknowledge transaction feedback, r' => r' = (r.acknowledge cfg wire transaction feedback).1

/-- A sequence of calls on one input in which every `next_transaction` returns a transaction. -/
inductive Serves : Replication → List Received → List ChangeTransaction → Replication →
    List Received → Prop
  | done {r : Replication} {input : List Received} : Serves r input [] r input
  | next {r r₁ r₂ : Replication} {input rest rest₁ : List Received}
      {transaction : ChangeTransaction} {transactions : List ChangeTransaction}
      (hnext : r.nextTransaction cfg wire input = some (r₁, .ok transaction, rest))
      (h : Serves r₁ rest transactions r₂ rest₁) :
      Serves r input (transaction :: transactions) r₂ rest₁
  | acknowledge {r r₁ : Replication} {input rest : List Received}
      {transactions : List ChangeTransaction} (transaction : ChangeTransaction)
      (feedback : Except PgError Unit)
      (h : Serves (r.acknowledge cfg wire transaction feedback).1 input transactions r₁ rest) :
      Serves r input transactions r₁ rest

/-- The WAL message of a frame, with the size of the frame. -/
def walMessage (received : Received) : Option (Message × ℕ) :=
  match received.data with
  | .error _ => none
  | .ok data =>
    if data.head? = some 119 then
      match wire.parseWal (data.drop 25) with
      | .error _ => none
      | .ok message => some (message, data.length)
    else none

def walMessages (input : List Received) : List (Message × ℕ) := input.filterMap (walMessage wire)

variable {cfg wire} {d d' : Decoder} {r r' : Replication}

section Delivery

/-- A turn of the loop pushes the message it received, if there is one. -/
theorem receive_ok {received : Received} {emitted : Option ChangeTransaction}
    (h : receive cfg wire d received = .ok (d', emitted)) :
    d.pushAll cfg (walMessages wire [received]) = .ok (d', emitted.toList) := by
  simp only [receive, bind_eq_ok] at h
  obtain ⟨data, hdata, h⟩ := h
  simp only [walMessages, walMessage, List.filterMap_cons, List.filterMap_nil, hdata]
  cases data with
  | nil => cases h
  | cons kind data =>
    simp only [throw_eq, pure_eq, error_bind, guard_eq_ok] at h
    obtain ⟨-, h⟩ := h
    split at h
    next hkind =>
      subst hkind
      simp only [bind_eq_ok] at h
      obtain ⟨replyRequested, -, h⟩ := h
      have hsame : (d, none) = (d', emitted) := by
        split at h
        · obtain ⟨-, -, h⟩ := bind_eq_ok.mp h
          exact Except.ok.inj h
        · exact Except.ok.inj h
      cases hsame
      simp [Decoder.pushAll]
    next hkind =>
      simp only [guard_eq_ok, not_or, not_not, bind_eq_ok] at h
      obtain ⟨⟨rfl, -⟩, message, hmessage, h⟩ := h
      have hpush : d.push cfg message (data.length + 1) = .ok (d', emitted) := by
        split at h
        · obtain ⟨-, -, h⟩ := bind_eq_ok.mp h
          exact h
        · exact h
      rw [if_pos (List.head?_cons ..), hmessage]
      simp [Decoder.pushAll, hpush]

theorem walMessages_cons (received : Received) (rest : List Received) :
    walMessages wire (received :: rest) =
      walMessages wire [received] ++ walMessages wire rest := by
  rw [walMessages, walMessages, walMessages, ← List.filterMap_append, List.singleton_append]

theorem readTransaction_ok {input rest : List Received} {transaction : ChangeTransaction}
    (h : readTransaction cfg wire d input = some (d', .ok transaction, rest)) :
    ∃ read, input = read ++ rest ∧
      d.pushAll cfg (walMessages wire read) = .ok (d', [transaction]) := by
  induction input generalizing d with
  | nil => cases h
  | cons received input ih =>
    unfold readTransaction at h
    split at h
    · cases h
    next d₁ hreceive =>
      obtain ⟨read, rfl, hread⟩ := ih h
      refine ⟨received :: read, rfl, ?_⟩
      rw [walMessages_cons, Decoder.pushAll_append, receive_ok hreceive]
      simp [hread]
    next d₁ found hreceive =>
      cases h
      exact ⟨[received], rfl, receive_ok hreceive⟩

theorem acknowledge_decoder (r : Replication) (transaction : ChangeTransaction)
    (feedback : Except PgError Unit) :
    (r.acknowledge cfg wire transaction feedback).1.decoder = r.decoder := by
  unfold Replication.acknowledge
  split
  · rfl
  · split
    · rfl
    · split <;> rfl

/-- The transactions of successful calls are those the decoder emits for the input read. -/
theorem Serves.pushAll {input rest : List Received} {transactions : List ChangeTransaction}
    (h : Serves cfg wire r input transactions r' rest) : ∃ read, input = read ++ rest ∧
      r.decoder.pushAll cfg (walMessages wire read) = .ok (r'.decoder, transactions) := by
  induction h with
  | done => exact ⟨[], rfl, rfl⟩
  | @next r r₁ r₂ input rest rest' transaction transactions hnext _ ih =>
    unfold Replication.nextTransaction at hnext
    split at hnext
    · cases hnext
    · split at hnext
      · cases hnext
      · cases hnext
      next decoder found rest₁ hread =>
        cases hnext
        obtain ⟨first, rfl, hfirst⟩ := readTransaction_ok hread
        obtain ⟨later, rfl, hlater⟩ := ih
        refine ⟨first ++ later, (List.append_assoc ..).symm, ?_⟩
        have happend : walMessages wire (first ++ later) =
            walMessages wire first ++ walMessages wire later := List.filterMap_append ..
        rw [happend, Decoder.pushAll_append, hfirst]
        simpa using hlater
  | acknowledge transaction feedback _ ih => rwa [acknowledge_decoder] at ih

end Delivery

section Poison

theorem nextTransaction_error {input rest : List Received} {e : PgError}
    (h : r.nextTransaction cfg wire input = some (r', .error e, rest)) : r'.failed = true := by
  unfold Replication.nextTransaction at h
  split at h
  next hfailed =>
    cases h
    exact hfailed
  · split at h
    · cases h
    · cases h
      rfl
    · cases h

theorem nextTransaction_failed (hfailed : r.failed = true) {input rest : List Received}
    {result : Except PgError ChangeTransaction}
    (h : r.nextTransaction cfg wire input = some (r', result, rest)) :
    r' = r ∧ ∃ e, result = .error e := by
  rw [Replication.nextTransaction, if_pos hfailed] at h
  cases h
  exact ⟨rfl, _, rfl⟩

/-- A failed stream stays failed, whatever is called. -/
theorem Called.failed {call : Call} (hfailed : r.failed = true)
    (h : Called cfg wire r call r') : r'.failed = true := by
  cases call with
  | next input =>
    obtain ⟨result, rest, h⟩ := h
    rw [(nextTransaction_failed hfailed h).1]
    exact hfailed
  | acknowledge transaction feedback =>
    rw [Called, Replication.acknowledge, if_pos (.inl hfailed)] at h
    rw [h]
    exact hfailed

end Poison

/-- The decoder emits exactly the committed transactions with rows of the messages it takes.
The stream delivers them, and nothing once `next_transaction` has failed. -/
theorem replication_delivers (cfg : DecoderConfig) (wire : Wire) :
    (∀ stream d emitted, Decoder.pushAll cfg .new stream = .ok (d, emitted) →
      EmitsCommitted cfg stream emitted) ∧
    (∀ input transactions r rest, Serves cfg wire .new input transactions r rest →
      ∃ read, input = read ++ rest ∧
        EmitsCommitted cfg (walMessages wire read) transactions) ∧
    ∀ r input e r₁ rest, Replication.nextTransaction cfg wire r input = some (r₁, .error e, rest) →
      ∀ r₂, Transition.Run (Called cfg wire) r₁ r₂ →
        ∀ later transaction r₃ rest₁, Replication.nextTransaction cfg wire r₂ later ≠
          some (r₃, .ok transaction, rest₁) := by
  refine ⟨fun stream d emitted hpush => Decoder.pushAll_emits hpush, ?_, ?_⟩
  · intro input transactions r rest h
    obtain ⟨read, hread, hpush⟩ := h.pushAll
    exact ⟨read, hread, Decoder.pushAll_emits hpush⟩
  · intro r input e r₁ rest herror r₂ hrun later transaction r₃ rest₁ hnext
    have hfailed : r₂.failed = true :=
      Transition.Run.invariant (P := fun r => r.failed = true)
        (fun _ _ _ hfailed hcall => Called.failed hfailed hcall) hrun
        (nextTransaction_error herror)
    obtain ⟨-, error, hresult⟩ := nextTransaction_failed hfailed hnext
    cases hresult

section Sample

/-- A wire whose frames name the messages of a script by an index in their last byte. -/
def sampleWire (script : List Message) : Wire where
  parseKeepalive _ := .ok false
  parseWal bytes :=
    match bytes.head?.bind fun b => script[b.toNat]? with
    | some message => .ok message
    | none => .error (.invalid "unknown message")
  parseLsn value :=
    match parsePostgresqlLsn value with
    | some lsn => .ok lsn
    | none => .error (.invalid "invalid LSN")

def sampleScript : List Message := (sampleFirst.messages ++ sampleLater.messages).map Prod.fst

def sampleFrame (index : UInt8) : Received :=
  ⟨.ok (119 :: List.replicate 24 0 ++ [index]), false, .ok ()⟩

/-- The frames of the first transaction and of a later one. -/
def sampleInput : List Received := [0, 1, 2, 3, 4, 5, 6, 7].map sampleFrame

/-- The stream after its first transaction. -/
def sampleServed : Replication :=
  ⟨⟨[16384], none, 1048⟩, 0, some (cursor 1048), false⟩

def sampleTransaction (digit : String) (xid commitLsn endLsn : ℕ) : ChangeTransaction :=
  ⟨sampleConfig.source, "pg:" ++ toString xid ++ ":" ++ formatLsn endLsn, cursor commitLsn,
    cursor endLsn, [⟨some "shop", .insert, "public", "orders", cursor endLsn, 946684800,
      "pgoutput+catalog:16384:sha256:orders", none,
      some [⟨0, "id", "int4", some 1, false, none, .value (.integer true 32 digit)⟩]⟩]⟩

theorem sample_next : Replication.nextTransaction sampleConfig (sampleWire sampleScript) .new
    sampleInput = some (sampleServed, .ok (sampleTransaction "1" 740 1000 1048),
      sampleInput.drop 4) := by
  rfl

theorem sample_serves : Serves sampleConfig (sampleWire sampleScript) .new sampleInput
    [sampleTransaction "1" 740 1000 1048] sampleServed (sampleInput.drop 4) :=
  .next sample_next .done

/-- The end of the connection. -/
def sampleEnd : Received := ⟨.ok [], false, .ok ()⟩

theorem replication_delivers_sample :
    EmitsCommitted sampleConfig (sampleFirst.messages ++ sampleLater.messages)
        [sampleTransaction "1" 740 1000 1048, sampleTransaction "2" 741 1200 1248] ∧
      (∃ read, sampleInput = read ++ sampleInput.drop 4 ∧
        EmitsCommitted sampleConfig (walMessages (sampleWire sampleScript) read)
          [sampleTransaction "1" 740 1000 1048]) ∧
      ∀ r, Transition.Run (Called sampleConfig (sampleWire sampleScript))
          { sampleServed with failed := true } r →
        ∀ later transaction r₁ rest, Replication.nextTransaction sampleConfig
          (sampleWire sampleScript) r later ≠ some (r₁, .ok transaction, rest) := by
  obtain ⟨hpush, hserves, hpoison⟩ :=
    replication_delivers sampleConfig (sampleWire sampleScript)
  exact ⟨hpush _ _ _ rfl, hserves _ _ _ _ sample_serves,
    hpoison sampleServed [sampleEnd] _ _ [] rfl⟩

/-- A refused acknowledgement is an error that does not poison the stream. -/
theorem refused_acknowledgement_continues :
    Serves sampleConfig (sampleWire sampleScript) .new sampleInput
        [sampleTransaction "1" 740 1000 1048] sampleServed (sampleInput.drop 4) ∧
      ∃ r e, sampleServed.acknowledge sampleConfig (sampleWire sampleScript)
          (sampleTransaction "2" 741 1200 1248) (.ok ()) = (r, .error e) ∧
        ∃ r₁ transaction rest, r.nextTransaction sampleConfig (sampleWire sampleScript)
          (sampleInput.drop 4) = some (r₁, .ok transaction, rest) :=
  ⟨sample_serves, sampleServed, _, rfl, _, _, _, rfl⟩

end Sample

end DatabaseSync.PostgresqlSource
