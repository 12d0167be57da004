import DatabaseSync.Library.Checked

/-! # Lines from a buffered source

A source of bytes that fills a buffer from one read after another, and a machine that is fed the
bytes of lines and bounds what it holds. The machine does not see where one read ends.
-/

namespace DatabaseSync.Lines

open Checked

/-! ## Buffered reads -/

def newline : UInt8 := 10

/-- The bytes of a read, none of a failed one. -/
def readBytes : Except String (List UInt8) → List UInt8
  | .ok chunk => chunk
  | .error _ => []

/-- `std::io::BufRead`: the bytes at hand and the reads to come. A read of no bytes is an end of
input that may be temporary. -/
structure BufRead where
  buffer : List UInt8
  reads : List (Except String (List UInt8))

namespace BufRead

def fillBuf (reader : BufRead) : Except String (List UInt8) × BufRead :=
  match reader.buffer, reader.reads with
  | [], .ok chunk :: reads => (.ok chunk, ⟨chunk, reads⟩)
  | [], .error e :: reads => (.error e, ⟨[], reads⟩)
  | [], [] => (.ok [], reader)
  | buffer, _ => (.ok buffer, reader)

def consume (reader : BufRead) (length : ℕ) : BufRead :=
  { reader with buffer := reader.buffer.drop length }

/-- The bytes still to be delivered. -/
def bytes (reader : BufRead) : List UInt8 :=
  reader.buffer ++ (reader.reads.map readBytes).flatten

/-- A bound on the number of steps left. -/
def size (reader : BufRead) : ℕ :=
  reader.buffer.length + (reader.reads.map fun read => (readBytes read).length + 1).sum

/-- What a call of `fill_buf` does. -/
structure Filled (reader : BufRead) (available : List UInt8) (filled : BufRead) : Prop where
  buffer : filled.buffer = available
  bytes : filled.bytes = reader.bytes
  size : filled.size ≤ reader.size
  reads : filled.reads <:+ reader.reads
  shrinks : available = [] → filled.reads = [] ∨ filled.reads.length < reader.reads.length

theorem fillBuf_ok {reader filled : BufRead} {available : List UInt8}
    (h : reader.fillBuf = (.ok available, filled)) : Filled reader available filled := by
  obtain ⟨buffer, reads⟩ := reader
  cases buffer with
  | cons b buffer =>
    cases h
    exact ⟨rfl, rfl, Nat.le_refl _, List.suffix_refl _, fun h => by cases h⟩
  | nil =>
    cases reads with
    | nil =>
      cases h
      exact ⟨rfl, rfl, Nat.le_refl _, List.suffix_refl _, fun _ => .inl rfl⟩
    | cons read reads =>
      cases read with
      | error e => cases h
      | ok chunk =>
        cases h
        refine ⟨rfl, rfl, ?_, List.suffix_cons _ _, fun _ => .inr (by simp)⟩
        simp only [size, List.map_cons, List.sum_cons, readBytes, List.length_nil]
        omega

theorem fillBuf_error {reader filled : BufRead} {e : String}
    (h : reader.fillBuf = (.error e, filled)) :
    .error e ∈ reader.reads ∧ filled.bytes = reader.bytes ∧ filled.reads <:+ reader.reads := by
  obtain ⟨buffer, reads⟩ := reader
  cases buffer with
  | cons b buffer => cases h
  | nil =>
    cases reads with
    | nil => cases h
    | cons read reads =>
      cases read with
      | ok chunk => cases h
      | error e =>
        cases h
        exact ⟨List.mem_cons_self, rfl, List.suffix_cons _ _⟩

@[simp]
theorem consume_reads (reader : BufRead) (length : ℕ) :
    (reader.consume length).reads = reader.reads := rfl

theorem take_append_consume_bytes (reader : BufRead) (length : ℕ) :
    reader.buffer.take length ++ (reader.consume length).bytes = reader.bytes := by
  rw [bytes, bytes, consume, ← List.append_assoc, List.take_append_drop]

theorem size_consume_lt {reader : BufRead} {length : ℕ} (hbuffer : reader.buffer ≠ [])
    (hlength : 0 < length) : (reader.consume length).size < reader.size := by
  have hpos := List.length_pos_of_ne_nil hbuffer
  simp only [size, consume, List.length_drop]
  omega

end BufRead

/-! ## The bytes up to a line's end -/

/-- The number of bytes up to the first newline, or of all of them. -/
def segmentLength (available : List UInt8) : ℕ :=
  match available.findIdx? (· == newline) with
  | some i => i + 1
  | none => available.length

/-- A line with its newline. -/
def IsLine (line : List UInt8) : Prop := ∃ body, newline ∉ body ∧ line = body ++ [newline]

theorem segmentLength_pos {available : List UInt8} (h : available ≠ []) :
    0 < segmentLength available := by
  unfold segmentLength
  split
  · omega
  · exact List.length_pos_of_ne_nil h

theorem segmentLength_cons (b : UInt8) (available : List UInt8) :
    segmentLength (b :: available) =
      if b = newline then 1 else segmentLength available + 1 := by
  unfold segmentLength
  rw [List.findIdx?_cons]
  by_cases hb : b = newline
  · rw [if_pos hb, hb]
    rfl
  · have hbeq : (b == newline) = false := beq_eq_false_iff_ne.mpr hb
    rw [if_neg hb, hbeq]
    cases available.findIdx? (· == newline) <;> rfl

theorem segmentLength_le (available : List UInt8) : segmentLength available ≤ available.length := by
  induction available with
  | nil => exact Nat.le_refl _
  | cons b available ih =>
    rw [segmentLength_cons, List.length_cons]
    split <;> omega

/-- The segment is a line exactly if its last byte is a newline, and holds none otherwise. -/
theorem segment_cases {available : List UInt8} (h : available ≠ []) :
    (available[segmentLength available - 1]? = some newline ∧
      IsLine (available.take (segmentLength available))) ∨
    (available[segmentLength available - 1]? ≠ some newline ∧
      newline ∉ available.take (segmentLength available)) := by
  induction available with
  | nil => exact absurd rfl h
  | cons b available ih =>
    rw [segmentLength_cons]
    by_cases hb : b = newline
    · left
      rw [if_pos hb, hb]
      exact ⟨rfl, [], List.not_mem_nil, rfl⟩
    · rw [if_neg hb]
      cases available with
      | nil =>
        right
        constructor
        · rintro ⟨⟩
          exact hb rfl
        · rintro hmem
          exact hb (List.mem_singleton.mp hmem).symm
      | cons c available =>
        have hpos := segmentLength_pos (List.cons_ne_nil c available)
        have hget : (b :: c :: available)[segmentLength (c :: available) + 1 - 1]? =
            (c :: available)[segmentLength (c :: available) - 1]? := by
          obtain ⟨k, hk⟩ := Nat.exists_eq_succ_of_ne_zero (Nat.ne_of_gt hpos)
          rw [hk]
          rfl
        rw [hget, List.take_succ_cons]
        rcases ih (List.cons_ne_nil c available) with ⟨hlast, body, hbody, hline⟩ | ⟨hlast, hno⟩
        · refine .inl ⟨hlast, b :: body, ?_, by rw [hline]; rfl⟩
          simp only [List.mem_cons, not_or]
          exact ⟨Ne.symm hb, hbody⟩
        · refine .inr ⟨hlast, ?_⟩
          simp only [List.mem_cons, not_or]
          exact ⟨Ne.symm hb, by simpa using hno⟩

/-! ## The machine -/

variable {σ τ ε : Type}

/-- What is done with a complete line, and how much may be held. -/
structure Machine (σ τ ε : Type) where
  limit : ℕ
  used : σ → ℕ
  accept : σ → List UInt8 → Except ε (σ × Option τ)
  tooLong : ε

namespace Machine

variable (m : Machine σ τ ε)

/-- One byte, with the state and the line before it. -/
def feedByte (held : σ × List UInt8) (b : UInt8) : Except ε ((σ × List UInt8) × Option τ) :=
  if m.limit ≤ m.used held.1 + held.2.length then .error m.tooLong
  else if b = newline then
    match m.accept held.1 (held.2 ++ [b]) with
    | .ok (s, out) => .ok ((s, []), out)
    | .error e => .error e
  else .ok ((held.1, held.2 ++ [b]), none)

/-- The results of a list of bytes in order. -/
def feed (held : σ × List UInt8) : List UInt8 → Except ε ((σ × List UInt8) × List τ)
  | [] => .ok (held, [])
  | b :: rest => do
    let (held, out) ← m.feedByte held b
    let (held, outs) ← feed held rest
    return (held, out.toList ++ outs)

@[simp]
theorem feed_nil (held : σ × List UInt8) : m.feed held [] = .ok (held, []) := rfl

theorem feed_append (held : σ × List UInt8) (xs ys : List UInt8) :
    m.feed held (xs ++ ys) = (do
      let (held, outs) ← m.feed held xs
      let (held, outs') ← m.feed held ys
      return (held, outs ++ outs')) := by
  induction xs generalizing held with
  | nil =>
    rw [List.nil_append, feed_nil]
    simp only [ok_bind]
    cases m.feed held ys <;> rfl
  | cons x xs ih =>
    rw [List.cons_append, feed, feed]
    cases m.feedByte held x with
    | error e => rfl
    | ok step =>
      simp only [ok_bind, ih]
      cases m.feed step.1 xs with
      | error e => rfl
      | ok mid =>
        simp only [ok_bind, pure_eq]
        cases m.feed mid.1 ys with
        | error e => rfl
        | ok last => simp only [ok_bind, List.append_assoc]

theorem feed_append_of_ok {held held' : σ × List UInt8} {xs ys : List UInt8} {outs : List τ}
    (h : m.feed held xs = .ok (held', outs)) :
    m.feed held (xs ++ ys) = (m.feed held' ys).map fun p => (p.1, outs ++ p.2) := by
  rw [feed_append, h]
  simp only [ok_bind]
  cases m.feed held' ys <;> rfl

theorem feed_append_of_error {held : σ × List UInt8} {xs : List UInt8} {e : ε}
    (h : m.feed held xs = .error e) (ys : List UInt8) : m.feed held (xs ++ ys) = .error e := by
  rw [feed_append, h]
  rfl

/-- Bytes without a newline are added to the line if there is room. -/
theorem feed_body {s : σ} {line body : List UInt8} (hbody : newline ∉ body)
    (hroom : m.used s + line.length + body.length ≤ m.limit) :
    m.feed (s, line) body = .ok ((s, line ++ body), []) := by
  induction body generalizing line with
  | nil => rw [feed_nil, List.append_nil]
  | cons b body ih =>
    simp only [List.mem_cons, not_or] at hbody
    simp only [List.length_cons] at hroom
    have hbyte : m.feedByte (s, line) b = .ok ((s, line ++ [b]), none) := by
      rw [feedByte, if_neg (by simp only; omega), if_neg (Ne.symm hbody.1)]
    have hlength : (line ++ [b]).length = line.length + 1 := List.length_append
    have hrest : m.feed (s, line ++ [b]) body = .ok ((s, line ++ [b] ++ body), []) :=
      ih hbody.2 (by omega)
    rw [List.append_assoc] at hrest
    rw [feed, hbyte]
    simp only [ok_bind, hrest]
    rfl

/-- A line that there is room for is accepted together with what is held before it. -/
theorem feed_line {s : σ} {held line : List UInt8} (hline : IsLine line)
    (hroom : m.used s + held.length + line.length ≤ m.limit) :
    m.feed (s, held) line = match m.accept s (held ++ line) with
      | .ok (s, out) => .ok ((s, []), out.toList)
      | .error e => .error e := by
  obtain ⟨body, hbody, rfl⟩ := hline
  simp only [List.length_append, List.length_cons, List.length_nil] at hroom
  rw [m.feed_append_of_ok (m.feed_body hbody (by omega)), feed, feedByte,
    if_neg (by simp only [List.length_append]; omega), if_pos rfl, List.append_assoc]
  cases m.accept s (held ++ (body ++ [newline])) with
  | error e => rfl
  | ok p => simp [Except.map]

theorem feed_accepted {s s' : σ} {line : List UInt8} {out : Option τ} {outs : List τ}
    (hline : IsLine line) (hroom : m.used s + line.length ≤ m.limit)
    (h : m.accept s line = .ok (s', out)) (houts : out.toList = outs) :
    m.feed (s, []) line = .ok ((s', []), outs) := by
  have hheld : m.used s + ([] : List UInt8).length + line.length ≤ m.limit := by
    rwa [List.length_nil, Nat.add_zero]
  rw [m.feed_line hline hheld, List.nil_append, h, ← houts]

/-- Bytes that there is no room for are refused, if none but the last of them ends a line. -/
theorem feed_tooLong {s : σ} {line segment : List UInt8}
    (hsegment : newline ∉ segment.dropLast)
    (hroom : m.limit < m.used s + line.length + segment.length) (hne : segment ≠ []) :
    m.feed (s, line) segment = .error m.tooLong := by
  induction segment generalizing line with
  | nil => exact absurd rfl hne
  | cons b segment ih =>
    rw [feed, feedByte]
    by_cases hfull : m.limit ≤ m.used s + line.length
    · rw [if_pos hfull]
      rfl
    · rw [if_neg hfull]
      cases segment with
      | nil =>
        simp only [List.length_cons, List.length_nil] at hroom
        omega
      | cons c segment =>
        rw [List.dropLast_cons_cons, List.mem_cons, not_or] at hsegment
        have hlength : (line ++ [b]).length = line.length + 1 := List.length_append
        simp only [List.length_cons] at hroom
        have hrest : m.feed (s, line ++ [b]) (c :: segment) = .error m.tooLong :=
          ih hsegment.2 (by simp only [List.length_cons]; omega) (List.cons_ne_nil c segment)
        rw [if_neg (Ne.symm hsegment.1)]
        simp only [ok_bind, hrest]
        rfl

theorem feed_append_eq_ok {held : σ × List UInt8} {xs ys : List UInt8}
    {p : (σ × List UInt8) × List τ} (h : m.feed held (xs ++ ys) = .ok p) :
    ∃ mid, m.feed held xs = .ok mid ∧ ∃ last, m.feed mid.1 ys = .ok last := by
  rw [feed_append, bind_eq_ok] at h
  obtain ⟨mid, hmid, h⟩ := h
  obtain ⟨last, hlast, -⟩ := bind_eq_ok.mp h
  exact ⟨mid, hmid, last, hlast⟩

/-- A line that went through had room and was accepted. -/
theorem feed_line_eq_ok {s : σ} {line : List UInt8} {p : (σ × List UInt8) × List τ}
    (hline : IsLine line) (h : m.feed (s, []) line = .ok p) :
    m.used s + line.length ≤ m.limit ∧
      ∃ s' out, m.accept s line = .ok (s', out) ∧ p = ((s', []), out.toList) := by
  have hroom : m.used s + line.length ≤ m.limit := by
    by_contra hfull
    obtain ⟨body, hbody, rfl⟩ := hline
    have herror : m.feed (s, []) (body ++ [newline]) = .error m.tooLong := by
      apply m.feed_tooLong
      · rwa [List.dropLast_concat]
      · rw [List.length_nil]
        omega
      · simp
    rw [herror] at h
    cases h
  refine ⟨hroom, ?_⟩
  have hheld : m.used s + ([] : List UInt8).length + line.length ≤ m.limit := by
    rwa [List.length_nil, Nat.add_zero]
  rw [m.feed_line hline hheld, List.nil_append] at h
  cases haccept : m.accept s line with
  | error e =>
    rw [haccept] at h
    cases h
  | ok accepted =>
    rw [haccept] at h
    exact ⟨accepted.1, accepted.2, rfl, (Except.ok.inj h).symm⟩

end Machine

end DatabaseSync.Lines
