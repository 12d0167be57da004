import DatabaseSync.Library.QuotedTokens
import DatabaseSync.Library.Utf8
import Mathlib.Data.List.TakeWhile

/-! # The parser of structured text values

PostgreSQL prints composites, arrays, ranges and maps as texts whose parts are bare or in quotes.
The parser walks over the bytes of such a text. Every operation is described by the bytes that it
reads.
-/

namespace DatabaseSync.PostgresqlSource

open Checked Text QuotedTokens

/-- What the decoder of structured text answers instead of a value. An error that is put into
another one stands `within` its message. A branch marked `unreachable!` is a panic; `exhausted` is
the end of the fuel of a recursion. -/
inductive TextError
  | invalid (message : String)
  | parseInt
  | utf8
  | within (message : String) (error : TextError)
  | unreachable
  | exhausted
deriving DecidableEq, Repr

/-- `b'c'` -/
abbrev byteOf (c : Char) : UInt8 := UInt8.ofNat c.toNat

/-- `u8::is_ascii_whitespace` -/
def isAsciiSpace (b : UInt8) : Bool :=
  b == 0x20 || b == 0x09 || b == 0x0a || b == 0x0c || b == 0x0d

/-- `{b:02x}` -/
def hexByte (b : UInt8) : String := String.ofList ((Nat.toDigits 16 b.toNat).leftpad 2 '0')

def marks : Marks UInt8 := ⟨byteOf '"', byteOf '\\', by decide⟩

/-- The bytes that are left, and the offset of the first of them. -/
structure TextParser where
  remaining : List UInt8
  pos : ℕ
deriving DecidableEq, Repr

namespace TextParser

def new (bytes : List UInt8) : TextParser := ⟨bytes, 0⟩

def peek (p : TextParser) : Option UInt8 := p.remaining.head?

def take (p : TextParser) : Except TextError (UInt8 × TextParser) :=
  match p.remaining with
  | [] => .error (.invalid "unexpected end of PostgreSQL text value")
  | b :: rest => .ok (b, ⟨rest, p.pos + 1⟩)

def consume (p : TextParser) (expected : UInt8) : Except TextError TextParser := do
  let (actual, q) ← p.take
  if actual ≠ expected then
    throw (.invalid ("malformed PostgreSQL text value at offset " ++ toString p.pos ++
      ": expected byte 0x" ++ hexByte expected ++ ", found 0x" ++ hexByte actual))
  return q

def consumeBytes (p : TextParser) (expected : List UInt8) : Except TextError TextParser :=
  if expected.isPrefixOf p.remaining then
    .ok ⟨p.remaining.drop expected.length, p.pos + expected.length⟩
  else .error (.invalid "malformed PostgreSQL text value")

def skipSpaces (p : TextParser) : TextParser :=
  ⟨p.remaining.dropWhile isAsciiSpace, p.pos + (p.remaining.takeWhile isAsciiSpace).length⟩

/-- The text before the byte `stop`, which is left. -/
def numberUntil (p : TextParser) (stop : UInt8) : Except TextError (String × TextParser) := do
  let digits := p.remaining.takeWhile (· != stop)
  let q : TextParser := ⟨p.remaining.dropWhile (· != stop), p.pos + digits.length⟩
  if q.peek = none then throw (.invalid "truncated PostgreSQL array bounds")
  match fromUtf8 digits with
  | some text => return (text, q)
  | none => throw .utf8

/-- The parser behind what a token reader has read. -/
def behind (p : TextParser) :
    Except Failure (List UInt8 × List UInt8) → Except TextError (List UInt8 × TextParser)
  | .ok (value, rest) => .ok (value, ⟨rest, p.pos + (p.remaining.length - rest.length)⟩)
  | .error .unterminated => .error (.invalid "unterminated quoted PostgreSQL text value")
  | .error .truncated => .error (.invalid "unexpected end of PostgreSQL text value")

/-- Whether the next byte is there and no terminator. -/
def follows (p : TextParser) (terminators : List UInt8) : Bool :=
  p.peek.any fun b => !terminators.contains b

/-- White space between a closing quote and a terminator is skipped. -/
def closeQuoted (p : TextParser) (terminators : List UInt8) : Except TextError TextParser :=
  if p.follows terminators then
    if p.skipSpaces.follows terminators then
      .error (.invalid ("quoted PostgreSQL text value at offset " ++ toString p.skipSpaces.pos ++
        " is followed by non-delimiter byte Some(" ++
          toString ((p.skipSpaces.peek.map UInt8.toNat).getD 0) ++ ")"))
    else .ok p.skipSpaces
  else .ok p

/-- The value of a token, and whether it stands in quotes. -/
def token (p : TextParser) (terminators : List UInt8) :
    Except TextError ((List UInt8 × Bool) × TextParser) :=
  if p.peek = some marks.quote then do
    let (value, q) ← p.behind (readQuoted marks p.remaining.tail)
    let q ← q.closeQuoted terminators
    return ((value, true), q)
  else do
    let (value, q) ← p.behind (readBare marks terminators.contains p.remaining)
    return ((value, false), q)

def finish (p : TextParser) : Except TextError Unit :=
  if p.remaining = [] then .ok ()
  else .error (.invalid "trailing bytes in PostgreSQL text value")

end TextParser

/-! ## What the operations read -/

/-- The parser `q` stands behind the bytes `text` that `p` stands before. -/
structure TextParser.Reads (p : TextParser) (text : List UInt8) (q : TextParser) : Prop where
  remaining : p.remaining = text ++ q.remaining
  pos : q.pos = p.pos + text.length

variable {p q r : TextParser} {text text' value rest : List UInt8} {b : UInt8}
  {terminators : List UInt8} {quoted : Bool}

namespace TextParser

theorem Reads.nil : p.Reads [] p := ⟨rfl, rfl⟩

theorem Reads.trans (h : p.Reads text q) (h' : q.Reads text' r) : p.Reads (text ++ text') r := by
  constructor
  · rw [h.remaining, h'.remaining, List.append_assoc]
  · rw [h'.pos, h.pos, List.length_append, Nat.add_assoc]

theorem Reads.unique (h : p.Reads text q) (h' : p.Reads text r) : q = r := by
  obtain ⟨q, qpos⟩ := q
  obtain ⟨r, rpos⟩ := r
  obtain rfl : qpos = rpos := h.pos.trans h'.pos.symm
  obtain rfl : q = r := List.append_cancel_left (h.remaining.symm.trans h'.remaining)
  rfl

/-- The parser behind a prefix of what is left. -/
theorem exists_reads (p : TextParser) (h : p.remaining = text ++ rest) :
    ∃ q, p.Reads text q ∧ q.remaining = rest :=
  ⟨⟨rest, p.pos + text.length⟩, ⟨h, rfl⟩, rfl⟩

theorem Reads.length (h : p.Reads text q) :
    p.remaining.length = text.length + q.remaining.length := by
  rw [h.remaining, List.length_append]

theorem reads_split : p.Reads (text ++ text') r ↔ ∃ q, p.Reads text q ∧ q.Reads text' r := by
  constructor
  · rintro ⟨hremaining, hpos⟩
    obtain ⟨q, hq, hrest⟩ := exists_reads p (hremaining.trans (List.append_assoc ..))
    refine ⟨q, hq, hrest, ?_⟩
    rw [hpos, hq.pos, List.length_append, Nat.add_assoc]
  · rintro ⟨q, hq, hr⟩
    exact hq.trans hr

theorem reads_cons : p.Reads (b :: text) r ↔ ∃ q, p.Reads [b] q ∧ q.Reads text r := by
  rw [← List.singleton_append, reads_split]

theorem take_eq_ok : p.take = .ok (b, q) ↔ p.Reads [b] q := by
  unfold take
  cases hp : p.remaining with
  | nil =>
    refine iff_of_false nofun fun h => ?_
    have := h.remaining
    simp [hp] at this
  | cons a l =>
    rw [Except.ok.injEq, Prod.mk.injEq]
    constructor
    · rintro ⟨rfl, rfl⟩
      exact ⟨hp, rfl⟩
    · intro h
      have hremaining := h.remaining
      rw [hp, List.singleton_append, List.cons.injEq] at hremaining
      obtain ⟨rfl, hl⟩ := hremaining
      refine ⟨rfl, Reads.unique (p := p) ⟨by rw [hp]; rfl, rfl⟩ h⟩

theorem consume_eq_ok : p.consume b = .ok q ↔ p.Reads [b] q := by
  simp only [consume, throw_eq, pure_eq, error_bind, bind_eq_ok, guard_eq_ok, Except.ok.injEq]
  constructor
  · rintro ⟨⟨a, q'⟩, htake, hsame, rfl⟩
    obtain rfl : a = b := not_ne_iff.mp hsame
    exact take_eq_ok.mp htake
  · intro h
    exact ⟨(b, q), take_eq_ok.mpr h, not_ne_iff.mpr rfl, rfl⟩

theorem consumeBytes_eq_ok : p.consumeBytes text = .ok q ↔ p.Reads text q := by
  unfold consumeBytes
  rw [ensure_eq_ok, List.isPrefixOf_iff_prefix, Except.ok.injEq]
  constructor
  · rintro ⟨⟨rest, hrest⟩, rfl⟩
    refine ⟨?_, rfl⟩
    rw [← hrest, List.drop_left]
  · intro h
    refine ⟨⟨q.remaining, h.remaining.symm⟩, ?_⟩
    exact Reads.unique ⟨by rw [h.remaining, List.drop_left], rfl⟩ h

theorem finish_eq_ok {u : Unit} : p.finish = .ok u ↔ p.remaining = [] := by
  unfold finish
  split
  · next h => simp [h]
  · next h => simp [h]

theorem numberUntil_eq_ok {number : String} : p.numberUntil b = .ok (number, q) ↔
    ∃ text, p.Reads text q ∧ b ∉ text ∧ q.peek = some b ∧ fromUtf8 text = some number := by
  have hstop : ∀ {l : List UInt8}, (∀ c ∈ l, (c != b) = true) ↔ b ∉ l := by
    intro l
    simp only [bne_iff_ne, ne_eq]
    exact ⟨fun h hb => h b hb rfl, fun h c hc heq => h (heq ▸ hc)⟩
  have hread : p.Reads (p.remaining.takeWhile (· != b))
      ⟨p.remaining.dropWhile (· != b), p.pos + (p.remaining.takeWhile (· != b)).length⟩ :=
    ⟨List.takeWhile_append_dropWhile.symm, rfl⟩
  simp only [numberUntil, throw_eq, pure_eq, error_bind, guard_eq_ok]
  constructor
  · rintro ⟨hsome, h⟩
    split at h
    · next number' hutf8 =>
      cases h
      refine ⟨_, hread, hstop.mp fun c hc => List.mem_takeWhile_imp (p := (· != b)) hc, ?_, hutf8⟩
      rw [peek] at hsome ⊢
      cases hrest : p.remaining.dropWhile (· != b) with
      | nil => exact absurd (by rw [hrest]; rfl) hsome
      | cons c rest =>
        have hc := List.head?_dropWhile_not (· != b) p.remaining
        rw [hrest] at hc
        simp only [List.head?_cons, bne_eq_false_iff_eq] at hc ⊢
        rw [hc]
    · cases h
  · rintro ⟨text, htext, hfree, hpeek, hutf8⟩
    obtain ⟨rest, hrest⟩ : ∃ rest, q.remaining = b :: rest := by
      cases hq : q.remaining with
      | nil =>
        rw [peek, hq] at hpeek
        cases hpeek
      | cons c rest =>
        rw [peek, hq] at hpeek
        cases hpeek
        exact ⟨rest, rfl⟩
    have htake : p.remaining.takeWhile (· != b) = text := by
      rw [htext.remaining, hrest, List.takeWhile_append_of_pos (hstop.mpr hfree)]
      simp
    rw [htake] at hread ⊢
    rw [hread.unique htext, hpeek, hutf8]
    exact ⟨Option.some_ne_none _, rfl⟩

/-! ## Tokens -/

/-- Terminators that are told apart from quotes and white space. -/
structure Terminating (terminators : List UInt8) : Prop where
  quote : marks.quote ∉ terminators
  spaces : ∀ b ∈ terminators, isAsciiSpace b = false

theorem Terminating.of_all {terminators : List UInt8} (hquote : marks.quote ∉ terminators)
    (hspaces : (terminators.all fun b => !isAsciiSpace b) = true) : Terminating terminators := by
  refine ⟨hquote, fun b hb => ?_⟩
  have hspace := List.all_eq_true.mp hspaces b hb
  rwa [Bool.not_eq_true'] at hspace

/-- The texts of a token. -/
inductive TokenText (terminators : List UInt8) : List UInt8 → Bool → List UInt8 → Prop
  | quoted {value body spaces : List UInt8} (hbody : Quoted marks value body)
      (hspaces : ∀ b ∈ spaces, isAsciiSpace b = true) :
      TokenText terminators value true (marks.quote :: (body ++ marks.quote :: spaces))
  | bare {value text : List UInt8} (htext : Bare marks terminators.contains value text)
      (hquote : text.head? ≠ some marks.quote) : TokenText terminators value false text

/-- A token has no text, or one that does not start with a terminator. -/
theorem TokenText.starts (hts : Terminating terminators)
    (h : TokenText terminators value quoted text) :
    (quoted = false ∧ value = [] ∧ text = []) ∨ ∃ b rest, text = b :: rest ∧ b ∉ terminators := by
  cases h with
  | quoted => exact .inr ⟨_, _, rfl, hts.quote⟩
  | bare htext hquote =>
    cases htext with
    | nil => exact .inl ⟨rfl, rfl, rfl⟩
    | plain hstops hescape _ => exact .inr ⟨_, _, rfl, by simpa using hstops⟩
    | escaped hstops _ => exact .inr ⟨_, _, rfl, by simpa using hstops⟩

/-- The next byte, if there is one, is a terminator. -/
def Ends (p : TextParser) (terminators : List UInt8) : Prop := ∀ b ∈ p.peek, b ∈ terminators

theorem follows_eq_false : p.follows terminators = false ↔ p.Ends terminators := by
  unfold follows Ends
  cases p.peek <;> simp

theorem behind_eq_ok {result : Except Failure (List UInt8 × List UInt8)} :
    p.behind result = .ok (value, q) ↔ ∃ rest, result = .ok (value, rest) ∧
      q = ⟨rest, p.pos + (p.remaining.length - rest.length)⟩ := by
  unfold behind
  split
  · simp [eq_comm, and_assoc]
  · simp
  · simp

theorem isAsciiSpace_quote : isAsciiSpace marks.quote = false := by decide

theorem closeQuoted_eq_ok (hts : Terminating terminators) : p.closeQuoted terminators = .ok q ↔
    ∃ spaces, (∀ b ∈ spaces, isAsciiSpace b = true) ∧ p.Reads spaces q ∧ q.Ends terminators := by
  have hskip : p.Reads (p.remaining.takeWhile isAsciiSpace) p.skipSpaces :=
    ⟨List.takeWhile_append_dropWhile.symm, rfl⟩
  unfold closeQuoted
  constructor
  · intro h
    split at h
    · split at h
      · cases h
      · next hend =>
        cases h
        refine ⟨_, fun b hb => List.mem_takeWhile_imp hb, hskip, ?_⟩
        exact follows_eq_false.mp (by simpa using hend)
    · next hend =>
      cases h
      exact ⟨[], by simp, .nil, follows_eq_false.mp (by simpa using hend)⟩
  · rintro ⟨spaces, hspaces, hread, hend⟩
    -- a terminator is no white space, so that all of the white space is skipped and no more
    have hdrop : p.remaining.takeWhile isAsciiSpace = spaces := by
      rw [hread.remaining, List.takeWhile_append_of_pos hspaces]
      cases hq : q.remaining with
      | nil => simp
      | cons c rest =>
        have hc : c ∈ terminators := hend c (by rw [peek, hq]; rfl)
        simp [hts.spaces c hc]
    rw [hdrop] at hskip
    have hq := hskip.unique hread
    split
    · rw [hq, if_neg (by simp [follows_eq_false.mpr hend])]
    · next hend' =>
      have hp : p.Ends terminators := follows_eq_false.mp (by simpa using hend')
      cases spaces with
      | nil => rw [Reads.nil.unique hread]
      | cons c spaces =>
        have hc : c ∈ terminators := hp c (by rw [peek, hread.remaining]; rfl)
        exact absurd (hspaces c List.mem_cons_self) (by simp [hts.spaces c hc])

/-- A token is read exactly from its texts before a terminator or the end. -/
theorem token_eq_ok (hts : Terminating terminators) :
    p.token terminators = .ok ((value, quoted), q) ↔
      ∃ text, TokenText terminators value quoted text ∧ p.Reads text q ∧ q.Ends terminators := by
  unfold token
  split
  · next hpeek =>
    obtain ⟨l, hl⟩ : ∃ l, p.remaining = marks.quote :: l := by
      cases hp : p.remaining with
      | nil =>
        rw [peek, hp] at hpeek
        cases hpeek
      | cons c l =>
        rw [peek, hp] at hpeek
        cases hpeek
        exact ⟨l, rfl⟩
    simp only [hl, List.tail_cons, pure_eq, bind_eq_ok, Except.ok.injEq, Prod.mk.injEq]
    constructor
    · rintro ⟨⟨value, q₁⟩, hvalue, q₂, hclose, ⟨rfl, rfl⟩, rfl⟩
      obtain ⟨rest, hquoted, hq₁⟩ := behind_eq_ok.mp hvalue
      obtain ⟨body, hbody, rfl, -⟩ := readQuoted_eq_ok.mp hquoted
      obtain ⟨spaces, hspaces, hread, hend⟩ := (closeQuoted_eq_ok hts).mp hclose
      refine ⟨_, .quoted hbody hspaces, ?_, hend⟩
      have hto : p.Reads (marks.quote :: (body ++ [marks.quote])) q₁ := by
        rw [hq₁]
        constructor
        · rw [hl]
          simp
        · simp only [hl, List.length_cons, List.length_append, List.length_nil]
          omega
      simpa using hto.trans hread
    · rintro ⟨text, htext, hread, hend⟩
      cases htext with
      | bare htext hquote =>
        have hremaining := hread.remaining
        cases htext' : text with
        | nil =>
          rw [htext', List.nil_append] at hremaining
          have hmem := hend marks.quote (by rw [peek, ← hremaining, hl]; rfl)
          exact absurd hmem hts.quote
        | cons c text =>
          rw [hl, htext', List.cons_append, List.cons.injEq] at hremaining
          rw [htext', List.head?_cons, ← hremaining.1] at hquote
          exact absurd rfl hquote
      | @quoted body spaces hbody hspaces =>
        have hsplit : p.Reads ((marks.quote :: (body ++ [marks.quote])) ++ spaces) q := by
          simpa using hread
        obtain ⟨q₁, hto, hfrom⟩ := reads_split.mp hsplit
        have hl' : l = body ++ marks.quote :: q₁.remaining := by
          have := hto.remaining
          rw [hl] at this
          simpa using this
        have hnext : ∀ c ∈ q₁.remaining.head?, c ≠ marks.quote := by
          rintro c hc rfl
          rw [hfrom.remaining] at hc
          cases spaces with
          | nil => exact hts.quote (hend _ hc)
          | cons d spaces =>
            cases hc
            exact absurd (hspaces _ List.mem_cons_self) (by simp [isAsciiSpace_quote])
        have hquoted := hbody.read hnext
        refine ⟨(value, q₁), behind_eq_ok.mpr ⟨_, hl' ▸ hquoted, ?_⟩, q,
          (closeQuoted_eq_ok hts).mpr ⟨spaces, hspaces, hfrom, hend⟩, ⟨rfl, rfl⟩, rfl⟩
        have hpos := hto.pos
        obtain ⟨remaining, pos⟩ := q₁
        simp only at hpos hl'
        simp only [TextParser.mk.injEq, true_and, hpos, hl, hl', List.length_cons,
          List.length_append, List.length_nil]
        omega
  · next hpeek =>
    simp only [pure_eq, bind_eq_ok, Except.ok.injEq, Prod.mk.injEq]
    constructor
    · rintro ⟨⟨value, q₁⟩, hvalue, ⟨rfl, rfl⟩, rfl⟩
      obtain ⟨rest, hbare, rfl⟩ := behind_eq_ok.mp hvalue
      obtain ⟨text, htext, hremaining, hstop⟩ := readBare_eq_ok.mp hbare
      refine ⟨text, .bare htext fun hhead => hpeek ?_, ⟨hremaining, ?_⟩, ?_⟩
      · rw [peek, hremaining]
        cases text with
        | nil => cases hhead
        | cons c text => exact hhead
      · simp only [hremaining, List.length_append]
        omega
      · intro c hc
        simpa using hstop c hc
    · rintro ⟨text, htext, hread, hend⟩
      cases htext with
      | quoted =>
        refine absurd ?_ hpeek
        rw [peek, hread.remaining]
        rfl
      | bare htext hquote =>
        refine ⟨(value, q), behind_eq_ok.mpr ⟨q.remaining, ?_, ?_⟩, ⟨rfl, rfl⟩, rfl⟩
        · rw [hread.remaining]
          apply htext.read
          intro c hc
          simpa using hend c hc
        · refine Reads.unique hread ⟨hread.remaining, ?_⟩
          simp only [hread.remaining, List.length_append]
          omega

end TextParser

end DatabaseSync.PostgresqlSource
