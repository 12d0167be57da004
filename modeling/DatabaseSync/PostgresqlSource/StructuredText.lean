import DatabaseSync.PostgresqlSource.TextParser

/-! # Composites and arrays as text

A composite is printed as its fields between parentheses, an array as its elements between braces.
Both readers run the same loop over the items. They accept exactly the texts that spell a value.
-/

namespace DatabaseSync.PostgresqlSource

open Checked QuotedTokens Text TextParser

/-! ## The readers -/

/-- The loop of `parse_record` and `parse_array_level`: items up to the closing byte. -/
def readItems {β : Type} (item : TextParser → Except TextError (β × TextParser))
    (delimiter closing : UInt8) : ℕ → TextParser → Except TextError (List β × TextParser)
  | 0, _ => .error .exhausted
  | fuel + 1, p => do
    let (first, p) ← item p
    let (b, p) ← p.take
    if b = delimiter then
      let (items, p) ← readItems item delimiter closing fuel p
      return (first :: items, p)
    else if b = closing then return ([first], p)
    else .error .unreachable

/-- `None` is a null. -/
abbrev RawValue := Option (List UInt8)

def recordField (p : TextParser) : Except TextError (RawValue × TextParser) := do
  let ((value, quoted), p) ← p.token [byteOf ',', byteOf ')']
  return (if !quoted && value.isEmpty then none else some value, p)

def parseRecord (bytes : List UInt8) : Except TextError (List RawValue) := do
  let p ← (TextParser.new bytes).consume (byteOf '(')
  if p.peek = some (byteOf ')') then
    let p ← p.consume (byteOf ')')
    p.finish
    return []
  else
    let (fields, p) ← readItems recordField (byteOf ',') (byteOf ')') (bytes.length + 1) p
    p.finish
    return fields

inductive ArrayNode
  | branch (children : List ArrayNode)
  | leaf (value : RawValue)

/-- `eq_ignore_ascii_case(b"NULL")` -/
def isNullWord (value : List UInt8) : Bool :=
  match value with
  | [n, u, l, l'] =>
    (n == byteOf 'N' || n == byteOf 'n') && (u == byteOf 'U' || u == byteOf 'u') &&
      (l == byteOf 'L' || l == byteOf 'l') && (l' == byteOf 'L' || l' == byteOf 'l')
  | _ => false

def arrayLeaf (delimiter : UInt8) (p : TextParser) : Except TextError (ArrayNode × TextParser) := do
  let ((value, quoted), p) ← p.token [delimiter, byteOf '}']
  return (.leaf (if !quoted && isNullWord value then none else some value), p)

/-- The levels below may be as many as the fuel. -/
def parseArrayLevel (delimiter : UInt8) :
    ℕ → TextParser → Except TextError (ArrayNode × TextParser)
  | 0, _ => .error .exhausted
  | fuel + 1, p => do
    let p ← p.consume (byteOf '{')
    if p.peek = some (byteOf '}') then
      let (_, p) ← p.take
      return (.branch [], p)
    else
      let item := fun p : TextParser =>
        if p.peek = some (byteOf '{') then parseArrayLevel delimiter fuel p
        else arrayLeaf delimiter p
      let (items, p) ← readItems item delimiter (byteOf '}') (p.remaining.length + 1) p
      return (.branch items, p)

/-- `parse::<i32>` -/
def readI32 (text : String) : Except TextError ℤ :=
  match parseSigned (2 ^ 31) text with
  | some value => .ok value
  | none => .error .parseInt

/-- The lower bound of one dimension, in brackets with the upper one. -/
def arrayBound (p : TextParser) : Except TextError (ℤ × TextParser) := do
  let (_, p) ← p.take
  let (lower, p) ← p.numberUntil (byteOf ':')
  let p ← p.consume (byteOf ':')
  let (upper, p) ← p.numberUntil (byteOf ']')
  let p ← p.consume (byteOf ']')
  let lower ← readI32 lower
  let upper ← readI32 upper
  if upper - lower + 1 < 0 ∨ 10000000 < upper - lower + 1 then
    throw (.invalid "PostgreSQL array bound has invalid length")
  return (lower, p)

/-- The lower bounds before an array. -/
def arrayBounds : ℕ → TextParser → Except TextError (List ℤ × TextParser)
  | 0, _ => .error .exhausted
  | fuel + 1, p =>
    if p.peek = some (byteOf '[') then do
      let (lower, p) ← arrayBound p
      let (bounds, p) ← arrayBounds fuel p
      return (lower :: bounds, p)
    else .ok ([], p)

/-- Bounds are followed by an equals sign. -/
def afterBounds (bounds : Option (List ℤ)) (p : TextParser) : Except TextError TextParser :=
  if bounds.isSome then p.consume (byteOf '=') else .ok p

def parseArray (bytes : List UInt8) (delimiter : Char) :
    Except TextError (ArrayNode × Option (List ℤ)) := do
  if 0xff < delimiter.toNat then throw (.invalid "PostgreSQL array delimiter is not ASCII")
  let (bounds, p) ← arrayBounds (bytes.length + 1) (TextParser.new bytes)
  let explicitBounds := if bounds = [] then none else some bounds
  let p ← afterBounds explicitBounds p
  let (tree, p) ← parseArrayLevel (byteOf delimiter) (bytes.length + 1) p
  p.finish
  return (tree, explicitBounds)

mutual

def flattenArray : ArrayNode → Except TextError (List ℕ × List RawValue)
  | .leaf value => .ok ([], [value])
  | .branch [] => .ok ([0], [])
  | .branch (child :: children) => do
    let (shape, values) ← flattenArray child
    let flat ← flattenChildren shape children
    return ((children.length + 1) :: shape, values ++ flat)

/-- The values of the children after the first, which must have its shape. -/
def flattenChildren (expectedShape : List ℕ) : List ArrayNode → Except TextError (List RawValue)
  | [] => .ok []
  | child :: children => do
    let (shape, values) ← flattenArray child
    if expectedShape ≠ shape then throw (.invalid "PostgreSQL array value is ragged")
    let flat ← flattenChildren expectedShape children
    return values ++ flat

end

/-! ## The loop over the items -/

variable {p q r : TextParser} {text value : List UInt8} {delimiter closing : UInt8} {fuel bound : ℕ}

section Items
variable {β : Type} {item : TextParser → Except TextError (β × TextParser)}
  {Item : β → List UInt8 → Prop} {items : List β}

/-- What the reader of an item accepts before a byte that ends it. -/
def ReadsItem (item : TextParser → Except TextError (β × TextParser))
    (Item : β → List UInt8 → Prop) (terminators : List UInt8) (bound : ℕ) : Prop :=
  ∀ p b q, p.remaining.length ≤ bound → q.Ends terminators →
    (item p = .ok (b, q) ↔ ∃ text, Item b text ∧ p.Reads text q)

theorem ends_of_reads (terminators : List UInt8) {b : UInt8} (h : p.Reads (b :: text) q)
    (hb : b ∈ terminators) : p.Ends terminators := by
  intro c hc
  rw [peek, h.remaining] at hc
  cases hc
  exact hb

/-- The loop accepts exactly the items with the delimiter between them and the closing byte behind
them. -/
theorem readItems_eq_ok (hdistinct : delimiter ≠ closing)
    (hitem : ReadsItem item Item [delimiter, closing] bound) (hp : p.remaining.length ≤ bound)
    (hfuel : p.remaining.length < fuel) :
    readItems item delimiter closing fuel p = .ok (items, q) ↔
      ∃ text, Separated Item [delimiter] items text ∧ p.Reads (text ++ [closing]) q := by
  induction fuel generalizing p items with
  | zero => omega
  | succ fuel ih =>
    simp only [readItems, pure_eq, bind_eq_ok]
    constructor
    · rintro ⟨⟨b, p₁⟩, hb, ⟨c, p₂⟩, hc, h⟩
      have htake : p₁.Reads [c] p₂ := take_eq_ok.mp hc
      simp only at h
      split at h
      · next hdelimiter =>
        subst hdelimiter
        obtain ⟨⟨rest, p₃⟩, hrest, heq⟩ := bind_eq_ok.mp h
        cases heq
        have hends := ends_of_reads [c, closing] htake (by simp)
        obtain ⟨text, htext, hread⟩ := (hitem _ _ _ hp hends).mp hb
        have hlength := hread.length
        have hlength' := htake.length
        rw [List.length_singleton] at hlength'
        obtain ⟨rest', hseparated, hread'⟩ := (ih (by omega) (by omega)).mp hrest
        refine ⟨_, .cons htext hseparated, ?_⟩
        simpa using (hread.trans htake).trans hread'
      · split at h
        · next hclosing =>
          cases h
          subst hclosing
          have hends := ends_of_reads [delimiter, c] htake (by simp)
          obtain ⟨text, htext, hread⟩ := (hitem _ _ _ hp hends).mp hb
          exact ⟨_, .single htext, hread.trans htake⟩
        · cases h
    · rintro ⟨text, hseparated, hread⟩
      cases hseparated with
      | @single b _ htext =>
        obtain ⟨p₁, hread₁, hread₂⟩ := reads_split.mp hread
        have hends := ends_of_reads [delimiter, closing] hread₂ (by simp)
        refine ⟨(b, p₁), (hitem _ _ _ hp hends).mpr ⟨text, htext, hread₁⟩, (closing, q),
          take_eq_ok.mpr hread₂, ?_⟩
        simp only [if_neg hdistinct.symm, if_pos]
      | @cons b items text rest htext hrest =>
        rw [List.append_assoc, List.append_assoc] at hread
        obtain ⟨p₁, hread₁, hread⟩ := reads_split.mp hread
        obtain ⟨p₂, hread₂, hread₃⟩ := reads_split.mp hread
        have hends := ends_of_reads [delimiter, closing] hread₂ (by simp)
        have hlength := hread₁.length
        have hlength' := hread₂.length
        simp only [List.length_singleton] at hlength'
        refine ⟨(b, p₁), (hitem _ _ _ hp hends).mpr ⟨text, htext, hread₁⟩, (delimiter, p₂),
          take_eq_ok.mpr hread₂, ?_⟩
        simp only
        rw [if_pos trivial, bind_eq_ok]
        exact ⟨(items, q), (ih (by omega) (by omega)).mpr ⟨rest, hrest, hread₃⟩, rfl⟩

end Items

/-! ## Composites -/

/-- The texts of a field of a composite. -/
inductive FieldText : RawValue → List UInt8 → Prop
  | null : FieldText none []
  | value {value text : List UInt8} {quoted : Bool}
      (htext : TokenText [byteOf ',', byteOf ')'] value quoted text)
      (hne : quoted = true ∨ value ≠ []) : FieldText (some value) text

/-- The texts of a composite. That of a single null is the one of no fields. -/
inductive RecordText : List RawValue → List UInt8 → Prop
  | empty : RecordText [] [byteOf '(', byteOf ')']
  | fields {fields : List RawValue} {text : List UInt8}
      (htext : Separated FieldText [byteOf ','] fields text) (hne : fields ≠ [none]) :
      RecordText fields (byteOf '(' :: (text ++ [byteOf ')']))

theorem recordTerminating : Terminating [byteOf ',', byteOf ')'] := by
  apply Terminating.of_all
  · decide
  · decide

theorem recordField_reads : ReadsItem recordField FieldText [byteOf ',', byteOf ')'] bound := by
  intro p field q hp hends
  simp only [recordField, pure_eq, bind_eq_ok, Except.ok.injEq, Prod.mk.injEq]
  constructor
  · rintro ⟨⟨⟨value, quoted⟩, q'⟩, htoken, rfl, rfl⟩
    obtain ⟨text, htext, hread, -⟩ := (token_eq_ok recordTerminating).mp htoken
    refine ⟨text, ?_, hread⟩
    simp only
    split
    · next hnull =>
      obtain ⟨rfl, rfl⟩ : quoted = false ∧ value = [] := by simpa using hnull
      cases htext with
      | bare hbare _ =>
        cases hbare with
        | nil => exact .null
    · next hvalue =>
      refine .value htext ?_
      cases quoted with
      | true => exact .inl rfl
      | false => exact .inr (by simpa using hvalue)
  · rintro ⟨text, hfield, hread⟩
    cases hfield with
    | null =>
      refine ⟨(([], false), q), (token_eq_ok recordTerminating).mpr ⟨[], ?_, hread, hends⟩, rfl,
        rfl⟩
      exact .bare .nil (Option.some_ne_none _).symm
    | @value value _ quoted htext hne =>
      refine ⟨((value, quoted), q), (token_eq_ok recordTerminating).mpr ⟨_, htext, hread, hends⟩,
        ?_, rfl⟩
      simp only
      rw [if_neg]
      rintro hnull
      obtain ⟨rfl, rfl⟩ : quoted = false ∧ value = [] := by simpa using hnull
      exact hne.elim (absurd · Bool.false_ne_true) (absurd rfl)

/-- A field has no text, or one that does not start with a parenthesis. -/
theorem FieldText.starts {field : RawValue} (h : FieldText field text) :
    (field = none ∧ text = []) ∨ ∃ b rest, text = b :: rest ∧ b ≠ byteOf ')' := by
  cases h with
  | null => exact .inl ⟨rfl, rfl⟩
  | value htext hne =>
    obtain ⟨rfl, rfl, rfl⟩ | ⟨b, rest, rfl, hb⟩ := htext.starts recordTerminating
    · exact absurd hne (by simp)
    · refine .inr ⟨b, rest, rfl, ?_⟩
      rintro rfl
      simp at hb

/-- Only the text of a single null starts with the closing parenthesis. -/
theorem fields_starts {fields : List RawValue} (h : Separated FieldText [byteOf ','] fields text) :
    (text ++ [byteOf ')']).head? = some (byteOf ')') ↔ fields = [none] := by
  cases h with
  | single hfield =>
    obtain ⟨rfl, rfl⟩ | ⟨b, rest, rfl, hb⟩ := hfield.starts
    · simp
    · cases hfield with
      | value => simpa using hb
  | cons hfield hrest =>
    obtain ⟨rfl, rfl⟩ | ⟨b, rest, rfl, hb⟩ := hfield.starts
    · simpa using hrest.ne_nil
    · refine iff_of_false ?_ (by simp [hrest.ne_nil])
      simpa using hb

/-- The reader of composites accepts exactly the texts of composites. -/
theorem parseRecord_eq_ok {bytes : List UInt8} {fields : List RawValue} :
    parseRecord bytes = .ok fields ↔ RecordText fields bytes := by
  simp only [parseRecord, pure_eq, bind_eq_ok]
  constructor
  · rintro ⟨p, hopen, h⟩
    have hbytes : bytes = byteOf '(' :: p.remaining := (consume_eq_ok.mp hopen).remaining
    split at h
    · simp only [bind_eq_ok] at h
      obtain ⟨q, hclose, _, hfinish, heq⟩ := h
      cases heq
      have hremaining := (consume_eq_ok.mp hclose).remaining
      rw [finish_eq_ok.mp hfinish] at hremaining
      rw [hbytes, hremaining]
      exact .empty
    · next hpeek =>
      simp only [bind_eq_ok] at h
      obtain ⟨⟨fields, q⟩, hitems, _, hfinish, heq⟩ := h
      cases heq
      have hfuel : p.remaining.length < bytes.length + 1 := by
        rw [hbytes, List.length_cons]
        omega
      obtain ⟨text, htext, hread⟩ :=
        (readItems_eq_ok (by decide) recordField_reads le_rfl hfuel).mp hitems
      have hremaining := hread.remaining
      rw [finish_eq_ok.mp hfinish, List.append_nil] at hremaining
      rw [hbytes, hremaining]
      refine .fields htext fun hnull => hpeek ?_
      rw [peek, hremaining]
      exact (fields_starts htext).mpr hnull
  · intro h
    cases h with
    | empty => exact ⟨⟨[byteOf ')'], 1⟩, rfl, rfl⟩
    | @fields fields text htext hne =>
      obtain ⟨p, hp, hopen⟩ : ∃ p : TextParser, p.remaining = text ++ [byteOf ')'] ∧
          (TextParser.new (byteOf '(' :: (text ++ [byteOf ')']))).Reads [byteOf '('] p :=
        ⟨⟨text ++ [byteOf ')'], 1⟩, rfl, rfl, rfl⟩
      obtain ⟨q, hread, hend⟩ := exists_reads p (hp.trans (List.append_nil _).symm)
      have hpeek : ¬ p.peek = some (byteOf ')') := by
        rw [peek, hp]
        exact fun hhead => hne ((fields_starts htext).mp hhead)
      have hfuel : p.remaining.length < (byteOf '(' :: (text ++ [byteOf ')'])).length + 1 := by
        rw [hp, List.length_cons]
        omega
      have hitems := (readItems_eq_ok (by decide) recordField_reads le_rfl hfuel).mpr
        ⟨text, htext, hread⟩
      refine ⟨_, consume_eq_ok.mpr hopen, ?_⟩
      rw [if_neg hpeek, bind_eq_ok]
      exact ⟨(fields, q), hitems, bind_eq_ok.mpr ⟨(), finish_eq_ok.mpr hend, rfl⟩⟩

/-! ## Arrays -/

/-- The word that stands for a null. -/
def nullWord : List UInt8 := [byteOf 'N', byteOf 'U', byteOf 'L', byteOf 'L']

/-- A delimiter is told apart from the marks of the text of an array. -/
structure Delimits (delimiter : UInt8) : Prop where
  quote : delimiter ≠ marks.quote
  escape : delimiter ≠ marks.escape
  opening : delimiter ≠ byteOf '{'
  closing : delimiter ≠ byteOf '}'
  space : isAsciiSpace delimiter = false
  word : delimiter ∉ nullWord

/-- The texts of an element of an array. The word for a null counts only outside quotes. -/
inductive LeafText (delimiter : UInt8) : RawValue → List UInt8 → Prop
  | null {value text : List UInt8} (htext : TokenText [delimiter, byteOf '}'] value false text)
      (hword : isNullWord value = true) : LeafText delimiter none text
  | value {value text : List UInt8} {quoted : Bool}
      (htext : TokenText [delimiter, byteOf '}'] value quoted text)
      (hword : quoted = true ∨ isNullWord value = false) : LeafText delimiter (some value) text

/-- The texts of a node of an array. That of one empty bare element is the one of no elements. -/
inductive NodeText (delimiter : UInt8) : ArrayNode → List UInt8 → Prop
  | leaf {value : RawValue} {text : List UInt8} (htext : LeafText delimiter value text)
      (hopen : text.head? ≠ some (byteOf '{')) : NodeText delimiter (.leaf value) text
  | empty : NodeText delimiter (.branch []) [byteOf '{', byteOf '}']
  | branch {children : List ArrayNode} {text : List UInt8}
      (htext : Separated (NodeText delimiter) [delimiter] children text) (hne : text ≠ []) :
      NodeText delimiter (.branch children) (byteOf '{' :: (text ++ [byteOf '}']))

theorem Delimits.terminating (h : Delimits delimiter) : Terminating [delimiter, byteOf '}'] := by
  constructor
  · simpa [marks] using h.quote.symm
  · rintro b hb
    obtain rfl | rfl : b = delimiter ∨ b = byteOf '}' := by simpa using hb
    · exact h.space
    · decide

theorem arrayLeaf_reads (hd : Delimits delimiter) {value : RawValue}
    (hends : q.Ends [delimiter, byteOf '}']) :
    arrayLeaf delimiter p = .ok (.leaf value, q) ↔
      ∃ text, LeafText delimiter value text ∧ p.Reads text q := by
  simp only [arrayLeaf, pure_eq, bind_eq_ok, Except.ok.injEq, Prod.mk.injEq, ArrayNode.leaf.injEq]
  constructor
  · rintro ⟨⟨⟨value, quoted⟩, q'⟩, htoken, rfl, rfl⟩
    obtain ⟨text, htext, hread, -⟩ := (token_eq_ok hd.terminating).mp htoken
    refine ⟨text, ?_, hread⟩
    simp only
    split
    · next hnull =>
      obtain ⟨rfl, hword⟩ : quoted = false ∧ isNullWord value = true := by simpa using hnull
      exact .null htext hword
    · next hvalue =>
      refine .value htext ?_
      cases quoted with
      | true => exact .inl rfl
      | false => exact .inr (by simpa using hvalue)
  · rintro ⟨text, hleaf, hread⟩
    cases hleaf with
    | @null value _ htext hword =>
      refine ⟨((value, false), q), (token_eq_ok hd.terminating).mpr ⟨_, htext, hread, hends⟩, ?_,
        rfl⟩
      simp [hword]
    | @value value _ quoted htext hword =>
      refine ⟨((value, quoted), q), (token_eq_ok hd.terminating).mpr ⟨_, htext, hread, hends⟩,
        ?_, rfl⟩
      simp only
      rw [if_neg]
      intro hnull
      obtain ⟨rfl, hword'⟩ : quoted = false ∧ isNullWord value = true := by simpa using hnull
      exact hword.elim (absurd · Bool.false_ne_true) (by simp [hword'])

/-- The text of a node is empty or does not start as the closing brace. -/
theorem NodeText.starts (hd : Delimits delimiter) {node : ArrayNode}
    (h : NodeText delimiter node text) : text.head? ≠ some (byteOf '}') := by
  have hvalue : ∀ {value : List UInt8} {quoted : Bool},
      TokenText [delimiter, byteOf '}'] value quoted text → text.head? ≠ some (byteOf '}') := by
    intro value quoted htext
    obtain ⟨-, -, rfl⟩ | ⟨b, rest, rfl, hb⟩ := htext.starts hd.terminating
    · nofun
    · rintro hhead
      cases hhead
      simp at hb
  cases h with
  | leaf htext hopen =>
    cases htext with
    | null htext hword => exact hvalue htext
    | value htext hword => exact hvalue htext
  | empty => decide
  | branch => simp

theorem items_start (hd : Delimits delimiter) {children : List ArrayNode}
    (h : Separated (NodeText delimiter) [delimiter] children text) :
    text.head? ≠ some (byteOf '}') := by
  cases h with
  | single hnode => exact hnode.starts hd
  | @cons _ _ text rest hnode hrest =>
    cases text with
    | nil => simpa using hd.closing
    | cons b text => exact fun hhead => hnode.starts hd hhead

/-- What the reader of an item of an array accepts, if the levels below are read. -/
theorem arrayItem_reads (hd : Delimits delimiter)
    (hlevel : ∀ p node q, p.remaining.length ≤ bound →
      (parseArrayLevel delimiter fuel p = .ok (node, q) ↔
        ∃ children, node = .branch children ∧
          ∃ text, NodeText delimiter (.branch children) text ∧ p.Reads text q)) :
    ReadsItem (fun p => if p.peek = some (byteOf '{') then parseArrayLevel delimiter fuel p
      else arrayLeaf delimiter p) (NodeText delimiter) [delimiter, byteOf '}'] bound := by
  intro p node q hp hends
  have hopen : byteOf '{' ∉ [delimiter, byteOf '}'] := by
    rintro hmem
    obtain h | h : byteOf '{' = delimiter ∨ byteOf '{' = byteOf '}' := by simpa using hmem
    · exact hd.opening h.symm
    · exact absurd h (by decide)
  -- the text of the node starts at the next byte
  have hhead : ∀ {text : List UInt8}, p.Reads text q →
      (p.peek = some (byteOf '{') ↔ text.head? = some (byteOf '{')) := by
    intro text hread
    rw [peek, hread.remaining]
    cases text with
    | nil =>
      refine iff_of_false (fun h => hopen (hends _ ?_)) (Option.some_ne_none _).symm
      exact h
    | cons b text => rfl
  simp only
  split
  · next hpeek =>
    rw [hlevel p node q hp]
    constructor
    · rintro ⟨children, rfl, htext⟩
      exact htext
    · rintro ⟨text, htext, hread⟩
      cases htext with
      | leaf htext hnot => exact absurd ((hhead hread).mp hpeek) hnot
      | empty => exact ⟨[], rfl, _, .empty, hread⟩
      | branch htext hne => exact ⟨_, rfl, _, .branch htext hne, hread⟩
  · next hpeek =>
    constructor
    · intro h
      obtain ⟨value, rfl⟩ : ∃ value, node = .leaf value := by
        simp only [arrayLeaf, pure_eq, bind_eq_ok, Except.ok.injEq, Prod.mk.injEq] at h
        obtain ⟨_, _, rfl, _⟩ := h
        exact ⟨_, rfl⟩
      obtain ⟨text, htext, hread⟩ := (arrayLeaf_reads hd hends).mp h
      exact ⟨text, .leaf htext fun hnot => hpeek ((hhead hread).mpr hnot), hread⟩
    · rintro ⟨text, htext, hread⟩
      cases htext with
      | leaf htext hnot => exact (arrayLeaf_reads hd hends).mpr ⟨text, htext, hread⟩
      | empty => exact absurd ((hhead hread).mpr rfl) hpeek
      | branch htext hne => exact absurd ((hhead hread).mpr rfl) hpeek

/-- A level of an array is read exactly from its texts. -/
theorem parseArrayLevel_eq_ok (hd : Delimits delimiter) {node : ArrayNode}
    (hfuel : p.remaining.length < fuel) :
    parseArrayLevel delimiter fuel p = .ok (node, q) ↔
      ∃ children, node = .branch children ∧
        ∃ text, NodeText delimiter (.branch children) text ∧ p.Reads text q := by
  induction fuel generalizing p node q with
  | zero => omega
  | succ fuel ih =>
    simp only [parseArrayLevel, pure_eq, bind_eq_ok]
    constructor
    · rintro ⟨p₁, hopen, h⟩
      replace hopen : p.Reads [byteOf '{'] p₁ := consume_eq_ok.mp hopen
      have hlength := hopen.length
      rw [List.length_singleton] at hlength
      split at h
      · next hpeek =>
        obtain ⟨⟨b, p₂⟩, hclose, heq⟩ := bind_eq_ok.mp h
        cases heq
        have hread := take_eq_ok.mp hclose
        rw [peek, hread.remaining] at hpeek
        cases hpeek
        exact ⟨[], rfl, _, .empty, hopen.trans hread⟩
      · next hpeek =>
        obtain ⟨⟨children, p₂⟩, hitems, heq⟩ := bind_eq_ok.mp h
        cases heq
        have hitem := arrayItem_reads hd fun p' node' q' (hp' : _ ≤ p₁.remaining.length) =>
          @ih p' q' node' (by omega)
        obtain ⟨text, htext, hread⟩ :=
          (readItems_eq_ok hd.closing hitem le_rfl (Nat.lt_succ_self _)).mp hitems
        refine ⟨children, rfl, _, .branch htext ?_, hopen.trans hread⟩
        rintro rfl
        rw [peek, hread.remaining] at hpeek
        exact hpeek rfl
    · rintro ⟨children, rfl, text, htext, hread⟩
      cases htext with
      | empty =>
        obtain ⟨p₁, hopen, hclose⟩ := reads_cons.mp hread
        refine ⟨p₁, consume_eq_ok.mpr hopen, ?_⟩
        rw [if_pos (by rw [peek, hclose.remaining]; rfl), bind_eq_ok]
        exact ⟨_, take_eq_ok.mpr hclose, rfl⟩
      | @branch _ text htext hne =>
        obtain ⟨p₁, hopen, hrest⟩ := reads_cons.mp hread
        have hlength := hopen.length
        rw [List.length_singleton] at hlength
        have hpeek : p₁.peek ≠ some (byteOf '}') := by
          rw [peek, hrest.remaining]
          have hstart := items_start hd htext
          cases text with
          | nil => exact absurd rfl hne
          | cons b text => exact hstart
        have hitem := arrayItem_reads hd fun p' node' q' (hp' : _ ≤ p₁.remaining.length) =>
          @ih p' q' node' (by omega)
        have hitems := (readItems_eq_ok hd.closing hitem le_rfl (Nat.lt_succ_self _)).mpr
          ⟨text, htext, hrest⟩
        refine ⟨p₁, consume_eq_ok.mpr hopen, ?_⟩
        rw [if_neg hpeek, bind_eq_ok]
        exact ⟨_, hitems, rfl⟩

/-- The texts of the bounds of a dimension. Only the lower one is kept. -/
inductive BoundText : ℤ → List UInt8 → Prop
  | bound {first second : List UInt8} {lowerText upperText : String} {lower upper : ℤ}
      (hlowerText : fromUtf8 first = some lowerText)
      (hlower : parseSigned (2 ^ 31) lowerText = some lower)
      (hupperText : fromUtf8 second = some upperText)
      (hupper : parseSigned (2 ^ 31) upperText = some upper)
      (hcolon : byteOf ':' ∉ first) (hbracket : byteOf ']' ∉ second)
      (hlength : 0 ≤ upper - lower + 1 ∧ upper - lower + 1 ≤ 10000000) :
      BoundText lower (byteOf '[' :: (first ++ (byteOf ':' :: (second ++ [byteOf ']']))))

inductive BoundsText : List ℤ → List UInt8 → Prop
  | nil : BoundsText [] []
  | cons {lower : ℤ} {bounds : List ℤ} {text rest : List UInt8} (hbound : BoundText lower text)
      (hrest : BoundsText bounds rest) : BoundsText (lower :: bounds) (text ++ rest)

theorem readI32_eq_ok {text : String} {value : ℤ} :
    readI32 text = .ok value ↔ parseSigned (2 ^ 31) text = some value := by
  unfold readI32
  split
  · next h => rw [h, Except.ok.injEq, Option.some.injEq]
  · next h => exact iff_of_false nofun (by rw [h]; nofun)

theorem arrayBound_eq_ok {lower : ℤ} (hpeek : p.peek = some (byteOf '[')) :
    arrayBound p = .ok (lower, q) ↔ ∃ text, BoundText lower text ∧ p.Reads text q := by
  simp only [arrayBound, throw_eq, pure_eq, error_bind, bind_eq_ok, guard_eq_ok, readI32_eq_ok,
    Except.ok.injEq, Prod.mk.injEq]
  constructor
  · rintro ⟨⟨b, p₁⟩, hopen, ⟨lowerText, p₂⟩, hlowerText, p₃, hcolon, ⟨upperText, p₄⟩, hupperText,
      p₅, hclose, lower, hlower, upper, hupper, hlength, rfl, rfl⟩
    replace hopen : p.Reads [b] p₁ := take_eq_ok.mp hopen
    obtain ⟨first, hfirst, hfree, -, hutf8⟩ := numberUntil_eq_ok.mp hlowerText
    replace hcolon : p₂.Reads [byteOf ':'] p₃ := consume_eq_ok.mp hcolon
    obtain ⟨second, hsecond, hfree', -, hutf8'⟩ := numberUntil_eq_ok.mp hupperText
    replace hclose : p₄.Reads [byteOf ']'] p₅ := consume_eq_ok.mp hclose
    obtain rfl : b = byteOf '[' := by
      rw [peek, hopen.remaining] at hpeek
      exact Option.some.inj hpeek
    refine ⟨_, .bound hutf8 hlower hutf8' hupper hfree hfree' (by omega), ?_⟩
    exact hopen.trans (hfirst.trans (hcolon.trans (hsecond.trans hclose)))
  · rintro ⟨text, htext, hread⟩
    cases htext with
    | @bound first second lowerText upperText _ upper hlowerText hlower hupperText hupper hcolon
        hbracket hlength =>
      obtain ⟨p₁, hopen, hread⟩ := reads_cons.mp hread
      obtain ⟨p₂, hfirst, hread⟩ := reads_split.mp hread
      obtain ⟨p₃, hmiddle, hread⟩ := reads_cons.mp hread
      obtain ⟨p₄, hsecond, hclose⟩ := reads_split.mp hread
      have hstop : p₂.peek = some (byteOf ':') := by rw [peek, hmiddle.remaining]; rfl
      have hstop' : p₄.peek = some (byteOf ']') := by rw [peek, hclose.remaining]; rfl
      exact ⟨(_, p₁), take_eq_ok.mpr hopen,
        (lowerText, p₂), numberUntil_eq_ok.mpr ⟨_, hfirst, hcolon, hstop, hlowerText⟩,
        p₃, consume_eq_ok.mpr hmiddle,
        (upperText, p₄), numberUntil_eq_ok.mpr ⟨_, hsecond, hbracket, hstop', hupperText⟩,
        q, consume_eq_ok.mpr hclose, lower, hlower, upper, hupper, by omega, rfl, rfl⟩

theorem arrayBounds_eq_ok {bounds : List ℤ} (hfuel : p.remaining.length < fuel) :
    arrayBounds fuel p = .ok (bounds, q) ↔
      q.peek ≠ some (byteOf '[') ∧ ∃ text, BoundsText bounds text ∧ p.Reads text q := by
  induction fuel generalizing p bounds with
  | zero => omega
  | succ fuel ih =>
    rw [arrayBounds]
    split
    · next hpeek =>
      simp only [pure_eq, bind_eq_ok, Except.ok.injEq, Prod.mk.injEq]
      constructor
      · rintro ⟨⟨lower, p₁⟩, hbound, ⟨bounds, p₂⟩, hbounds, rfl, rfl⟩
        obtain ⟨text, htext, hread⟩ := (arrayBound_eq_ok hpeek).mp hbound
        have hlength := hread.length
        have hpos : 0 < text.length := by
          cases htext with
          | bound => simp
        have hless : p₁.remaining.length < fuel := by omega
        obtain ⟨hend, rest, hrest, hread'⟩ := (ih hless).mp hbounds
        exact ⟨hend, _, .cons htext hrest, hread.trans hread'⟩
      · rintro ⟨hend, text, htext, hread⟩
        cases htext with
        | nil =>
          rw [Reads.unique .nil hread] at hpeek
          exact absurd hpeek hend
        | cons hbound hrest =>
          obtain ⟨p₁, hfirst, hread⟩ := reads_split.mp hread
          have hlength := hfirst.length
          have hless : p₁.remaining.length < fuel := by
            cases hbound with
            | bound =>
              rw [List.length_cons] at hlength
              omega
          exact ⟨_, (arrayBound_eq_ok hpeek).mpr ⟨_, hbound, hfirst⟩, _,
            (ih hless).mpr ⟨hend, _, hrest, hread⟩, rfl, rfl⟩
    · next hpeek =>
      rw [Except.ok.injEq, Prod.mk.injEq]
      constructor
      · rintro ⟨rfl, rfl⟩
        exact ⟨hpeek, [], .nil, .nil⟩
      · rintro ⟨hend, text, htext, hread⟩
        cases htext with
        | nil => exact ⟨rfl, Reads.unique .nil hread⟩
        | cons hbound hrest =>
          cases hbound with
          | bound =>
            rw [peek, hread.remaining] at hpeek
            exact absurd rfl hpeek

/-- The texts of an array, with or without bounds. -/
inductive ArrayText (delimiter : UInt8) : ArrayNode → Option (List ℤ) → List UInt8 → Prop
  | plain {children : List ArrayNode} {text : List UInt8}
      (htext : NodeText delimiter (.branch children) text) :
      ArrayText delimiter (.branch children) none text
  | bounded {children : List ArrayNode} {bounds : List ℤ} {first text : List UInt8}
      (hne : bounds ≠ []) (hbounds : BoundsText bounds first)
      (htext : NodeText delimiter (.branch children) text) :
      ArrayText delimiter (.branch children) (some bounds) (first ++ byteOf '=' :: text)

/-- A level starts with the opening brace. -/
theorem NodeText.branch_starts {children : List ArrayNode}
    (h : NodeText delimiter (.branch children) text) : ∃ rest, text = byteOf '{' :: rest := by
  cases h with
  | empty => exact ⟨_, rfl⟩
  | branch => exact ⟨_, rfl⟩

/-- The reader of arrays accepts exactly the texts of arrays. -/
theorem parseArray_eq_ok {bytes : List UInt8} {d : Char} {tree : ArrayNode}
    {bounds : Option (List ℤ)} (hascii : d.toNat ≤ 0xff) (hd : Delimits (byteOf d)) :
    parseArray bytes d = .ok (tree, bounds) ↔ ArrayText (byteOf d) tree bounds bytes := by
  have hnew : ∀ {text : List UInt8} {q : TextParser}, (TextParser.new bytes).Reads text q →
      q.remaining.length < bytes.length + 1 := by
    intro text q hread
    have hlength := hread.length
    rw [TextParser.new] at hlength
    simp only at hlength
    omega
  have hwhole : ∀ {text : List UInt8} {q : TextParser}, (TextParser.new bytes).Reads text q →
      q.remaining = [] → bytes = text := by
    intro text q hread hend
    have hbytes := hread.remaining
    rw [hend, List.append_nil] at hbytes
    exact hbytes
  simp only [parseArray, throw_eq, pure_eq, error_bind, guard_eq_ok, bind_eq_ok, Except.ok.injEq,
    Prod.mk.injEq]
  constructor
  · rintro ⟨-, ⟨lowers, p₁⟩, hlowers, p₂, hequals, ⟨tree, p₃⟩, hlevel, _, hfinish, rfl, rfl⟩
    obtain ⟨-, first, hbounds, hfirst⟩ := (arrayBounds_eq_ok (Nat.lt_succ_self _)).mp hlowers
    have hend : p₃.remaining = [] := finish_eq_ok.mp hfinish
    simp only [afterBounds] at hequals hlevel ⊢
    cases hbounds with
    | nil =>
      cases hequals
      obtain ⟨children, rfl, text, htext, hread⟩ :=
        (parseArrayLevel_eq_ok hd (hnew hfirst)).mp hlevel
      rw [hwhole (hfirst.trans hread) hend]
      exact .plain htext
    | cons hbound hrest =>
      have hread := hfirst.trans (consume_eq_ok.mp hequals)
      obtain ⟨children, rfl, text, htext, hread'⟩ :=
        (parseArrayLevel_eq_ok hd (hnew hread)).mp hlevel
      rw [hwhole (hread.trans hread') hend, List.append_assoc]
      exact .bounded (List.cons_ne_nil _ _) (.cons hbound hrest) htext
  · intro h
    refine ⟨by omega, ?_⟩
    cases h with
    | @plain children _ htext =>
      obtain ⟨q, hread, hend⟩ := exists_reads (TextParser.new bytes) (List.append_nil _).symm
      obtain ⟨rest, hopen⟩ := htext.branch_starts
      have hpeek : (TextParser.new bytes).peek ≠ some (byteOf '[') := by
        rw [peek, TextParser.new, hopen]
        simp
      refine ⟨([], .new bytes), (arrayBounds_eq_ok (Nat.lt_succ_self _)).mpr
        ⟨hpeek, [], .nil, .nil⟩, .new bytes, rfl, (.branch children, q), ?_, (), ?_, rfl, rfl⟩
      · exact (parseArrayLevel_eq_ok hd (hnew .nil)).mpr ⟨children, rfl, _, htext, hread⟩
      · exact finish_eq_ok.mpr hend
    | @bounded children bounds first text hne hbounds htext =>
      obtain ⟨q, hread, hend⟩ := exists_reads (TextParser.new (first ++ byteOf '=' :: text))
        (List.append_nil _).symm
      obtain ⟨p₁, hfirst, hread⟩ := reads_split.mp hread
      obtain ⟨p₂, hequals, hread⟩ := reads_cons.mp hread
      have hpeek : p₁.peek ≠ some (byteOf '[') := by
        rw [peek, hequals.remaining]
        simp
      refine ⟨(bounds, p₁), (arrayBounds_eq_ok (Nat.lt_succ_self _)).mpr
        ⟨hpeek, first, hbounds, hfirst⟩, p₂, ?_, (.branch children, q), ?_, (), ?_, rfl, ?_⟩
      · simp only [afterBounds, if_neg hne]
        exact consume_eq_ok.mpr hequals
      · exact (parseArrayLevel_eq_ok hd (hnew (hfirst.trans hequals))).mpr
          ⟨children, rfl, _, htext, hread⟩
      · exact finish_eq_ok.mpr hend
      · simp only [if_neg hne]

end DatabaseSync.PostgresqlSource
