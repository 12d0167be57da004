import DatabaseSync.PostgresqlSource.RangeText
import DatabaseSync.PostgresqlSource.Spatial
import DatabaseSync.PostgresqlSource.TypeClosure

/-! # Values of the types of a catalog

The text of a value is decoded along the definition of its type, down to the builtin types. What
PostgreSQL prints for a value is decoded as this value, as long as the definitions are not nested
too deep.
-/

namespace DatabaseSync.PostgresqlSource

open ChangeEvent Checked QuotedTokens Text TextParser

/-! ## The decoder -/

/-- Decodes the text of a value of a type, which is given by its OID and a name. -/
abbrev ValueDecoder := ℕ → String → List UInt8 → Except TextError LogicalValue

/-- `map_err` with a message around the error. A panic is no error. -/
def TextError.inside (message : String) : TextError → TextError
  | .unreachable => .unreachable
  | .exhausted => .exhausted
  | error => .within message error

def ofPgError : PgError → TextError
  | .invalid message => .invalid message
  | .tryFromInt => .parseInt
  | .rejected message => .invalid message

section Decoder
variable (catalog : SourceTypeCatalog) (decode bounds : ValueDecoder)

def lookup (oid : ℕ) (message : String) : Except TextError SourceTypeDefinition :=
  match findDefinition catalog.types oid with
  | some definition => .ok definition
  | none => .error (.invalid message)

def decodeField (field : SourceTypeField) : RawValue → Except TextError (String × LogicalValue)
  | none => .ok (field.name, .null)
  | some raw => do
    let fieldType ← lookup catalog field.typeOid
      ("PostgreSQL composite field " ++ field.name ++ " has an unknown type OID")
    return (field.name, ← decode field.typeOid fieldType.name raw)

def decodeComposite (definition : SourceTypeDefinition) (fields : List SourceTypeField)
    (bytes : List UInt8) : Except TextError LogicalValue := do
  let values ← (parseRecord bytes).mapError (TextError.inside ("PostgreSQL composite " ++
    definition.schema ++ "." ++ definition.name ++ " could not be decoded: "))
  -- the text of a single null has no fields
  let values := if values.isEmpty && fields.length == 1 then [none] else values
  if values.length ≠ fields.length then
    throw (.invalid ("PostgreSQL composite " ++ definition.schema ++ "." ++ definition.name ++
      " field count mismatch"))
  let decoded ← (fields.zip values).mapM fun (field, raw) => decodeField catalog decode field raw
  return .struct decoded

def decodeElement (elementOid : ℕ) (name : String) : RawValue → Except TextError LogicalValue
  | none => .ok .null
  | some raw => decode elementOid name raw

/-- An array of one dimension from one on needs no metadata. -/
def arrayValue (elements : List LogicalValue) (lowerBounds : List ℤ) (lengths : List ℕ) :
    LogicalValue :=
  if lengths.length ≤ 1 ∧ lowerBounds.head?.all (· == 1) then .array elements
  else .arrayWithMetadata elements lengths.length lowerBounds lengths

def decodeArray (definition : SourceTypeDefinition) (elementOid : ℕ) (delimiter : Char)
    (bytes : List UInt8) : Except TextError LogicalValue := do
  let elementType ← lookup catalog elementOid ("PostgreSQL array " ++ definition.schema ++ "." ++
    definition.name ++ " has an unknown element type")
  let (tree, lowerBounds) ← (parseArray bytes delimiter).mapError (TextError.inside
    ("PostgreSQL array " ++ definition.schema ++ "." ++ definition.name ++
      " could not be decoded: "))
  let (lengths, raws) ← flattenArray tree
  if 255 < lengths.length then
    throw (.invalid "PostgreSQL array dimension count exceeds 255")
  let lowerBounds :=
    if lengths.isEmpty then [] else lowerBounds.getD (List.replicate lengths.length 1)
  if lowerBounds.length ≠ lengths.length then
    throw (.invalid "PostgreSQL array bounds and dimensions disagree")
  let elements ← raws.mapM (decodeElement decode elementOid elementType.name)
  return arrayValue elements lowerBounds lengths

def decodeBound (subtypeOid : ℕ) (subtypeName : String) :
    RawValue → Except TextError (Option LogicalValue)
  | none => .ok none
  | some raw => do return some (← decode subtypeOid subtypeName raw)

def decodeRange (subtypeOid : ℕ) (subtypeName : String) (bytes : List UInt8) :
    Except TextError LogicalValue := do
  match ← rangeBounds bytes with
  | none => return .range true none none false false
  | some r =>
    let lower ← decodeBound decode subtypeOid subtypeName r.lower
    let upper ← decodeBound decode subtypeOid subtypeName r.upper
    return .range false lower upper r.lowerInclusive r.upperInclusive

/-- A value along its definition. The parts of a value are decoded one level below, the bounds of
its ranges two. -/
def decodeDefinition (builtin : ValueDecoder) (definition : SourceTypeDefinition) (oid : ℕ)
    (nativeType : String) (bytes : List UInt8) : Except TextError LogicalValue :=
  match definition.kind with
  | .pseudo => .error (.invalid ("PostgreSQL pseudo-type " ++ definition.schema ++ "." ++
      definition.name ++ " cannot appear as a stored row value"))
  | .builtin _ => builtin oid nativeType bytes
  | .enum labels =>
    match fromUtf8 bytes with
    | none => .error .utf8
    | some label =>
      if labels.contains label then .ok (.enum label)
      else .error (.invalid ("PostgreSQL enum " ++ definition.schema ++ "." ++ definition.name ++
        " contains an undeclared label"))
  | .domain baseOid _ _ => do
    let base ← lookup catalog baseOid ("PostgreSQL domain " ++ definition.schema ++ "." ++
      definition.name ++ " has a missing base type")
    return .domain (← decode baseOid base.name bytes)
  | .composite fields => decodeComposite catalog decode definition fields bytes
  | .array elementOid delimiter => decodeArray catalog decode definition elementOid delimiter bytes
  | .range subtypeOid => do
    let subtype ← lookup catalog subtypeOid ("PostgreSQL range " ++ definition.schema ++ "." ++
      definition.name ++ " has an unknown subtype")
    decodeRange bounds subtypeOid subtype.name bytes
  | .multiRange rangeOid => do
    let range ← lookup catalog rangeOid ("PostgreSQL multirange " ++ definition.schema ++ "." ++
      definition.name ++ " has an unknown range type")
    match range.kind with
    | .range subtypeOid =>
      let subtype ← lookup catalog subtypeOid "PostgreSQL multirange subtype is missing"
      let items ← multirangeItems bytes
      return .multiRange (← items.mapM (decodeRange bounds subtypeOid subtype.name))
    | _ => throw (.invalid "PostgreSQL multirange catalog entry does not refer to a range")
  | .extension extension _ _ _ =>
    if eqIgnoreAsciiCase extension "hstore" && definition.name == "hstore" then decodeHstore bytes
    else if eqIgnoreAsciiCase extension "postgis" &&
        ["geometry", "geography"].contains definition.name then
      (decodePostgisEwkb bytes).mapError ofPgError
    else .error (.invalid ("PostgreSQL extension type " ++ definition.schema ++ "." ++
      definition.name ++ " has no qualified semantic codec"))

end Decoder

/-- The decoder with the levels that are left, of which the first call has 65. -/
def decodeCatalogValue (catalog : SourceTypeCatalog) (builtin : ValueDecoder) : ℕ → ValueDecoder
  | 0 => fun _ _ _ => .error (.invalid "PostgreSQL recursive value exceeds the 64-level limit")
  | 1 => fun oid nativeType bytes => do
    let definition ← lookup catalog oid ("PostgreSQL type catalog is missing OID " ++ toString oid)
    decodeDefinition catalog (decodeCatalogValue catalog builtin 0)
      (decodeCatalogValue catalog builtin 0) builtin definition oid nativeType bytes
  | levels + 2 => fun oid nativeType bytes => do
    let definition ← lookup catalog oid ("PostgreSQL type catalog is missing OID " ++ toString oid)
    decodeDefinition catalog (decodeCatalogValue catalog builtin (levels + 1))
      (decodeCatalogValue catalog builtin levels) builtin definition oid nativeType bytes

def decodeCatalogColumn (catalog : SourceTypeCatalog) (builtin : ValueDecoder) : ValueDecoder :=
  decodeCatalogValue catalog builtin 65

/-! ## What PostgreSQL prints for a value -/

/-- Which text is printed for a value of a type. -/
abbrev Printing := ℕ → String → LogicalValue → List UInt8 → Prop

/-- A null has no text. -/
inductive RawPrinted (P : LogicalValue → List UInt8 → Prop) : LogicalValue → RawValue → Prop
  | null : RawPrinted P .null none
  | value {value : LogicalValue} {text : List UInt8} (h : P value text) :
      RawPrinted P value (some text)

/-- A bound that a range does not have has no text. -/
inductive BoundPrinted (P : LogicalValue → List UInt8 → Prop) :
    Option LogicalValue → RawValue → Prop
  | unbounded : BoundPrinted P none none
  | bound {value : LogicalValue} {text : List UInt8} (h : P value text) :
      BoundPrinted P (some value) (some text)

section Printing
variable (catalog : SourceTypeCatalog) (inner bounds : Printing)

/-- A field of a composite is printed along its type. -/
def FieldPrinted (field : SourceTypeField) (entry : String × LogicalValue) (raw : RawValue) :
    Prop :=
  entry.1 = field.name ∧ RawPrinted (fun value text => ∃ fieldType,
    findDefinition catalog.types field.typeOid = some fieldType ∧
      inner field.typeOid fieldType.name value text) entry.2 raw

def CompositePrinted (fields : List SourceTypeField) (value : LogicalValue) (text : List UInt8) :
    Prop :=
  ∃ (entries : List (String × LogicalValue)) (raws : List RawValue),
    value = .struct entries ∧ text = recordOut raws ∧ fields.length = raws.length ∧
      List.Forall₂ (fun (field, raw) entry => FieldPrinted catalog inner field entry raw)
        (fields.zip raws) entries

/-- An array is printed as the tree of its elements. One without elements has no dimensions. -/
inductive ArrayPrinted (elementOid : ℕ) (delimiter : Char) : LogicalValue → List UInt8 → Prop
  | empty : ArrayPrinted elementOid delimiter (.array []) [byteOf '{', byteOf '}']
  | elements {elementType : SourceTypeDefinition} {lowerBounds : List ℤ} {lengths : List ℕ}
      {tree : ArrayNode} {raws : List RawValue} {elements : List LogicalValue}
      (htype : findDefinition catalog.types elementOid = some elementType)
      (htree : Rect lengths tree raws) (hfit : BoundsFit lowerBounds lengths)
      (hdimensions : lengths ≠ [] ∧ lengths.length ≤ 255)
      (helements : List.Forall₂ (RawPrinted (inner elementOid elementType.name)) elements raws) :
      ArrayPrinted elementOid delimiter (arrayValue elements lowerBounds lengths)
        (arrayOut (byteOf delimiter) lowerBounds lengths tree)

inductive RangePrinted (subtypeOid : ℕ) (name : String) : LogicalValue → List UInt8 → Prop
  | empty : RangePrinted subtypeOid name (.range true none none false false)
      ("empty".toList.map byteOf)
  | bounds {r : RangeBounds} {lower upper : Option LogicalValue}
      (hlower : BoundPrinted (bounds subtypeOid name) lower r.lower)
      (hupper : BoundPrinted (bounds subtypeOid name) upper r.upper)
      (hutf8 : fromUtf8 (rangeOut r) ≠ none) :
      RangePrinted subtypeOid name (.range false lower upper r.lowerInclusive r.upperInclusive)
        (rangeOut r)

/-- The ranges of a multirange are not empty. -/
def MultiRangePrinted (subtypeOid : ℕ) (name : String) (value : LogicalValue) (text : List UInt8) :
    Prop :=
  ∃ (ranges : List LogicalValue) (rs : List RangeBounds), value = .multiRange ranges ∧
    text = multirangeOut (rs.map rangeOut) ∧ fromUtf8 text ≠ none ∧
      List.Forall₂ (fun r range => RangePrinted bounds subtypeOid name range (rangeOut r)) rs ranges

/-- What is printed for a value along its definition. -/
def DefinitionPrinted (builtin : ValueDecoder) (definition : SourceTypeDefinition) (oid : ℕ)
    (nativeType : String) (value : LogicalValue) (text : List UInt8) : Prop :=
  match definition.kind with
  | .pseudo => False
  | .builtin _ => builtin oid nativeType text = .ok value
  | .enum labels => ∃ label ∈ labels, value = .enum label ∧ text = JsonText.utf8 label.toList
  | .domain baseOid _ _ => ∃ base inside, findDefinition catalog.types baseOid = some base ∧
      value = .domain inside ∧ inner baseOid base.name inside text
  | .composite fields => CompositePrinted catalog inner fields value text
  | .array elementOid delimiter => delimiter.toNat ≤ 0xff ∧ Delimits (byteOf delimiter) ∧
      (findDefinition catalog.types elementOid).isSome ∧
        ArrayPrinted catalog inner elementOid delimiter value text
  | .range subtypeOid => ∃ subtype, findDefinition catalog.types subtypeOid = some subtype ∧
      RangePrinted bounds subtypeOid subtype.name value text
  | .multiRange rangeOid => ∃ range subtypeOid subtype,
      findDefinition catalog.types rangeOid = some range ∧ range.kind = .range subtypeOid ∧
        findDefinition catalog.types subtypeOid = some subtype ∧
          MultiRangePrinted bounds subtypeOid subtype.name value text
  | .extension extension _ _ _ =>
    if eqIgnoreAsciiCase extension "hstore" && definition.name == "hstore" then
      ∃ entries, value = .map (entries.map mapEntryOf) ∧ text = hstoreOut entries
    else EwkbPrinted value text ∧ eqIgnoreAsciiCase extension "postgis" = true ∧
      ["geometry", "geography"].contains definition.name = true

end Printing

/-- What is printed for a value of a type with no more than so many levels. -/
def Printed (catalog : SourceTypeCatalog) (builtin : ValueDecoder) : ℕ → Printing
  | 0 => fun _ _ _ _ => False
  | 1 => fun oid nativeType value text => ∃ definition,
      findDefinition catalog.types oid = some definition ∧
        DefinitionPrinted catalog (Printed catalog builtin 0) (Printed catalog builtin 0) builtin
          definition oid nativeType value text
  | levels + 2 => fun oid nativeType value text => ∃ definition,
      findDefinition catalog.types oid = some definition ∧
        DefinitionPrinted catalog (Printed catalog builtin (levels + 1))
          (Printed catalog builtin levels) builtin definition oid nativeType value text

/-! ## Decoding what is printed -/

variable {catalog : SourceTypeCatalog} {inner bounds : Printing}
  {decode decodeBounds builtin : ValueDecoder} {definition : SourceTypeDefinition} {oid : ℕ}
  {nativeType : String} {value : LogicalValue}
  {text : List UInt8}

/-- The decoder answers the value for every text that is printed. -/
def Inverts (decode : ValueDecoder) (printing : Printing) : Prop :=
  ∀ oid nativeType value text, printing oid nativeType value text →
    decode oid nativeType text = .ok value

theorem lookup_eq_ok {message : String} (h : findDefinition catalog.types oid = some definition) :
    lookup catalog oid message = .ok definition := by
  rw [lookup, h]

theorem mapM_forall₂ {α β ε : Type} {f : α → Except ε β} {R : α → β → Prop} {l : List α}
    {l' : List β} (hf : ∀ a b, R a b → f a = .ok b) (h : List.Forall₂ R l l') :
    l.mapM f = .ok l' :=
  mapM_ok_of_forall₂ (h.imp hf)

theorem composite_reads (h : Inverts decode inner) {fields : List SourceTypeField}
    (hprinted : CompositePrinted catalog inner fields value text) :
    decodeComposite catalog decode definition fields text = .ok value := by
  obtain ⟨entries, raws, rfl, rfl, hlength, hentries⟩ := hprinted
  -- the single null that reads as no fields is put back
  have hfields : (if (if raws = [none] then [] else raws).isEmpty && fields.length == 1 then [none]
      else if raws = [none] then [] else raws) = raws := by
    by_cases hnull : raws = [none]
    · subst hnull
      simp [hlength]
    · rw [if_neg hnull]
      cases raws with
      | nil => simp [hlength]
      | cons raw raws => rfl
  have hdecoded : (fields.zip raws).mapM
      (fun (field, raw) => decodeField catalog decode field raw) = .ok entries := by
    refine mapM_forall₂ ?_ hentries
    rintro ⟨field, raw⟩ ⟨name, value⟩ ⟨hname, hraw⟩
    obtain rfl : name = field.name := hname
    cases hraw with
    | null => rfl
    | value hvalue =>
      obtain ⟨fieldType, htype, hprinted⟩ := hvalue
      simp only [decodeField, lookup_eq_ok htype, ok_bind, h _ _ _ _ hprinted]
      rfl
  simp only [decodeComposite, parseRecord_recordOut, Except.mapError, ok_bind, hfields, throw_eq,
    error_bind, guard_eq_ok]
  refine ⟨not_ne_iff.mpr hlength.symm, ?_⟩
  rw [hdecoded]
  rfl

theorem boundsFit_length {lowerBounds : List ℤ} {lengths : List ℕ}
    (h : BoundsFit lowerBounds lengths) : lowerBounds.length = lengths.length :=
  List.Forall₂.length_eq h

/-- Bounds that are not printed are all one. -/
theorem printed_bounds {lowerBounds : List ℤ} {n : ℕ} (hlength : lowerBounds.length = n) :
    (if lowerBounds.all (· == 1) then none else some lowerBounds).getD (List.replicate n 1) =
      lowerBounds := by
  split
  · next hone =>
    rw [Option.getD_none, eq_comm, List.eq_replicate_iff]
    exact ⟨hlength, fun b hb => by simpa using List.all_eq_true.mp hone b hb⟩
  · rfl

theorem array_reads (h : Inverts decode inner) {elementOid : ℕ} {delimiter : Char}
    (hascii : delimiter.toNat ≤ 0xff) (hd : Delimits (byteOf delimiter))
    (htype : (findDefinition catalog.types elementOid).isSome)
    (hprinted : ArrayPrinted catalog inner elementOid delimiter value text) :
    decodeArray catalog decode definition elementOid delimiter text = .ok value := by
  cases hprinted with
  | empty =>
    obtain ⟨elementType, htype⟩ := Option.isSome_iff_exists.mp htype
    have hparse : parseArray [byteOf '{', byteOf '}'] delimiter = .ok (.branch [], none) :=
      (parseArray_eq_ok hascii hd).mpr (.plain .empty)
    simp only [decodeArray, lookup_eq_ok htype, hparse, ok_bind, Except.mapError, flattenArray]
    rfl
  | @elements elementType lowerBounds lengths tree raws elements htype htree hfit hdimensions
      helements =>
    obtain ⟨children, rfl⟩ : ∃ children, tree = .branch children := by
      cases lengths with
      | nil => exact absurd rfl hdimensions.1
      | cons length lengths =>
        obtain ⟨children, parts, rfl, -⟩ := htree
        exact ⟨children, rfl⟩
    have hout := @arrayText_out _ hd _ _ children hfit
    have hparse := (parseArray_eq_ok hascii hd).mpr hout
    have hflat := (flattenArray_eq_ok _).mpr htree
    have hlength := boundsFit_length hfit
    have hempty : lengths.isEmpty = false := by simpa using hdimensions.1
    have hdecoded :
        raws.mapM (decodeElement decode elementOid elementType.name) = .ok elements := by
      refine mapM_forall₂ ?_ helements.flip
      intro raw value hraw
      cases hraw with
      | null => rfl
      | value hvalue => exact h _ _ _ _ hvalue
    simp only [decodeArray, lookup_eq_ok htype, hparse, ok_bind, Except.mapError, hflat, throw_eq,
      error_bind, guard_eq_ok, hempty, Bool.false_eq_true, if_false, printed_bounds hlength]
    refine ⟨by omega, by omega, ?_⟩
    rw [hdecoded]
    rfl

theorem bound_reads (h : Inverts decode inner) {subtypeOid : ℕ} {name : String}
    {bound : Option LogicalValue} {raw : RawValue}
    (hprinted : BoundPrinted (inner subtypeOid name) bound raw) :
    decodeBound decode subtypeOid name raw = .ok bound := by
  cases hprinted with
  | unbounded => rfl
  | bound hvalue =>
    rw [decodeBound, h _ _ _ _ hvalue]
    rfl

theorem range_reads (h : Inverts decode inner) {subtypeOid : ℕ} {name : String}
    (hprinted : RangePrinted inner subtypeOid name value text) :
    decodeRange decode subtypeOid name text = .ok value := by
  cases hprinted with
  | empty => rfl
  | bounds hlower hupper hutf8 =>
    simp only [decodeRange, rangeBounds_rangeOut _ hutf8, ok_bind, bound_reads h hlower,
      bound_reads h hupper]
    rfl

theorem extension_reads (extension : String)
    (hprinted : if eqIgnoreAsciiCase extension "hstore" && definition.name == "hstore" then
      ∃ entries, value = .map (entries.map mapEntryOf) ∧ text = hstoreOut entries
    else EwkbPrinted value text ∧ eqIgnoreAsciiCase extension "postgis" = true ∧
      ["geometry", "geography"].contains definition.name = true) :
    (if eqIgnoreAsciiCase extension "hstore" && definition.name == "hstore" then decodeHstore text
    else if eqIgnoreAsciiCase extension "postgis" &&
        ["geometry", "geography"].contains definition.name then
      (decodePostgisEwkb text).mapError ofPgError
    else .error (.invalid ("PostgreSQL extension type " ++ definition.schema ++ "." ++
      definition.name ++ " has no qualified semantic codec"))) = .ok value := by
  split
  · next hstore =>
    rw [if_pos hstore] at hprinted
    obtain ⟨entries, rfl, rfl⟩ := hprinted
    exact decodeHstore_hstoreOut entries
  · next hother =>
    rw [if_neg hother] at hprinted
    obtain ⟨hprinted, hextension, hname⟩ := hprinted
    rw [if_pos (by rw [hextension, hname]; rfl), decodePostgisEwkb_eq_ok_iff.mpr hprinted]
    rfl

/-- What is printed along a definition is decoded along it. -/
theorem definition_reads {decodeBounds : ValueDecoder} (h : Inverts decode inner)
    (hbounds : Inverts decodeBounds bounds)
    (hprinted :
      DefinitionPrinted catalog inner bounds builtin definition oid nativeType value text) :
    decodeDefinition catalog decode decodeBounds builtin definition oid nativeType text =
      .ok value := by
  unfold DefinitionPrinted at hprinted
  unfold decodeDefinition
  cases hkind : definition.kind with
  | pseudo =>
    rw [hkind] at hprinted
    cases hprinted
  | builtin native =>
    rw [hkind] at hprinted
    exact hprinted
  | enum labels =>
    rw [hkind] at hprinted
    obtain ⟨label, hlabel, rfl, rfl⟩ := hprinted
    simp only [fromUtf8_utf8]
    rw [if_pos (by simpa using hlabel)]
  | domain baseOid constraints notNull =>
    rw [hkind] at hprinted
    obtain ⟨base, inside, hbase, rfl, hinside⟩ := hprinted
    simp only [lookup_eq_ok hbase, ok_bind, h _ _ _ _ hinside]
    rfl
  | composite fields =>
    rw [hkind] at hprinted
    exact composite_reads h hprinted
  | array elementOid delimiter =>
    rw [hkind] at hprinted
    obtain ⟨hascii, hd, htype, hprinted⟩ := hprinted
    exact array_reads h hascii hd htype hprinted
  | range subtypeOid =>
    rw [hkind] at hprinted
    obtain ⟨subtype, hsubtype, hprinted⟩ := hprinted
    simp only [lookup_eq_ok hsubtype, ok_bind, range_reads hbounds hprinted]
  | multiRange rangeOid =>
    rw [hkind] at hprinted
    obtain ⟨range, subtypeOid, subtype, hrange, hrangeKind, hsubtype, ranges, rs, rfl, rfl, hutf8,
      hranges⟩ := hprinted
    have hdecoded : (rs.map rangeOut).mapM (decodeRange decodeBounds subtypeOid subtype.name) =
        .ok ranges := by
      refine mapM_forall₂ (fun text value hvalue => range_reads hbounds hvalue) ?_
      rw [List.forall₂_map_left_iff]
      exact hranges
    simp only [lookup_eq_ok hrange, lookup_eq_ok hsubtype, ok_bind, hrangeKind,
      multirangeItems_multirangeOut rs hutf8, hdecoded]
    rfl
  | extension extension codecIdentity encoding logicalType =>
    rw [hkind] at hprinted
    exact extension_reads extension hprinted

/-- What is printed for a value is decoded as this value, at every number of levels. -/
theorem printed_reads (levels : ℕ) :
    Inverts (decodeCatalogValue catalog builtin levels) (Printed catalog builtin levels) := by
  induction levels using Nat.twoStepInduction with
  | zero => exact fun _ _ _ _ => False.elim
  | one =>
    have hnone : Inverts (decodeCatalogValue catalog builtin 0) (Printed catalog builtin 0) :=
      fun _ _ _ _ => False.elim
    rintro oid nativeType value text ⟨definition, hdefinition, hprinted⟩
    simp only [decodeCatalogValue, lookup_eq_ok hdefinition, ok_bind]
    exact definition_reads hnone hnone hprinted
  | more levels hbounds hinner =>
    rintro oid nativeType value text ⟨definition, hdefinition, hprinted⟩
    simp only [decodeCatalogValue, lookup_eq_ok hdefinition, ok_bind]
    exact definition_reads hinner hbounds hprinted

/-- The column decoder gives back the value of every text that PostgreSQL prints for it. -/
theorem decodeCatalogColumn_printed (catalog : SourceTypeCatalog) (builtin : ValueDecoder) (oid : ℕ)
    (nativeType : String) (value : LogicalValue) (text : List UInt8)
    (h : Printed catalog builtin 65 oid nativeType value text) :
    decodeCatalogColumn catalog builtin oid nativeType text = .ok value :=
  printed_reads 65 oid nativeType value text h

/-- A catalog with texts, arrays of them, and a composite of both. -/
def pairCatalog : SourceTypeCatalog where
  types := [⟨25, "pg_catalog", "text", .builtin "text", none, ""⟩,
    ⟨1009, "pg_catalog", "_text", .array 25 ',', none, ""⟩,
    ⟨16400, "public", "pair", .composite [⟨"a", 25, true⟩, ⟨"b", 1009, true⟩], none, ""⟩]
  extensions := []

def pairRaws : List RawValue :=
  [some (JsonText.utf8 "x,\"y\"".toList), some ("{1,NULL}".toList.map byteOf)]

theorem delimits_comma : Delimits (byteOf ',') := by
  constructor <;> decide

theorem decodeCatalogColumn_pair :
    decodeCatalogColumn pairCatalog (fun _ _ bytes => textValue bytes) 16400 "pair"
      (recordOut pairRaws) =
        .ok (.struct [("a", textOf "x,\"y\""), ("b", .array [textOf "1", .null])]) := by
  have htext : ∀ text : String, Printed pairCatalog (fun _ _ bytes => textValue bytes) 63 25 "text"
      (textOf text) (JsonText.utf8 text.toList) := fun text => ⟨_, rfl, textValue_utf8 text⟩
  have htext' : ∀ text : String, Printed pairCatalog (fun _ _ bytes => textValue bytes) 64 25 "text"
      (textOf text) (JsonText.utf8 text.toList) := fun text => ⟨_, rfl, textValue_utf8 text⟩
  have harray : ArrayPrinted pairCatalog (Printed pairCatalog (fun _ _ bytes => textValue bytes) 63)
      25 ',' (.array [textOf "1", .null]) ("{1,NULL}".toList.map byteOf) := by
    have htree : Rect [2] (.branch [.leaf (some [byteOf '1']), .leaf none])
        [some [byteOf '1'], none] :=
      ⟨_, [[some [byteOf '1']], [none]], rfl, rfl, by decide,
        .cons ⟨_, rfl, rfl⟩ (.cons ⟨_, rfl, rfl⟩ .nil), rfl⟩
    have hfit : BoundsFit [1] [2] := .cons (by decide) .nil
    exact .elements rfl htree hfit (by decide) (.cons (.value (htext "1")) (.cons .null .nil))
  refine decodeCatalogColumn_printed _ _ _ _ _ _ ⟨_, rfl, _, pairRaws, rfl, rfl, rfl, ?_⟩
  exact .cons ⟨rfl, .value ⟨_, rfl, htext' _⟩⟩
    (.cons ⟨rfl, .value ⟨_, rfl, _, rfl, by decide, delimits_comma, rfl, harray⟩⟩ .nil)

end DatabaseSync.PostgresqlSource
