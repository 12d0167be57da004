import DatabaseSync.ChangeEvent.DecimalPlan
import DatabaseSync.ChangeEvent.Reordering
import DatabaseSync.Library.Binary64
import DatabaseSync.Library.JsonGrammar
import DatabaseSync.Library.Sorting
import Mathlib.Data.Nat.Cast.Field

/-! # JSON as normalized text

The normalized strategy renders a JSON value with the entries of its objects sorted by their keys
and its numbers in plain digits. How `serde_json` writes a string and a finite double are
parameters.
The text denotes the value, and does not depend on the order of entries.
-/

namespace DatabaseSync.ChangeEvent

open Checked Decimal JsonGrammar Keyset Sorting Text

/-! ## The renderer -/

/-- `serde_json::to_string` on a string, and on the double of a bit pattern. -/
structure SerdeJson where
  string : String → String
  double : ℕ → String

def normalizedInteger (value : String) (signed : Bool) : Except String String :=
  let digits := stripSign value.toList
  if !isDigits digits then .error "invalid JSON integer"
  else if !signed && startsWith value "-" then .error "unsigned JSON integer is negative"
  else .ok (String.ofList (minus (startsWith value "-") ++ trimZeros digits))

/-- The digits with a point before as many of them as the scale says. -/
def decimalText (digits : List Char) (scale : ℕ) : List Char :=
  if scale = 0 then trimZeros digits
  else if digits.length - scale = 0 then
    trimZeros ['0'] ++ '.' :: (List.replicate (scale - digits.length) '0' ++ digits)
  else
    trimZeros (digits.take (digits.length - scale)) ++ '.' :: digits.drop (digits.length - scale)

def normalizedDecimal (unscaled : String) (scale : ℕ) : Except String String :=
  let digits := stripSign unscaled.toList
  if !isDigits digits then .error "invalid JSON decimal"
  else .ok (String.ofList (minus (startsWith unscaled "-") ++ decimalText digits scale))

section Render

variable (serde : SerdeJson)

def normalizedDouble (value : String) : Except String String :=
  if value.toList.length ≠ 16 ∨ !value.toList.all isAsciiHexDigit then
    .error "invalid JSON double bit pattern"
  else match u64FromStrRadix value 16 with
    | none => .error "invalid JSON double bit pattern"
    | some bits =>
      if !Binary64.isFinite bits then .error "JSON text cannot represent a non-finite number"
      else if Binary64.isZero bits && Binary64.negative bits then .ok "-0.0"
      else .ok (serde.double bits)

def renderMember (entry : String × Except String String) : Except String String := do
  let value ← entry.2
  return serde.string entry.1 ++ ":" ++ value

/-- An object of rendered entries. The entries are sorted before the first error of their values
counts. -/
def normalizedObject (entries : List (String × Except String String)) : Except String String :=
  let entries := sortByKey Prod.fst entries
  if repeats (entries.map Prod.fst) then .error "duplicate JSON object key"
  else do
    let members ← entries.mapM (renderMember serde)
    return "\x7b" ++ ",".intercalate members ++ "\x7d"

mutual

def renderNormalizedJson : JsonValue → Except String String
  | .null => .ok "null"
  | .boolean value => .ok (toString value)
  | .string value => .ok (serde.string value)
  | .signedInteger value => normalizedInteger value true
  | .unsignedInteger value => normalizedInteger value false
  | .doubleBits value => normalizedDouble serde value
  | .decimal unscaled scale => normalizedDecimal unscaled scale
  | .array items => do
    let values ← renderItems items
    return "[" ++ ",".intercalate values ++ "]"
  | .object entries => normalizedObject serde (renderEntries entries)

def renderItems : List JsonValue → Except String (List String)
  | [] => .ok []
  | item :: items => do
    let value ← renderNormalizedJson item
    let values ← renderItems items
    return value :: values

def renderEntries : List (String × JsonValue) → List (String × Except String String)
  | [] => []
  | (key, value) :: entries => (key, renderNormalizedJson value) :: renderEntries entries

end

theorem renderEntries_eq (entries : List (String × JsonValue)) :
    renderEntries serde entries =
      entries.map fun entry => (entry.1, renderNormalizedJson serde entry.2) := by
  induction entries with
  | nil => rfl
  | cons entry entries ih => exact congrArg (_ :: ·) ih

end Render

/-! ## Rendering forgets the order of entries -/

section Reordered

variable {serde : SerdeJson}

theorem renderItems_congr {items items' : List JsonValue}
    (h : List.Forall₂ (fun item item' =>
      renderNormalizedJson serde item' = renderNormalizedJson serde item) items items') :
    renderItems serde items' = renderItems serde items := by
  induction h with
  | nil => rfl
  | cons hitem _ ih => rw [renderItems, renderItems, hitem, ih]

theorem renderEntries_congr {entries entries' : List (String × JsonValue)}
    (h : List.Forall₂ (fun entry entry' => entry'.1 = entry.1 ∧
      renderNormalizedJson serde entry'.2 = renderNormalizedJson serde entry.2) entries entries') :
    renderEntries serde entries' = renderEntries serde entries := by
  rw [renderEntries_eq, renderEntries_eq]
  exact map_eq_of_forall₂ (h.imp fun _ _ hentry => Prod.ext hentry.1 hentry.2)

theorem renderNormalizedJson_reordered {value value' : JsonValue} {depth : ℕ}
    (hvalid : jsonValue value depth = .ok ()) (h : value.Reordered value') :
    renderNormalizedJson serde value' = renderNormalizedJson serde value := by
  induction value using JsonValue.induction generalizing value' depth with
  | array items ih =>
    have hitems := jsonValue_array hvalid
    cases h with
    | refl => rfl
    | array h =>
      have hrender := @renderItems_congr serde _ _ <|
        forall₂_imp_mem h fun item hitem _ => ih item hitem (hitems item hitem)
      rw [renderNormalizedJson, renderNormalizedJson, hrender]
  | object entries ih =>
    obtain ⟨hnodup, hvalues⟩ := jsonValue_object hvalid
    cases h with
    | refl => rfl
    | object h hperm =>
      have hrender := @renderEntries_congr serde _ _ <|
        forall₂_imp_mem h fun entry hentry _ hr =>
          (JsonEntry.reordered_iff.mp hr).imp id (ih entry hentry (hvalues entry hentry))
      have hentries := hperm.map fun entry => (entry.1, renderNormalizedJson serde entry.2)
      rw [← renderEntries_eq, ← renderEntries_eq, hrender] at hentries
      have hkeys : ((renderEntries serde entries).map Prod.fst).Nodup := by
        rwa [renderEntries_eq, List.map_map]
      rw [renderNormalizedJson, renderNormalizedJson, normalizedObject, normalizedObject,
        sortByKey_eq_of_nodup hentries hkeys]
  | _ => cases h; rfl

end Reordered

/-! ## What the value is -/

mutual

/-- No number is an infinity or a NaN. -/
def JsonValue.finite : JsonValue → Bool
  | .doubleBits value => (u64FromStrRadix value 16).all Binary64.isFinite
  | .decimal unscaled _ => !isSpecialDecimal unscaled
  | .array items => finiteItems items
  | .object entries => finiteEntries entries
  | _ => true

def finiteItems : List JsonValue → Bool
  | [] => true
  | item :: items => item.finite && finiteItems items

def finiteEntries : List (String × JsonValue) → Bool
  | [] => true
  | (_, value) :: entries => value.finite && finiteEntries entries

end

theorem finiteItems_iff {items : List JsonValue} :
    finiteItems items = true ↔ ∀ item ∈ items, item.finite = true := by
  induction items with
  | nil => simp [finiteItems]
  | cons item items ih => rw [finiteItems, Bool.and_eq_true, ih, List.forall_mem_cons]

theorem finiteEntries_iff {entries : List (String × JsonValue)} :
    finiteEntries entries = true ↔ ∀ entry ∈ entries, entry.2.finite = true := by
  induction entries with
  | nil => simp [finiteEntries]
  | cons entry entries ih => rw [finiteEntries, Bool.and_eq_true, ih, List.forall_mem_cons]

mutual

/-- The document is the value: its numbers are the exact integers and decimals of the value, or
round to its doubles, and the order of its members is free. -/
inductive JsonValue.Means : JsonValue → Document → Prop
  | null : JsonValue.Means .null .null
  | boolean (value : Bool) : JsonValue.Means (.boolean value) (.boolean value)
  | string (value : String) : JsonValue.Means (.string value) (.string value)
  | signedInteger {value : String} {v : ℤ} {negative : Bool} {magnitude : ℚ}
      (hvalue : parseSigned (2 ^ 127) value = some v)
      (h : sign negative * magnitude = v) :
    JsonValue.Means (.signedInteger value) (.number negative magnitude)
  | unsignedInteger {value : String} {v : ℕ} {negative : Bool} {magnitude : ℚ}
      (hvalue : parseUnsigned 10 (2 ^ 128) value = some v)
      (h : sign negative * magnitude = v) :
    JsonValue.Means (.unsignedInteger value) (.number negative magnitude)
  | doubleBits {value : String} {bits : ℕ} {magnitude : ℚ}
      (hvalue : u64FromStrRadix value 16 = some bits) (h : Binary64.Nearest magnitude bits) :
    JsonValue.Means (.doubleBits value) (.number (Binary64.negative bits) magnitude)
  | decimal {unscaled : String} {scale : ℕ} {negative : Bool} {magnitude : ℚ}
      (h : sign negative * magnitude =
        number (startsWith unscaled "-") (dropMinus unscaled.toList) scale) :
    JsonValue.Means (.decimal unscaled scale) (.number negative magnitude)
  | array {items : List JsonValue} {documents : List Document}
      (h : List.Forall₂ JsonValue.Means items documents) :
    JsonValue.Means (.array items) (.array documents)
  | object {entries entries' : List (String × JsonValue)} {members : List (String × Document)}
      (hperm : entries.Perm entries') (h : List.Forall₂ JsonEntry.Means entries' members) :
    JsonValue.Means (.object entries) (.object members)

inductive JsonEntry.Means : String × JsonValue → String × Document → Prop
  | entry (key : String) {value : JsonValue} {document : Document}
      (h : JsonValue.Means value document) : JsonEntry.Means (key, value) (key, document)

end

/-- The texts of `serde_json` denote the strings, and numbers that round to the doubles. -/
structure SerdeJson.Prints (serde : SerdeJson) : Prop where
  string : ∀ s, StringText (serde.string s).toList s
  double : ∀ bits < 2 ^ 64, Binary64.isFinite bits = true → ∃ magnitude,
    NumberText (serde.double bits).toList (Binary64.negative bits) magnitude ∧
      Binary64.Nearest magnitude bits

/-! ## Numbers -/

section Numbers

variable {digits : List Char} {negative : Bool} {scale : ℕ}

/-- A text that passes validation is an optional minus sign and digits. -/
theorem exists_minus {text : String} (h : isDigits (dropMinus text.toList) = true) :
    ∃ negative digits, text = String.ofList (minus negative ++ digits) ∧
      isDigits digits = true := by
  rw [← String.ofList_toList (s := text)]
  cases hchars : text.toList with
  | nil =>
    rw [hchars] at h
    exact ⟨false, [], rfl, h⟩
  | cons c rest =>
    rw [hchars] at h
    by_cases hc : c = '-'
    · subst hc
      exact ⟨true, rest, rfl, h⟩
    · refine ⟨false, c :: rest, rfl, ?_⟩
      rwa [dropMinus.eq_2 _ fun l heq => hc (List.cons_eq_cons.mp heq).1] at h

theorem ne_minus_of_isDigits (h : isDigits digits = true) : ∀ l, digits ≠ '-' :: l := by
  rintro l rfl
  exact absurd ((isDigits_iff.mp h).2 '-' List.mem_cons_self) (by decide)

theorem dropMinus_minus (h : isDigits digits = true) :
    dropMinus (minus negative ++ digits) = digits := by
  cases negative with
  | true => rfl
  | false => exact dropMinus.eq_2 _ (ne_minus_of_isDigits h)

theorem stripSign_minus (h : isDigits digits = true) :
    stripSign (minus negative ++ digits) = digits := by
  rw [stripSign_eq_dropMinus (by rwa [dropMinus_minus h]), dropMinus_minus h]

theorem startsWith_minus (h : isDigits digits = true) :
    startsWith (String.ofList (minus negative ++ digits)) "-" = negative := by
  rw [startsWith, String.toList_ofList, String.toList_ofList]
  cases negative with
  | true => rfl
  | false =>
    cases digits with
    | nil => rfl
    | cons c rest =>
      have hne : '-' ≠ c := fun heq => ne_minus_of_isDigits h rest (by rw [heq])
      simpa [minus, List.isPrefixOf] using hne

theorem normalizedInteger_eq_ok {signed : Bool} (h : isDigits digits = true)
    (hsign : signed = true ∨ negative = false) :
    normalizedInteger (String.ofList (minus negative ++ digits)) signed =
      .ok (String.ofList (minus negative ++ trimZeros digits)) := by
  have hguard : (!signed && negative) = false := by
    rcases hsign with rfl | rfl
    · rfl
    · exact Bool.and_false _
  rw [normalizedInteger, String.toList_ofList, stripSign_minus h, startsWith_minus h, h, hguard]
  rfl

theorem normalizedDecimal_eq_ok (h : isDigits digits = true) :
    normalizedDecimal (String.ofList (minus negative ++ digits)) scale =
      .ok (String.ofList (minus negative ++ decimalText digits scale)) := by
  rw [normalizedDecimal, String.toList_ofList, stripSign_minus h, startsWith_minus h, h]
  rfl

/-- The point stands before the last digits, with zeros before too few of them. -/
theorem numberText_decimalText (negative : Bool) (h : isDigits digits = true) (scale : ℕ) :
    NumberText (minus negative ++ decimalText digits scale) negative
      (decimalValue digits * 10 ^ (-(scale : ℤ))) := by
  obtain ⟨hne, hdigits⟩ := isDigits_iff.mp h
  unfold decimalText
  by_cases hzero : scale = 0
  · rw [if_pos hzero, hzero, Nat.cast_zero, neg_zero, zpow_zero, mul_one]
    exact numberText_trimZeros negative hdigits
  rw [if_neg hzero]
  by_cases hshort : digits.length - scale = 0
  · rw [if_pos hshort]
    have hfraction : ∀ c ∈ List.replicate (scale - digits.length) '0' ++ digits,
        isAsciiDigit c = true := by
      intro c hc
      rcases List.mem_append.mp hc with hc | hc
      · rw [List.eq_of_mem_replicate hc]
        rfl
      · exact hdigits c hc
    have hlength : (List.replicate (scale - digits.length) '0' ++ digits).length = scale := by
      rw [List.length_append, List.length_replicate]
      omega
    have hpoint := numberText_point negative
      (List.forall_mem_singleton.mpr (rfl : isAsciiDigit '0' = true))
        (List.append_ne_nil_of_right_ne_nil _ hne)
      hfraction
    rwa [List.append_assoc, hlength, ← List.append_assoc ['0'], ← List.replicate_one,
      List.replicate_append_replicate, decimalValue_zeros] at hpoint
  · rw [if_neg hshort]
    have hlength : (digits.drop (digits.length - scale)).length = scale := by
      rw [List.length_drop]
      omega
    have hwhole : ∀ c ∈ digits.take (digits.length - scale), isAsciiDigit c = true :=
      fun c hc => hdigits c (List.mem_of_mem_take hc)
    have hfraction : ∀ c ∈ digits.drop (digits.length - scale), isAsciiDigit c = true :=
      fun c hc => hdigits c (List.mem_of_mem_drop hc)
    have hpoint := numberText_point negative hwhole
      (List.ne_nil_of_length_pos (by omega)) hfraction
    rwa [List.append_assoc, List.take_append_drop, hlength] at hpoint

end Numbers

/-! ## Rendering denotes the value -/

section Faithful

variable {serde : SerdeJson} {items : List JsonValue} {entries : List (String × JsonValue)}

/-- The text that the value is rendered to denotes it. -/
def Rendered (serde : SerdeJson) (value : JsonValue) : Prop :=
  ∃ text document, renderNormalizedJson serde value = .ok text ∧
    Denotes text.toList document ∧ value.Means document

theorem parseSigned_minus_digits {bound : ℕ} {negative : Bool} {digits : List Char} {v : ℤ}
    (h : isDigits digits = true)
    (hread : parseSigned bound (String.ofList (minus negative ++ digits)) = some v) :
    sign negative * (decimalValue digits : ℚ) = v := by
  obtain ⟨hne, hdigits⟩ := isDigits_iff.mp h
  cases negative with
  | true =>
    rw [minus, if_pos rfl, List.singleton_append, parseSigned_minus hne hdigits] at hread
    obtain ⟨-, hv⟩ := Option.ite_none_right_eq_some.mp hread
    rw [← Option.some.inj hv]
    simp [sign]
  | false =>
    rw [minus, if_neg Bool.false_ne_true, List.nil_append, parseSigned_of_digits hne hdigits]
      at hread
    obtain ⟨-, hv⟩ := Option.ite_none_right_eq_some.mp hread
    rw [← Option.some.inj hv]
    simp [sign]

theorem rendered_signedInteger {value : String} (h : integer value true 64 = .ok ()) :
    Rendered serde (.signedInteger value) := by
  rw [integer, bind_eq_ok] at h
  obtain ⟨⟨⟩, -, h⟩ := h
  rw [bind_eq_ok] at h
  obtain ⟨⟨⟩, hdigits, h⟩ := h
  rw [ensure_eq_ok, if_pos rfl] at hdigits
  rw [ensure_eq_ok, if_pos rfl] at h
  obtain ⟨negative, digits, rfl, hall⟩ := exists_minus hdigits
  cases hread : parseSigned (2 ^ 127) (String.ofList (minus negative ++ digits)) with
  | none =>
    rw [hread] at h
    exact Bool.noConfusion h
  | some v =>
    refine ⟨_, .number negative (decimalValue digits), normalizedInteger_eq_ok hall (.inl rfl),
      ?_, JsonValue.Means.signedInteger hread (parseSigned_minus_digits hall hread)⟩
    rw [String.toList_ofList]
    exact Denotes.number (numberText_trimZeros negative (isDigits_iff.mp hall).2)

theorem rendered_unsignedInteger {value : String} (h : integer value false 64 = .ok ()) :
    Rendered serde (.unsignedInteger value) := by
  rw [integer, bind_eq_ok] at h
  obtain ⟨⟨⟩, -, h⟩ := h
  rw [bind_eq_ok] at h
  obtain ⟨⟨⟩, hdigits, h⟩ := h
  rw [ensure_eq_ok, if_neg Bool.false_ne_true] at hdigits
  rw [ensure_eq_ok, if_neg Bool.false_ne_true] at h
  rw [← String.ofList_toList (s := value)] at h ⊢
  obtain ⟨hne, hall⟩ := isDigits_iff.mp hdigits
  have hread := @parseUnsigned_of_digits (2 ^ 128) _ hne hall
  split at hread
  · have hrender := @normalizedInteger_eq_ok _ false false hdigits (.inr rfl)
    refine ⟨_, .number false (decimalValue value.toList), hrender, ?_,
      JsonValue.Means.unsignedInteger hread (by simp [sign])⟩
    rw [String.toList_ofList]
    exact Denotes.number (numberText_trimZeros false hall)
  · rw [hread] at h
    exact Bool.noConfusion h

theorem rendered_decimal {unscaled : String} {scale : ℕ}
    (h : decimal unscaled scale = .ok ()) (hfinite : isSpecialDecimal unscaled = false) :
    Rendered serde (.decimal unscaled scale) := by
  rw [decimal, hfinite, if_neg Bool.false_ne_true, ensure_eq_ok] at h
  obtain ⟨negative, digits, rfl, hdigits⟩ := exists_minus h
  refine ⟨_, .number negative (decimalValue digits * 10 ^ (-(scale : ℤ))),
    normalizedDecimal_eq_ok hdigits, ?_, JsonValue.Means.decimal ?_⟩
  · rw [String.toList_ofList]
    exact Denotes.number (numberText_decimalText negative hdigits scale)
  · rw [startsWith_minus hdigits, String.toList_ofList, dropMinus_minus hdigits]
    rfl

/-- The text of a negative zero, which the formatter of doubles does not write. -/
theorem negative_zero_text : NumberText "-0.0".toList true 0 := by
  have hdigits : isDigits ['0'] = true := rfl
  have hnumber := numberText_decimalText true hdigits 1
  rwa [show decimalValue ['0'] = 0 from rfl, Nat.cast_zero, zero_mul] at hnumber

theorem rendered_doubleBits (hserde : serde.Prints) {value : String}
    (h : float 64 value = .ok ())
    (hfinite : (u64FromStrRadix value 16).all Binary64.isFinite = true) :
    Rendered serde (.doubleBits value) := by
  rw [float, ensure_eq_ok, Bool.and_eq_true, Bool.and_eq_true] at h
  obtain ⟨⟨-, hlength⟩, hhex⟩ := h
  rw [beq_iff_eq] at hlength
  obtain ⟨bits, hbits, hread⟩ := u64FromStrRadix_hex hhex hlength
  rw [hread, Option.all_some] at hfinite
  have hguard : ¬ (value.toList.length ≠ 16 ∨ (!value.toList.all isAsciiHexDigit) = true) := by
    simp [hlength, hhex]
  by_cases hzero : (Binary64.isZero bits && Binary64.negative bits) = true
  · obtain ⟨hiszero, hnegative⟩ := Bool.and_eq_true_iff.mp hzero
    refine ⟨"-0.0", .number (Binary64.negative bits) 0, ?_, ?_,
      JsonValue.Means.doubleBits hread ?_⟩
    · rw [renderNormalizedJson, normalizedDouble, if_neg hguard, hread]
      simp [hfinite, hzero]
    · rw [hnegative]
      exact Denotes.number negative_zero_text
    · have hnearest := Binary64.nearest_magnitude hfinite
      rwa [Binary64.magnitude_of_isZero hiszero] at hnearest
  · obtain ⟨magnitude, htext, hnearest⟩ := hserde.double bits hbits hfinite
    refine ⟨serde.double bits, _, ?_, Denotes.number htext,
      JsonValue.Means.doubleBits hread hnearest⟩
    rw [renderNormalizedJson, normalizedDouble, if_neg hguard, hread]
    simp [hfinite, hzero]

theorem rendered_items (h : ∀ item ∈ items, Rendered serde item) :
    ∃ texts documents, renderItems serde items = .ok texts ∧
      Items (texts.map String.toList) documents ∧
      List.Forall₂ JsonValue.Means items documents := by
  induction items with
  | nil => exact ⟨[], [], rfl, Items.nil, List.Forall₂.nil⟩
  | cons item items ih =>
    obtain ⟨hitem, hitems⟩ := List.forall_mem_cons.mp h
    obtain ⟨text, document, hrender, hdenotes, hmeans⟩ := hitem
    obtain ⟨texts, documents, hrest, hdocuments, hall⟩ := ih hitems
    refine ⟨text :: texts, document :: documents, ?_, Items.cons hdenotes hdocuments,
      List.Forall₂.cons hmeans hall⟩
    rw [renderItems, hrender, ok_bind, hrest, ok_bind, pure_eq]

theorem rendered_array (h : ∀ item ∈ items, Rendered serde item) :
    Rendered serde (.array items) := by
  obtain ⟨texts, documents, hrender, hdocuments, hmeans⟩ := rendered_items h
  refine ⟨"[" ++ ",".intercalate texts ++ "]", .array documents, ?_, ?_,
    JsonValue.Means.array hmeans⟩
  · rw [renderNormalizedJson, hrender, ok_bind, pure_eq]
  · rw [String.toList_append, String.toList_append, String.toList_intercalate]
    exact Denotes.compactArray hdocuments

/-- The members of an object in the order of the entries. -/
theorem rendered_members (hserde : serde.Prints) (h : ∀ entry ∈ entries, Rendered serde entry.2) :
    ∃ texts members,
      (entries.map fun entry => (entry.1, renderNormalizedJson serde entry.2)).mapM
        (renderMember serde) = .ok texts ∧
      Members (texts.map String.toList) members ∧
      List.Forall₂ JsonEntry.Means entries members := by
  induction entries with
  | nil => exact ⟨[], [], rfl, Members.nil, List.Forall₂.nil⟩
  | cons entry entries ih =>
    obtain ⟨key, value⟩ := entry
    obtain ⟨hentry, hentries⟩ := List.forall_mem_cons.mp h
    obtain ⟨text, document, hrender, hdenotes, hmeans⟩ := hentry
    obtain ⟨texts, members, hrest, hmembers, hall⟩ := ih hentries
    have hcompact := Members.compact (hserde.string key) hdenotes hmembers
    refine ⟨(serde.string key ++ ":" ++ text) :: texts, (key, document) :: members, ?_, ?_,
      List.Forall₂.cons (JsonEntry.Means.entry key hmeans) hall⟩
    · rw [List.map_cons, List.mapM_cons, hrest, renderMember, hrender]
      rfl
    · rw [List.map_cons, String.toList_append, String.toList_append, List.append_assoc]
      exact hcompact

/-- Rendering the values of entries leaves their order by keys. -/
theorem sortByKey_renderEntries :
    sortByKey Prod.fst (renderEntries serde entries) =
      (sortByKey Prod.fst entries).map
        fun entry => (entry.1, renderNormalizedJson serde entry.2) := by
  rw [renderEntries_eq]
  exact (map_sortByKey (fun _ => rfl) entries).symm

theorem rendered_object (hserde : serde.Prints) (hnodup : (entries.map Prod.fst).Nodup)
    (h : ∀ entry ∈ entries, Rendered serde entry.2) : Rendered serde (.object entries) := by
  have hperm : (sortByKey Prod.fst entries).Perm entries := sortByKey_perm entries
  obtain ⟨texts, members, hrender, hmembers, hmeans⟩ := rendered_members hserde
    fun entry hentry => h entry (hperm.mem_iff.mp hentry)
  have hrepeats : repeats ((sortByKey Prod.fst entries).map Prod.fst) = false :=
    repeats_of_nodup (nodup_sortByKey hnodup)
  refine ⟨"\x7b" ++ ",".intercalate texts ++ "\x7d", .object members, ?_, ?_,
    JsonValue.Means.object hperm.symm hmeans⟩
  · rw [renderNormalizedJson, normalizedObject, sortByKey_renderEntries, List.map_map]
    rw [hrender]
    simp [Function.comp_def, hrepeats]
  · rw [String.toList_append, String.toList_append, String.toList_intercalate]
    exact Denotes.compactObject hmembers

/-- Every valid value of finite numbers is rendered. -/
theorem rendered_of_valid (hserde : serde.Prints) {value : JsonValue} {depth : ℕ}
    (hvalid : jsonValue value depth = .ok ()) (hfinite : value.finite = true) :
    Rendered serde value := by
  induction value using JsonValue.induction generalizing depth with
  | null => exact ⟨"null", .null, rfl, Denotes.null, JsonValue.Means.null⟩
  | boolean value =>
    exact ⟨toString value, .boolean value, rfl, Denotes.boolean value,
      JsonValue.Means.boolean value⟩
  | string value =>
    exact ⟨serde.string value, .string value, rfl, Denotes.string (hserde.string value),
      JsonValue.Means.string value⟩
  | signedInteger value =>
    rw [jsonValue, bind_eq_ok] at hvalid
    obtain ⟨⟨⟩, -, hinteger⟩ := hvalid
    exact rendered_signedInteger hinteger
  | unsignedInteger value =>
    rw [jsonValue, bind_eq_ok] at hvalid
    obtain ⟨⟨⟩, -, hinteger⟩ := hvalid
    exact rendered_unsignedInteger hinteger
  | doubleBits value =>
    rw [jsonValue, bind_eq_ok] at hvalid
    obtain ⟨⟨⟩, -, hfloat⟩ := hvalid
    exact rendered_doubleBits hserde hfloat hfinite
  | decimal unscaled scale =>
    rw [jsonValue, bind_eq_ok] at hvalid
    obtain ⟨⟨⟩, -, hvalid⟩ := hvalid
    rw [bind_eq_ok] at hvalid
    obtain ⟨⟨⟩, -, hdecimal⟩ := hvalid
    exact rendered_decimal hdecimal (by simpa [JsonValue.finite] using hfinite)
  | array items ih =>
    have hitems := jsonValue_array hvalid
    have hall := finiteItems_iff.mp hfinite
    exact rendered_array fun item hitem => ih item hitem (hitems item hitem) (hall item hitem)
  | object entries ih =>
    obtain ⟨hnodup, hvalues⟩ := jsonValue_object hvalid
    have hall := finiteEntries_iff.mp hfinite
    exact rendered_object hserde hnodup fun entry hentry =>
      ih entry hentry (hvalues entry hentry) (hall entry hentry)

end Faithful

/-! ## Normalized texts are faithful -/

/-- The text of a valid value of finite numbers denotes the value, and is the text of the value
reordered. -/
theorem renderNormalizedJson_faithful {serde : SerdeJson} (hserde : serde.Prints)
    {value : JsonValue} (hvalid : jsonValue value 0 = .ok ()) (hfinite : value.finite = true) :
    (∃ text document, renderNormalizedJson serde value = .ok text ∧
      Denotes text.toList document ∧ value.Means document) ∧
    ∀ value', value.Reordered value' →
      renderNormalizedJson serde value' = renderNormalizedJson serde value :=
  ⟨rendered_of_valid hserde hvalid hfinite, fun _ => renderNormalizedJson_reordered hvalid⟩

/-- Escaped strings, and doubles in as many digits as they have. -/
def exactJson : SerdeJson where
  string s := String.ofList (JsonText.renderString s)
  double bits :=
    let magnitude := Binary64.magnitude bits
    let scale := max 1 magnitude.den.log2
    let digits := Nat.toDigits 10 (magnitude.num.natAbs * 10 ^ scale / magnitude.den)
    String.ofList (minus (Binary64.negative bits) ++ decimalText digits scale)

/-- A fraction over a power of two has that many decimal places. -/
theorem mul_pow_div_den {x : ℚ} {k : ℕ} (hx : 0 ≤ x) (hden : x.den = 2 ^ k) {scale : ℕ}
    (hscale : k ≤ scale) :
    ((x.num.natAbs * 10 ^ scale / x.den : ℕ) : ℚ) * 10 ^ (-(scale : ℤ)) = x := by
  have hdvd : x.den ∣ x.num.natAbs * 10 ^ scale := by
    rw [hden]
    exact (pow_dvd_pow 2 hscale).trans ((pow_dvd_pow_of_dvd (by norm_num) scale).mul_left _)
  have hnum : ((x.num.natAbs : ℕ) : ℚ) = x.num := by
    have hcast := congrArg (Int.cast : ℤ → ℚ) (Int.natAbs_of_nonneg (Rat.num_nonneg.mpr hx))
    rwa [Int.cast_natCast] at hcast
  have hne : (x.den : ℚ) ≠ 0 := by exact_mod_cast x.den_nz
  rw [Nat.cast_div hdvd hne, Nat.cast_mul, hnum, zpow_neg, zpow_natCast, Nat.cast_pow,
    Nat.cast_ofNat]
  have hpow : (10 : ℚ) ^ scale ≠ 0 := by positivity
  rw [mul_div_right_comm, mul_assoc, mul_inv_cancel₀ hpow, mul_one, Rat.num_div_den]

theorem exactJson_prints : exactJson.Prints where
  string s := by
    rw [exactJson, String.toList_ofList]
    exact stringText_renderString s
  double bits _ hfinite := by
    refine ⟨Binary64.magnitude bits, ?_, Binary64.nearest_magnitude hfinite⟩
    obtain ⟨k, hden⟩ := Binary64.den_magnitude bits
    have hlog : (Binary64.magnitude bits).den.log2 = k := by rw [hden, Nat.log2_two_pow]
    have hdigits : isDigits (Nat.toDigits 10 ((Binary64.magnitude bits).num.natAbs *
        10 ^ max 1 k / (Binary64.magnitude bits).den)) = true :=
      isDigits_iff.mpr ⟨Nat.toDigits_ne_nil, toDigits_digits _⟩
    have htext := numberText_decimalText (Binary64.negative bits) hdigits (max 1 k)
    rw [decimalValue_toDigits,
      mul_pow_div_den (Binary64.magnitude_nonneg bits) hden (le_max_right 1 k)] at htext
    rw [← hlog] at htext
    rw [exactJson, String.toList_ofList]
    exact htext

/-- An invoice: an object of an object out of order, with a double, a decimal and integers. -/
def invoiceJson : JsonValue :=
  .object [("total", .decimal "-120" 4), ("lines", .array [.doubleBits "3FF8000000000000",
    .signedInteger "-007", .null]), ("buyer", .object [("name", .string "\n"), ("id",
      .unsignedInteger "18446744073709551615")])]

theorem renderNormalizedJson_faithful_invoice :
    (∃ text document, renderNormalizedJson exactJson invoiceJson = .ok text ∧
      Denotes text.toList document ∧ invoiceJson.Means document) ∧
    ∀ value', invoiceJson.Reordered value' →
      renderNormalizedJson exactJson value' = renderNormalizedJson exactJson invoiceJson :=
  renderNormalizedJson_faithful exactJson_prints (by decide +kernel) (by decide +kernel)

end DatabaseSync.ChangeEvent
