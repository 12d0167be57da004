import DatabaseSync.Library.Decimal
import DatabaseSync.Library.JsonText

/-! # The grammar of JSON

What a JSON text denotes: a tree of documents whose numbers are exact rationals with a sign, which a
zero keeps, and whose strings are free of escapes.
-/

namespace DatabaseSync.JsonGrammar

open Text Decimal
open JsonText (quote backslash escapeChar renderString)

inductive Document
  | null
  | boolean (value : Bool)
  | number (negative : Bool) (magnitude : ℚ)
  | string (value : String)
  | array (items : List Document)
  | object (members : List (String × Document))

/-! ## Strings -/

/-- Four hexadecimal digits and their number. -/
def HexWord (digits : List Char) (n : ℕ) : Prop :=
  digits.length = 4 ∧ digitsBelow 16 (2 ^ 16) 0 digits = some n

/-- The spellings of one character of a string. -/
inductive Chunk : List Char → Char → Prop
  | plain {c : Char} (hquote : c ≠ quote) (hbackslash : c ≠ backslash) (hcontrol : 32 ≤ c.toNat) :
    Chunk [c] c
  | quote : Chunk [backslash, quote] quote
  | backslash : Chunk [backslash, backslash] backslash
  | slash : Chunk [backslash, '/'] '/'
  | backspace : Chunk [backslash, 'b'] (Char.ofNat 8)
  | tab : Chunk [backslash, 't'] (Char.ofNat 9)
  | lineFeed : Chunk [backslash, 'n'] (Char.ofNat 10)
  | formFeed : Chunk [backslash, 'f'] (Char.ofNat 12)
  | carriageReturn : Chunk [backslash, 'r'] (Char.ofNat 13)
  | unicode {digits : List Char} {c : Char} (h : HexWord digits c.toNat) :
    Chunk (backslash :: 'u' :: digits) c
  | surrogates {high low : List Char} {m n : ℕ} (hhigh : HexWord high (0xD800 + m))
      (hlow : HexWord low (0xDC00 + n)) (hm : m < 0x400) (hn : n < 0x400) :
    Chunk (backslash :: 'u' :: (high ++ backslash :: 'u' :: low))
      (Char.ofNat (0x10000 + m * 0x400 + n))

/-- A quoted text whose characters spell the string. -/
def StringText (text : List Char) (s : String) : Prop :=
  ∃ chunks, List.Forall₂ Chunk chunks s.toList ∧ text = quote :: (chunks.flatten ++ [quote])

/-! ## Numbers -/

def minus (negative : Bool) : List Char := if negative then ['-'] else []

/-- The digits before the point, which start with a zero only if it is alone. -/
inductive Whole : List Char → Prop
  | zero : Whole ['0']
  | digits {c : Char} {rest : List Char} (hne : c ≠ '0')
      (h : ∀ d ∈ c :: rest, isAsciiDigit d = true) : Whole (c :: rest)

/-- The point and the digits after it, if there is one. -/
inductive Fraction : List Char → List Char → Prop
  | none : Fraction [] []
  | point {digits : List Char} (hne : digits ≠ []) (h : ∀ d ∈ digits, isAsciiDigit d = true) :
    Fraction ('.' :: digits) digits

/-- The sign of an exponent. -/
inductive Sign : List Char → Bool → Prop
  | none : Sign [] false
  | plus : Sign ['+'] false
  | minus : Sign ['-'] true

inductive Exponent : List Char → ℤ → Prop
  | none : Exponent [] 0
  | exponent {e : Char} {sign digits : List Char} {negative : Bool} (he : e = 'e' ∨ e = 'E')
      (hsign : Sign sign negative) (hne : digits ≠ [])
      (h : ∀ d ∈ digits, isAsciiDigit d = true) :
    Exponent (e :: (sign ++ digits)) (Decimal.sign negative * decimalValue digits)

/-- A number, with its sign and its magnitude. -/
inductive NumberText : List Char → Bool → ℚ → Prop
  | number {whole fraction digits exponent : List Char} {e : ℤ} (negative : Bool)
      (hwhole : Whole whole) (hfraction : Fraction fraction digits)
      (hexponent : Exponent exponent e) :
    NumberText (minus negative ++ whole ++ fraction ++ exponent) negative
      (decimalValue (whole ++ digits) * 10 ^ (e - digits.length))

/-! ## Documents -/

/-- The blanks between tokens. -/
def Blank (text : List Char) : Prop := ∀ c ∈ text, c ∈ [' ', '\t', '\n', '\r']

mutual

/-- The text is syntactically valid and denotes the document. -/
inductive Denotes : List Char → Document → Prop
  | null : Denotes "null".toList .null
  | boolean (value : Bool) : Denotes (toString value).toList (.boolean value)
  | number {text : List Char} {negative : Bool} {magnitude : ℚ}
      (h : NumberText text negative magnitude) : Denotes text (.number negative magnitude)
  | string {text : List Char} {s : String} (h : StringText text s) : Denotes text (.string s)
  | array {blanks : List Char} {texts : List (List Char)} {items : List Document}
      (hblanks : Blank blanks) (h : Items texts items) :
    Denotes ('[' :: (blanks ++ [','].intercalate texts ++ [']'])) (.array items)
  | object {blanks : List Char} {texts : List (List Char)} {members : List (String × Document)}
      (hblanks : Blank blanks) (h : Members texts members) :
    Denotes ('\x7b' :: (blanks ++ [','].intercalate texts ++ ['\x7d'])) (.object members)
  | blanks {before text after : List Char} {document : Document} (hbefore : Blank before)
      (h : Denotes text document) (hafter : Blank after) :
    Denotes (before ++ text ++ after) document

inductive Items : List (List Char) → List Document → Prop
  | nil : Items [] []
  | cons {text : List Char} {texts : List (List Char)} {item : Document} {items : List Document}
      (h : Denotes text item) (hrest : Items texts items) : Items (text :: texts) (item :: items)

inductive Members : List (List Char) → List (String × Document) → Prop
  | nil : Members [] []
  | cons {before key after text : List Char} {texts : List (List Char)} {name : String}
      {value : Document} {members : List (String × Document)} (hbefore : Blank before)
      (hkey : StringText key name) (hafter : Blank after) (h : Denotes text value)
      (hrest : Members texts members) :
    Members ((before ++ key ++ after ++ ':' :: text) :: texts) ((name, value) :: members)

end

theorem blank_nil : Blank [] := fun _ h => absurd h List.not_mem_nil

/-- A list of items without blanks. -/
theorem Denotes.compactArray {texts : List (List Char)} {items : List Document}
    (h : Items texts items) : Denotes ('[' :: ([','].intercalate texts ++ [']'])) (.array items) :=
  .array blank_nil h

theorem Denotes.compactObject {texts : List (List Char)} {members : List (String × Document)}
    (h : Members texts members) :
    Denotes ('\x7b' :: ([','].intercalate texts ++ ['\x7d'])) (.object members) :=
  .object blank_nil h

theorem Members.compact {key text : List Char} {texts : List (List Char)} {name : String}
    {value : Document} {members : List (String × Document)} (hkey : StringText key name)
    (h : Denotes text value) (hrest : Members texts members) :
    Members ((key ++ ':' :: text) :: texts) ((name, value) :: members) := by
  have hcons := Members.cons blank_nil hkey blank_nil h hrest
  rwa [List.nil_append, List.append_nil] at hcons

/-! ## Writing numbers -/

section Numbers

variable {digits fraction : List Char}

/-- Digits without leading zeros, and one zero for none. -/
def trimZeros (digits : List Char) : List Char :=
  if (coefficient digits).isEmpty then ['0'] else coefficient digits

theorem decimalValue_trimZeros : decimalValue (trimZeros digits) = decimalValue digits := by
  rw [← decimalValue_coefficient digits, trimZeros]
  split
  · next hempty =>
    rw [List.isEmpty_iff.mp hempty]
    rfl
  · rfl

theorem whole_trimZeros (h : ∀ c ∈ digits, isAsciiDigit c = true) : Whole (trimZeros digits) := by
  have hdigits := coefficient_digits h
  have hhead := List.head?_dropWhile_not (· == '0') digits
  rw [← coefficient] at hhead
  rw [trimZeros]
  cases hcoefficient : coefficient digits with
  | nil => exact Whole.zero
  | cons c rest =>
    rw [hcoefficient] at hhead hdigits
    refine Whole.digits ?_ hdigits
    rintro rfl
    exact Bool.noConfusion (hhead : ('0' == '0') = false)

/-- A number without a point. -/
theorem numberText_trimZeros (negative : Bool) (h : ∀ c ∈ digits, isAsciiDigit c = true) :
    NumberText (minus negative ++ trimZeros digits) negative (decimalValue digits) := by
  have hnumber := NumberText.number negative (whole_trimZeros h) Fraction.none Exponent.none
  rwa [List.append_nil, List.append_nil, List.append_nil, decimalValue_trimZeros,
    List.length_nil, Nat.cast_zero, sub_zero, zpow_zero, mul_one] at hnumber

/-- A number with digits after its point. -/
theorem numberText_point (negative : Bool) (h : ∀ c ∈ digits, isAsciiDigit c = true)
    (hne : fraction ≠ []) (hfraction : ∀ c ∈ fraction, isAsciiDigit c = true) :
    NumberText (minus negative ++ trimZeros digits ++ '.' :: fraction) negative
      (decimalValue (digits ++ fraction) * 10 ^ (-(fraction.length : ℤ))) := by
  have hnumber := NumberText.number negative (whole_trimZeros h) (Fraction.point hne hfraction)
    Exponent.none
  rwa [List.append_nil, decimalValue_append, decimalValue_trimZeros, ← decimalValue_append,
    zero_sub] at hnumber

end Numbers

/-! ## Writing strings -/

theorem hexWord_control {n : ℕ} (h : n < 32) :
    HexWord ['0', '0', Nat.digitChar (n / 16), Nat.digitChar (n % 16)] n := by
  refine ⟨rfl, ?_⟩
  interval_cases n <;> rfl

theorem chunk_escapeChar (c : Char) : Chunk (escapeChar c) c := by
  have hof : Char.ofNat c.toNat = c := Char.ofNat_toNat c
  unfold escapeChar
  by_cases hquote : c = quote
  · rw [if_pos hquote, hquote]
    exact Chunk.quote
  by_cases hbackslash : c = backslash
  · rw [if_neg hquote, if_pos hbackslash, hbackslash]
    exact Chunk.backslash
  rw [if_neg hquote, if_neg hbackslash]
  split
  · next h => rw [← hof, h]; exact Chunk.backspace
  split
  · next h => rw [← hof, h]; exact Chunk.tab
  split
  · next h => rw [← hof, h]; exact Chunk.lineFeed
  split
  · next h => rw [← hof, h]; exact Chunk.formFeed
  split
  · next h => rw [← hof, h]; exact Chunk.carriageReturn
  split
  · next h => exact Chunk.unicode (hexWord_control h)
  · next h => exact Chunk.plain hquote hbackslash (Nat.le_of_not_lt h)

/-- The escaped text of a string denotes the string. -/
theorem stringText_renderString (s : String) : StringText (renderString s) s := by
  refine ⟨s.toList.map escapeChar, ?_, ?_⟩
  · rw [List.forall₂_map_left_iff]
    exact List.forall₂_same.mpr fun c _ => chunk_escapeChar c
  · rw [renderString, List.flatMap_def]

end DatabaseSync.JsonGrammar
