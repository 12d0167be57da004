import DatabaseSync.Library.Digits
import DatabaseSync.Library.Lines

/-! # JSON texts

Trees of JSON values, how many containers stand inside each other in them, and their compact text
on one line.
-/

namespace DatabaseSync.JsonText

inductive Json
  | null
  | bool (value : Bool)
  | number (value : ℤ)
  | string (value : String)
  | array (items : List Json)
  | object (entries : List (String × Json))

/-! ## Nesting -/

mutual

/-- The number of arrays and objects inside each other. -/
def Json.depth : Json → ℕ
  | .array items => 1 + depthItems items
  | .object entries => 1 + depthEntries entries
  | _ => 0

def depthItems : List Json → ℕ
  | [] => 0
  | item :: items => max item.depth (depthItems items)

def depthEntries : List (String × Json) → ℕ
  | [] => 0
  | (_, value) :: entries => max value.depth (depthEntries entries)

end

@[simp] theorem depth_null : Json.null.depth = 0 := rfl
@[simp] theorem depth_bool (value : Bool) : (Json.bool value).depth = 0 := rfl
@[simp] theorem depth_number (value : ℤ) : (Json.number value).depth = 0 := rfl
@[simp] theorem depth_string (value : String) : (Json.string value).depth = 0 := rfl
@[simp] theorem depth_array (items : List Json) :
    (Json.array items).depth = 1 + depthItems items := rfl
@[simp] theorem depth_object (entries : List (String × Json)) :
    (Json.object entries).depth = 1 + depthEntries entries := rfl
@[simp] theorem depthItems_nil : depthItems [] = 0 := rfl
@[simp] theorem depthItems_cons (item : Json) (items : List Json) :
    depthItems (item :: items) = max item.depth (depthItems items) := rfl
@[simp] theorem depthEntries_nil : depthEntries [] = 0 := rfl
@[simp] theorem depthEntries_cons (key : String) (value : Json) (entries : List (String × Json)) :
    depthEntries ((key, value) :: entries) = max value.depth (depthEntries entries) := rfl

@[simp]
theorem depthEntries_append (entries entries' : List (String × Json)) :
    depthEntries (entries ++ entries') = max (depthEntries entries) (depthEntries entries') := by
  induction entries with
  | nil => simp
  | cons entry entries ih =>
    obtain ⟨key, value⟩ := entry
    rw [List.cons_append, depthEntries_cons, depthEntries_cons, ih, max_assoc]

theorem depthItems_le_iff {items : List Json} {n : ℕ} :
    depthItems items ≤ n ↔ ∀ item ∈ items, item.depth ≤ n := by
  induction items with
  | nil => simp
  | cons item items ih => simp [ih]

/-- Items without a container in them. -/
theorem depthItems_map_eq_zero {α : Type} {f : α → Json} (hf : ∀ a, (f a).depth = 0) (l : List α) :
    depthItems (l.map f) = 0 := by
  rw [← Nat.le_zero, depthItems_le_iff]
  rintro item hitem
  obtain ⟨a, -, rfl⟩ := List.mem_map.mp hitem
  exact (hf a).le

theorem depthEntries_map_eq_zero {α : Type} {key : α → String} {f : α → Json}
    (hf : ∀ a, (f a).depth = 0) (l : List α) :
    depthEntries (l.map fun a => (key a, f a)) = 0 := by
  induction l with
  | nil => rfl
  | cons a l ih => rw [List.map_cons, depthEntries_cons, ih, hf, max_self]

/-! ## Text -/

def quote : Char := Char.ofNat 34
def backslash : Char := Char.ofNat 92

/-- One character of a string. -/
def escapeChar (c : Char) : List Char :=
  if c = quote then [backslash, quote]
  else if c = backslash then [backslash, backslash]
  else if c.toNat = 8 then [backslash, 'b']
  else if c.toNat = 9 then [backslash, 't']
  else if c.toNat = 10 then [backslash, 'n']
  else if c.toNat = 12 then [backslash, 'f']
  else if c.toNat = 13 then [backslash, 'r']
  else if c.toNat < 32 then
    [backslash, 'u', '0', '0', Nat.digitChar (c.toNat / 16), Nat.digitChar (c.toNat % 16)]
  else [c]

def renderString (s : String) : List Char := quote :: (s.toList.flatMap escapeChar ++ [quote])

/-- The comma before every element but the first. -/
def separator (first : Bool) : List Char := if first then [] else [',']

mutual

/-- The compact text of `serde_json`. -/
def Json.render : Json → List Char
  | .null => "null".toList
  | .bool true => "true".toList
  | .bool false => "false".toList
  | .number value => (toString value).toList
  | .string value => renderString value
  | .array items => '[' :: (renderItems true items ++ [']'])
  | .object entries => '\x7b' :: (renderEntries true entries ++ ['\x7d'])

def renderItems : Bool → List Json → List Char
  | _, [] => []
  | first, item :: items => separator first ++ item.render ++ renderItems false items

def renderEntries : Bool → List (String × Json) → List Char
  | _, [] => []
  | first, (key, value) :: entries =>
    separator first ++ renderString key ++ ':' :: value.render ++ renderEntries false entries

end

/-- The bytes of a text. -/
def utf8 (text : List Char) : List UInt8 := text.flatMap String.utf8EncodeChar

/-! ## One line -/

theorem digitChar_ne_newline {d : ℕ} (h : d < 16) : '\n' ≠ d.digitChar := by
  interval_cases d <;> decide

theorem newline_not_mem_escapeChar (c : Char) : '\n' ∉ escapeChar c := by
  unfold escapeChar
  have hquote : '\n' ≠ quote := by decide
  have hbackslash : '\n' ≠ backslash := by decide
  by_cases hc : c.toNat = 10
  · have hcq : c ≠ quote := by
      rintro rfl
      exact absurd hc (by decide)
    have hcb : c ≠ backslash := by
      rintro rfl
      exact absurd hc (by decide)
    rw [if_neg hcq, if_neg hcb, if_neg (by omega), if_neg (by omega), if_pos hc]
    simp [hbackslash]
  · have hne : '\n' ≠ c := by
      rintro rfl
      exact hc rfl
    have hlow := digitChar_ne_newline (Nat.mod_lt c.toNat (by decide : 0 < 16))
    split_ifs
    all_goals simp [hquote, hbackslash, hne, hlow]

theorem newline_not_mem_renderString (s : String) : '\n' ∉ renderString s := by
  have hquote : '\n' ≠ quote := by decide
  simp only [renderString, List.mem_cons, List.mem_append, List.mem_flatMap, List.not_mem_nil,
    or_false, not_or, not_exists, not_and]
  exact ⟨hquote, fun c _ => newline_not_mem_escapeChar c, hquote⟩

theorem newline_not_mem_separator (first : Bool) : '\n' ∉ separator first := by
  cases first <;> decide

theorem newline_not_mem_number (value : ℤ) : '\n' ∉ (toString value).toList := by
  have hdigits : ∀ n : ℕ, '\n' ∉ (toString n).toList := by
    intro n hmem
    have hmem : '\n' ∈ Nat.toDigits 10 n := by simpa using hmem
    obtain ⟨d, hd, heq⟩ := Text.mem_toDigits (by decide) hmem
    exact digitChar_ne_newline (by omega) heq
  cases value with
  | ofNat n => exact hdigits n
  | negSucc n =>
    have htext : toString (Int.negSucc n) = "-" ++ toString (n + 1) := rfl
    rw [htext, String.toList_append, List.mem_append, not_or]
    exact ⟨by decide, hdigits (n + 1)⟩

mutual

theorem newline_not_mem_render : ∀ j : Json, '\n' ∉ j.render
  | .null => by decide
  | .bool true => by decide
  | .bool false => by decide
  | .number value => newline_not_mem_number value
  | .string value => newline_not_mem_renderString value
  | .array items => by
    have hitems := newline_not_mem_renderItems true items
    simp [Json.render, hitems]
  | .object entries => by
    have hentries := newline_not_mem_renderEntries true entries
    simp [Json.render, hentries]

theorem newline_not_mem_renderItems : ∀ (first : Bool) (items : List Json),
    '\n' ∉ renderItems first items
  | _, [] => by simp [renderItems]
  | first, item :: items => by
    have hitem := newline_not_mem_render item
    have hitems := newline_not_mem_renderItems false items
    simp [renderItems, newline_not_mem_separator, hitem, hitems]

theorem newline_not_mem_renderEntries : ∀ (first : Bool) (entries : List (String × Json)),
    '\n' ∉ renderEntries first entries
  | _, [] => by simp [renderEntries]
  | first, (key, value) :: entries => by
    have hvalue := newline_not_mem_render value
    have hentries := newline_not_mem_renderEntries false entries
    simp [renderEntries, newline_not_mem_separator, newline_not_mem_renderString, hvalue, hentries]

end

/-- Only the newline character has the newline byte in its encoding. -/
theorem eq_newline_of_mem_utf8EncodeChar {c : Char} (h : Lines.newline ∈ String.utf8EncodeChar c) :
    c = '\n' := by
  have hbyte : ∀ n, 128 ≤ n → n < 256 → Lines.newline ≠ UInt8.ofNat n := by
    intro n hlow hhigh heq
    have htoNat := congrArg UInt8.toNat heq
    rw [UInt8.toNat_ofNat', Nat.mod_eq_of_lt (by omega)] at htoNat
    simp only [Lines.newline, UInt8.toNat_ofNat] at htoNat
    omega
  unfold String.utf8EncodeChar at h
  dsimp only at h
  split_ifs at h with hascii
  · rw [List.mem_singleton] at h
    have htoNat := congrArg UInt8.toNat h
    rw [UInt8.toNat_ofNat', Nat.mod_eq_of_lt (by omega)] at htoNat
    exact Char.toNat_inj.mp htoNat.symm
  all_goals
    exfalso
    simp only [List.mem_cons, List.not_mem_nil, or_false] at h
  · rcases h with h | h <;> exact hbyte _ (by omega) (by omega) h
  · rcases h with h | h | h <;> exact hbyte _ (by omega) (by omega) h
  · rcases h with h | h | h | h <;> exact hbyte _ (by omega) (by omega) h

theorem newline_not_mem_utf8 {text : List Char} (h : '\n' ∉ text) :
    Lines.newline ∉ utf8 text := by
  intro hmem
  obtain ⟨c, hc, hbyte⟩ := List.mem_flatMap.mp hmem
  exact h (eq_newline_of_mem_utf8EncodeChar hbyte ▸ hc)

end DatabaseSync.JsonText
