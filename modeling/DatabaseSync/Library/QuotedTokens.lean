import DatabaseSync.Library.Checked
import Mathlib.Data.List.Basic

/-! # Tokens with quotes and escapes

A token is a list of symbols that is written between quotes or bare. Between quotes a doubled quote
stands for a quote; in both forms an escape stands for the symbol after it. A bare token ends
before a symbol that stops it. The readers accept exactly the spellings of a token.
-/

namespace DatabaseSync.QuotedTokens

open Checked

variable {α : Type} [DecidableEq α]

/-- The symbol that opens and closes a quoted token, and the symbol that escapes another one. -/
structure Marks (α : Type) where
  quote : α
  escape : α
  distinct : quote ≠ escape

inductive Failure
  | unterminated
  | truncated
deriving DecidableEq, Repr

/-- One more symbol before what has been read. -/
def prepend (a : α) : List α × List α → List α × List α := fun (value, rest) => (a :: value, rest)

/-- The value of a quoted token up to its closing quote, and what comes after it. -/
def readQuoted (m : Marks α) : List α → Except Failure (List α × List α)
  | [] => .error .unterminated
  | [a] =>
    if a = m.quote then .ok ([], [])
    else if a = m.escape then .error .truncated
    else .error .unterminated
  | a :: b :: l =>
    if a = m.quote then
      if b = m.quote then (readQuoted m l).map (prepend m.quote) else .ok ([], b :: l)
    else if a = m.escape then (readQuoted m l).map (prepend b)
    else (readQuoted m (b :: l)).map (prepend a)

/-- The value of a bare token up to a symbol that stops it, and what is left. -/
def readBare (m : Marks α) (stops : α → Bool) : List α → Except Failure (List α × List α)
  | [] => .ok ([], [])
  | [a] =>
    if stops a then .ok ([], [a])
    else if a = m.escape then .error .truncated
    else .ok ([a], [])
  | a :: b :: l =>
    if stops a then .ok ([], a :: b :: l)
    else if a = m.escape then (readBare m stops l).map (prepend b)
    else (readBare m stops (b :: l)).map (prepend a)

/-- The texts that stand for a value between quotes. -/
inductive Quoted (m : Marks α) : List α → List α → Prop
  | nil : Quoted m [] []
  | plain {a : α} {value text : List α} (hquote : a ≠ m.quote) (hescape : a ≠ m.escape) :
      Quoted m value text → Quoted m (a :: value) (a :: text)
  | doubled {value text : List α} :
      Quoted m value text → Quoted m (m.quote :: value) (m.quote :: m.quote :: text)
  | escaped {a : α} {value text : List α} :
      Quoted m value text → Quoted m (a :: value) (m.escape :: a :: text)

/-- The texts that stand for a value without quotes. -/
inductive Bare (m : Marks α) (stops : α → Bool) : List α → List α → Prop
  | nil : Bare m stops [] []
  | plain {a : α} {value text : List α} (hstops : stops a = false) (hescape : a ≠ m.escape) :
      Bare m stops value text → Bare m stops (a :: value) (a :: text)
  | escaped {a : α} {value text : List α} (hstops : stops m.escape = false) :
      Bare m stops value text → Bare m stops (a :: value) (m.escape :: a :: text)

variable {m : Marks α} {stops : α → Bool} {value text rest l : List α} {a : α}

/-! ## Quoted tokens -/

theorem readQuoted_doubled :
    readQuoted m (m.quote :: m.quote :: l) = (readQuoted m l).map (prepend m.quote) := by
  rw [readQuoted, if_pos rfl, if_pos rfl]

theorem readQuoted_closed (h : ∀ b ∈ rest.head?, b ≠ m.quote) :
    readQuoted m (m.quote :: rest) = .ok ([], rest) := by
  cases rest with
  | nil => rw [readQuoted, if_pos rfl]
  | cons b rest => rw [readQuoted, if_pos rfl, if_neg (h b rfl)]

theorem readQuoted_escaped :
    readQuoted m (m.escape :: a :: l) = (readQuoted m l).map (prepend a) := by
  rw [readQuoted, if_neg m.distinct.symm, if_pos rfl]

theorem readQuoted_plain (hquote : a ≠ m.quote) (hescape : a ≠ m.escape) :
    readQuoted m (a :: l) = (readQuoted m l).map (prepend a) := by
  cases l with
  | nil =>
    simp only [readQuoted, if_neg hquote, if_neg hescape]
    rfl
  | cons b l => rw [readQuoted, if_neg hquote, if_neg hescape]

/-- Every spelling between quotes is read as its value. -/
theorem Quoted.read (h : Quoted m value text) (hrest : ∀ b ∈ rest.head?, b ≠ m.quote) :
    readQuoted m (text ++ m.quote :: rest) = .ok (value, rest) := by
  induction h with
  | nil => exact readQuoted_closed hrest
  | plain hquote hescape _ ih =>
    rw [List.cons_append, readQuoted_plain hquote hescape, ih]
    rfl
  | doubled _ ih =>
    rw [List.cons_append, List.cons_append, readQuoted_doubled, ih]
    rfl
  | escaped _ ih =>
    rw [List.cons_append, List.cons_append, readQuoted_escaped, ih]
    rfl

/-- What is read as a quoted token is a spelling of it, up to a quote that is not doubled. -/
theorem readQuoted_eq_ok : readQuoted m l = .ok (value, rest) ↔
    ∃ text, Quoted m value text ∧ l = text ++ m.quote :: rest ∧ ∀ b ∈ rest.head?, b ≠ m.quote := by
  constructor
  · intro h
    induction l using readQuoted.induct m generalizing value with
    | case1 => simp [readQuoted] at h
    | case2 =>
      rw [readQuoted, if_pos rfl] at h
      cases h
      exact ⟨[], .nil, rfl, by simp⟩
    | case3 hquote =>
      rw [readQuoted, if_neg hquote, if_pos rfl] at h
      cases h
    | case4 a hquote hescape =>
      rw [readQuoted, if_neg hquote, if_neg hescape] at h
      cases h
    | case5 l ih =>
      rw [readQuoted_doubled, map_eq_ok] at h
      obtain ⟨⟨value, rest⟩, h, heq⟩ := h
      cases heq
      obtain ⟨text, hspells, rfl, hrest⟩ := ih h
      exact ⟨_, .doubled hspells, rfl, hrest⟩
    | case6 b l hquote =>
      rw [readQuoted, if_pos rfl, if_neg hquote] at h
      cases h
      exact ⟨[], .nil, rfl, by simpa using hquote⟩
    | case7 b l hne ih =>
      rw [readQuoted_escaped, map_eq_ok] at h
      obtain ⟨⟨value, rest⟩, h, heq⟩ := h
      cases heq
      obtain ⟨text, hspells, rfl, hrest⟩ := ih h
      exact ⟨_, .escaped hspells, rfl, hrest⟩
    | case8 a b l hquote hescape ih =>
      rw [readQuoted_plain hquote hescape, map_eq_ok] at h
      obtain ⟨⟨value, rest⟩, h, heq⟩ := h
      cases heq
      obtain ⟨text, hspells, htext, hrest⟩ := ih h
      exact ⟨a :: text, .plain hquote hescape hspells, by rw [htext]; rfl, hrest⟩
  · rintro ⟨text, hspells, rfl, hrest⟩
    exact hspells.read hrest

/-! ## Bare tokens -/

theorem readBare_stopped (h : stops a = true) : readBare m stops (a :: l) = .ok ([], a :: l) := by
  cases l <;> rw [readBare, if_pos h]

theorem readBare_escaped (h : stops m.escape = false) :
    readBare m stops (m.escape :: a :: l) = (readBare m stops l).map (prepend a) := by
  rw [readBare, if_neg (by simp [h]), if_pos rfl]

theorem readBare_plain (hstops : stops a = false) (hescape : a ≠ m.escape) :
    readBare m stops (a :: l) = (readBare m stops l).map (prepend a) := by
  cases l with
  | nil =>
    simp only [readBare, hstops, Bool.false_eq_true, if_false, if_neg hescape]
    rfl
  | cons b l => rw [readBare, if_neg (by simp [hstops]), if_neg hescape]

/-- Every bare spelling is read as its value. -/
theorem Bare.read (h : Bare m stops value text) (hrest : ∀ b ∈ rest.head?, stops b = true) :
    readBare m stops (text ++ rest) = .ok (value, rest) := by
  induction h with
  | nil =>
    cases rest with
    | nil => rfl
    | cons b rest => exact readBare_stopped (hrest b rfl)
  | plain hstops hescape _ ih =>
    rw [List.cons_append, readBare_plain hstops hescape, ih]
    rfl
  | escaped hstops _ ih =>
    rw [List.cons_append, List.cons_append, readBare_escaped hstops, ih]
    rfl

/-- What is read as a bare token is a spelling of it, up to a symbol that stops it. -/
theorem readBare_eq_ok : readBare m stops l = .ok (value, rest) ↔
    ∃ text, Bare m stops value text ∧ l = text ++ rest ∧ ∀ b ∈ rest.head?, stops b = true := by
  constructor
  · intro h
    induction l using readBare.induct m stops generalizing value with
    | case1 =>
      cases h
      exact ⟨[], .nil, rfl, by simp⟩
    | case2 a hstops =>
      rw [readBare_stopped hstops] at h
      cases h
      exact ⟨[], .nil, rfl, by simpa using hstops⟩
    | case3 hstops =>
      rw [readBare, if_neg hstops, if_pos rfl] at h
      cases h
    | case4 a hstops hescape =>
      rw [readBare, if_neg hstops, if_neg hescape] at h
      cases h
      exact ⟨[a], .plain (by simpa using hstops) hescape .nil, rfl, by simp⟩
    | case5 a b l hstops =>
      rw [readBare_stopped hstops] at h
      cases h
      exact ⟨[], .nil, rfl, by simpa using hstops⟩
    | case6 b l hstops ih =>
      have hfree : stops m.escape = false := by simpa using hstops
      rw [readBare_escaped hfree, map_eq_ok] at h
      obtain ⟨⟨value, rest⟩, h, heq⟩ := h
      cases heq
      obtain ⟨text, hspells, rfl, hrest⟩ := ih h
      exact ⟨_, .escaped hfree hspells, rfl, hrest⟩
    | case7 a b l hstops hescape ih =>
      have hfree : stops a = false := by simpa using hstops
      rw [readBare_plain hfree hescape, map_eq_ok] at h
      obtain ⟨⟨value, rest⟩, h, heq⟩ := h
      cases heq
      obtain ⟨text, hspells, htext, hrest⟩ := ih h
      exact ⟨a :: text, .plain hfree hescape hspells, by rw [htext]; rfl, hrest⟩
  · rintro ⟨text, hspells, rfl, hrest⟩
    exact hspells.read hrest

/-! ## Writers -/

/-- A writer that doubles the marks. -/
def doubleMarks (m : Marks α) (value : List α) : List α :=
  value.flatMap fun a => if a = m.quote ∨ a = m.escape then [a, a] else [a]

/-- A writer that puts an escape before the marks. -/
def escapeMarks (m : Marks α) (value : List α) : List α :=
  value.flatMap fun a => if a = m.quote ∨ a = m.escape then [m.escape, a] else [a]

theorem quoted_doubleMarks (value : List α) : Quoted m value (doubleMarks m value) := by
  induction value with
  | nil => exact .nil
  | cons a value ih =>
    rw [doubleMarks, List.flatMap_cons]
    by_cases hquote : a = m.quote
    · rw [if_pos (Or.inl hquote), hquote]
      exact .doubled ih
    · by_cases hescape : a = m.escape
      · rw [if_pos (Or.inr hescape), hescape]
        exact .escaped ih
      · rw [if_neg (by simp [hquote, hescape])]
        exact .plain hquote hescape ih

theorem quoted_escapeMarks (value : List α) : Quoted m value (escapeMarks m value) := by
  induction value with
  | nil => exact .nil
  | cons a value ih =>
    rw [escapeMarks, List.flatMap_cons]
    split
    · exact .escaped ih
    · next hmark =>
      obtain ⟨hquote, hescape⟩ := not_or.mp hmark
      exact .plain hquote hescape ih

omit [DecidableEq α] in
/-- A value without the escape and the symbols that stop it spells itself. -/
theorem bare_self (hstops : ∀ b ∈ value, stops b = false) (hescape : m.escape ∉ value) :
    Bare m stops value value := by
  induction value with
  | nil => exact .nil
  | cons a value ih =>
    rw [List.mem_cons, not_or] at hescape
    obtain ⟨hhead, htail⟩ := List.forall_mem_cons.mp hstops
    exact .plain hhead (Ne.symm hescape.1) (ih htail hescape.2)

/-! ## Texts with separators -/

section Separated
variable {β : Type} {Item Item' : β → List α → Prop} {separator : List α} {b : β} {items : List β}

/-- The texts of the items stand one after another, with a separator between two of them. -/
inductive Separated (Item : β → List α → Prop) (separator : List α) : List β → List α → Prop
  | single {b : β} {text : List α} (hitem : Item b text) : Separated Item separator [b] text
  | cons {b : β} {items : List β} {text rest : List α} (hitem : Item b text)
      (hrest : Separated Item separator items rest) :
      Separated Item separator (b :: items) (text ++ (separator ++ rest))

omit [DecidableEq α] in
theorem Separated.ne_nil (h : Separated Item separator items text) : items ≠ [] := by
  cases h <;> nofun

omit [DecidableEq α] in
theorem Separated.imp (h : Separated Item separator items text)
    (himp : ∀ b ∈ items, ∀ text, Item b text → Item' b text) :
    Separated Item' separator items text := by
  induction h with
  | single hitem => exact .single (himp _ List.mem_cons_self _ hitem)
  | cons hitem _ ih =>
    refine .cons (himp _ List.mem_cons_self _ hitem) (ih fun b hb => ?_)
    exact himp b (List.mem_cons_of_mem _ hb)

omit [DecidableEq α] in
/-- Items of which each has a text have one together. -/
theorem separated_intercalate {texts : List (List α)} (hne : items ≠ [])
    (h : List.Forall₂ Item items texts) :
    Separated Item separator items (separator.intercalate texts) := by
  induction h with
  | nil => exact absurd rfl hne
  | @cons b text items texts hitem hitems ih =>
    cases hitems with
    | nil =>
      rw [List.intercalate, List.intersperse_singleton, List.flatten_singleton]
      exact .single hitem
    | cons hsecond hrest =>
      rw [List.intercalate, List.intersperse_cons_cons, List.flatten_cons, List.flatten_cons]
      exact .cons hitem (ih nofun)

end Separated

end DatabaseSync.QuotedTokens
