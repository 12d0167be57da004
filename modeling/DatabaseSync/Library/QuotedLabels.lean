import DatabaseSync.Library.Checked
import DatabaseSync.Library.Text
import Mathlib.Data.List.TakeWhile

/-! # Lists of quoted labels

Labels in single quotes with commas between them. In a label a doubled quote stands for a quote, and
the character after a backslash for one that the dialect chooses.
-/

namespace DatabaseSync.QuotedLabels

open Checked Text

/-- What a backslash makes of the character after it, and the errors of the reader. -/
structure Dialect (ε : Type) where
  unescape : Char → Char
  unquoted : ε
  dangling : ε
  badLabel : ε
  repeated : ε
  unseparated : ε
  noLabel : ε

variable {ε : Type} (dialect : Dialect ε)

/-! ## The reader -/

def skipSpaces (chars : List Char) : List Char := chars.dropWhile isWhitespace

/-- The label after an opening quote, and what follows its closing quote. -/
def readLabel : List Char → Except ε (List Char × List Char)
  | [] => .error dialect.badLabel
  | '\\' :: chars =>
    match chars with
    | [] => .error dialect.dangling
    | escaped :: chars => do
      let (label, rest) ← readLabel chars
      return (dialect.unescape escaped :: label, rest)
  | '\'' :: chars =>
    match chars with
    | '\'' :: chars => do
      let (label, rest) ← readLabel chars
      return ('\'' :: label, rest)
    | _ => .ok ([], chars)
  | other :: chars => do
    let (label, rest) ← readLabel chars
    return (other :: label, rest)

/-- The labels after those that are known. Every round consumes a quote, so that the length of the
text is fuel enough. -/
def readLabels : ℕ → List (List Char) → List Char → Except ε (List (List Char))
  | 0, _, _ => .error dialect.noLabel
  | fuel + 1, known, chars =>
    match skipSpaces chars with
    | [] => .ok known
    | first :: chars =>
      if first ≠ '\'' then .error dialect.unquoted
      else do
        let (label, rest) ← readLabel dialect chars
        if label = [] ∨ '\x00' ∈ label then throw dialect.badLabel
        if label ∈ known then throw dialect.repeated
        match skipSpaces rest with
        | [] => return known ++ [label]
        | next :: rest =>
          if next = ',' then readLabels fuel (known ++ [label]) rest
          else throw dialect.unseparated

def parseLabels (chars : List Char) : Except ε (List (List Char)) := do
  let labels ← readLabels dialect (chars.length + 1) [] chars
  if labels = [] then throw dialect.noLabel
  return labels

/-! ## The grammar -/

/-- A text between quotes and the label that it stands for. -/
inductive LabelText : List Char → List Char → Prop
  | nil : LabelText [] []
  | escape (c : Char) {text label : List Char} (h : LabelText text label) :
      LabelText ('\\' :: c :: text) (dialect.unescape c :: label)
  | quote {text label : List Char} (h : LabelText text label) :
      LabelText ('\'' :: '\'' :: text) ('\'' :: label)
  | plain {c : Char} (hescape : c ≠ '\\') (hquote : c ≠ '\'') {text label : List Char}
      (h : LabelText text label) : LabelText (c :: text) (c :: label)

def Spaces (chars : List Char) : Prop := ∀ c ∈ chars, isWhitespace c = true

/-- A quoted label with spaces around it. -/
inductive Item : List Char → List Char → Prop
  | mk {before text label after : List Char} (hbefore : Spaces before)
      (htext : LabelText dialect text label) (hafter : Spaces after) :
      Item (before ++ '\'' :: (text ++ '\'' :: after)) label

/-- Quoted labels with a comma between each two of them. -/
inductive Sequence : List Char → List (List Char) → Prop
  | single {item label : List Char} (h : Item dialect item label) : Sequence item [label]
  | cons {item label chars : List Char} {labels : List (List Char)} (h : Item dialect item label)
      (hrest : Sequence chars labels) : Sequence (item ++ ',' :: chars) (label :: labels)

/-! ## Labels -/

section

variable {dialect} {chars rest text label item : List Char} {labels known : List (List Char)}

theorem readLabel_plain {c : Char} (hescape : c ≠ '\\') (hquote : c ≠ '\'') :
    readLabel dialect (c :: chars) =
      (readLabel dialect chars).map fun p => (c :: p.1, p.2) := by
  rw [readLabel]
  · cases readLabel dialect chars with
    | error e => rfl
    | ok p => rfl
  · exact hescape
  · exact hquote

/-- A label is read up to the quote that no other quote follows. -/
theorem readLabel_append (h : LabelText dialect text label) (hrest : rest.head? ≠ some '\'') :
    readLabel dialect (text ++ '\'' :: rest) = .ok (label, rest) := by
  induction h with
  | nil =>
    rw [List.nil_append, readLabel]
    rintro chars rfl
    exact hrest rfl
  | escape c h ih =>
    rw [List.cons_append, List.cons_append, readLabel, ih]
    rfl
  | quote h ih =>
    rw [List.cons_append, List.cons_append, readLabel, ih]
    rfl
  | plain hescape hquote h ih =>
    rw [List.cons_append, readLabel_plain hescape hquote, ih]
    rfl

theorem labelText_of_readLabel (h : readLabel dialect chars = .ok (label, rest)) :
    ∃ text, LabelText dialect text label ∧ chars = text ++ '\'' :: rest ∧
      rest.head? ≠ some '\'' := by
  fun_induction readLabel dialect chars generalizing label rest with
  | case1 => cases h
  | case2 => cases h
  | case3 escaped chars ih =>
    obtain ⟨⟨label, rest⟩, hread, hlabel⟩ := bind_eq_ok.mp h
    cases hlabel
    obtain ⟨text, htext, rfl, hrest⟩ := ih hread
    exact ⟨_, .escape escaped htext, rfl, hrest⟩
  | case4 chars ih =>
    obtain ⟨⟨label, rest⟩, hread, hlabel⟩ := bind_eq_ok.mp h
    cases hlabel
    obtain ⟨text, htext, rfl, hrest⟩ := ih hread
    exact ⟨_, .quote htext, rfl, hrest⟩
  | case5 chars hclosed =>
    cases h
    refine ⟨[], .nil, rfl, ?_⟩
    intro hhead
    obtain ⟨chars, rfl⟩ := List.head?_eq_some_iff.mp hhead
    exact hclosed chars rfl
  | case6 other chars hescape hquote ih =>
    obtain ⟨⟨label, rest⟩, hread, hlabel⟩ := bind_eq_ok.mp h
    cases hlabel
    obtain ⟨text, htext, rfl, hrest⟩ := ih hread
    exact ⟨_, .plain hescape hquote htext, rfl, hrest⟩

/-! ## Spaces -/

theorem isWhitespace_quote : isWhitespace '\'' = false := rfl

theorem isWhitespace_comma : isWhitespace ',' = false := rfl

theorem skipSpaces_append {c : Char} (hspaces : Spaces chars) (hc : isWhitespace c = false) :
    skipSpaces (chars ++ c :: rest) = c :: rest := by
  rw [skipSpaces, List.dropWhile_append_of_pos hspaces, List.dropWhile_cons_of_neg]
  rw [hc]
  exact Bool.false_ne_true

theorem skipSpaces_eq_nil : skipSpaces chars = [] ↔ Spaces chars :=
  List.dropWhile_eq_nil_iff

theorem skipSpaces_eq_cons {c : Char} (h : skipSpaces chars = c :: rest) :
    ∃ before, Spaces before ∧ chars = before ++ c :: rest := by
  refine ⟨chars.takeWhile isWhitespace, ?_, ?_⟩
  · intro d hd
    exact List.mem_takeWhile_imp hd
  · rw [← h, skipSpaces, List.takeWhile_append_dropWhile]

/-! ## Rounds of the reader -/

/-- What the reader asks of a label after others. -/
def Fresh (known : List (List Char)) (label : List Char) : Prop :=
  label ≠ [] ∧ '\x00' ∉ label ∧ label ∉ known

/-- A round reads one quoted label with the spaces around it. -/
theorem readLabels_item {fuel : ℕ} (hitem : Item dialect item label)
    (hrest : rest = [] ∨ rest.head? = some ',') (hfresh : Fresh known label) :
    readLabels dialect (fuel + 1) known (item ++ rest) =
      match rest with
      | [] => .ok (known ++ [label])
      | _ :: rest => readLabels dialect fuel (known ++ [label]) rest := by
  obtain ⟨hne, hnul, hknown⟩ := hfresh
  obtain ⟨hbefore, htext, hafter⟩ := hitem
  rename_i before text after
  have hassoc : before ++ '\'' :: (text ++ '\'' :: after) ++ rest =
      before ++ '\'' :: (text ++ '\'' :: (after ++ rest)) := by simp
  have hhead : (after ++ rest).head? ≠ some '\'' := by
    intro hquote
    cases after with
    | nil =>
      rcases hrest with rfl | hcomma
      · cases hquote
      · rw [List.nil_append, hcomma] at hquote
        cases hquote
    | cons c after =>
      obtain rfl := Option.some.inj hquote
      exact absurd (hafter _ List.mem_cons_self) (by decide)
  rw [readLabels, hassoc, skipSpaces_append hbefore isWhitespace_quote]
  simp only [ne_eq, not_true_eq_false, if_false, readLabel_append htext hhead, ok_bind, hne, hnul,
    hknown, or_self]
  rcases hrest with rfl | hcomma
  · rw [List.append_nil, skipSpaces_eq_nil.mpr hafter]
    rfl
  · obtain ⟨rest, rfl⟩ := List.head?_eq_some_iff.mp hcomma
    rw [skipSpaces_append hafter isWhitespace_comma]
    rfl

/-- What a successful round has read. -/
theorem readLabels_cases {fuel : ℕ} {result : List (List Char)}
    (h : readLabels dialect (fuel + 1) known chars = .ok result) :
    (Spaces chars ∧ result = known) ∨ ∃ item label rest, Item dialect item label ∧
      Fresh known label ∧ chars = item ++ rest ∧
      (rest = [] ∧ result = known ++ [label] ∨ ∃ rest', rest = ',' :: rest' ∧
        readLabels dialect fuel (known ++ [label]) rest' = .ok result) := by
  rw [readLabels] at h
  split at h
  · next hspaces => exact .inl ⟨skipSpaces_eq_nil.mp hspaces, (Except.ok.inj h).symm⟩
  · next first rest hfirst =>
    obtain ⟨before, hbefore, rfl⟩ := skipSpaces_eq_cons hfirst
    simp only [guard_eq_ok, bind_eq_ok, throw_eq, error_bind, not_or, not_not] at h
    obtain ⟨rfl, ⟨label, after⟩, hlabel, ⟨hne, hnul⟩, hknown, h⟩ := h
    obtain ⟨text, htext, rfl, -⟩ := labelText_of_readLabel hlabel
    refine .inr ?_
    split at h
    · next hspaces =>
      refine ⟨_, label, [], .mk hbefore htext (skipSpaces_eq_nil.mp hspaces), ⟨hne, hnul, hknown⟩,
        (List.append_nil _).symm, .inl ⟨rfl, (Except.ok.inj h).symm⟩⟩
    · next next rest hnext =>
      obtain ⟨after, hafter, rfl⟩ := skipSpaces_eq_cons hnext
      obtain ⟨rfl, h⟩ := Checked.ensure_eq_ok.mp h
      exact ⟨_, label, ',' :: rest, .mk hbefore htext hafter, ⟨hne, hnul, hknown⟩, by simp,
        .inr ⟨rest, rfl, h⟩⟩

/-- A sequence, or one with a comma after it. -/
def Accepted (dialect : Dialect ε) (chars : List Char) (labels : List (List Char)) : Prop :=
  Sequence dialect chars labels ∨ ∃ text after,
    chars = text ++ ',' :: after ∧ Sequence dialect text labels ∧ Spaces after

/-- Labels that differ from each other and from those that are known. -/
inductive FreshAll : List (List Char) → List (List Char) → Prop
  | nil {known : List (List Char)} : FreshAll known []
  | cons {known labels : List (List Char)} {label : List Char} (h : Fresh known label)
      (hrest : FreshAll (known ++ [label]) labels) : FreshAll known (label :: labels)

theorem freshAll_iff : FreshAll known labels ↔
    (∀ label ∈ labels, label ≠ [] ∧ '\x00' ∉ label ∧ label ∉ known) ∧ labels.Nodup := by
  induction labels generalizing known with
  | nil => exact iff_of_true .nil ⟨by simp, List.nodup_nil⟩
  | cons label labels ih =>
    constructor
    · rintro (_ | ⟨⟨hne, hnul, hknown⟩, hrest⟩)
      obtain ⟨hall, hnodup⟩ := ih.mp hrest
      refine ⟨?_, List.nodup_cons.mpr ⟨?_, hnodup⟩⟩
      · intro other hother
        rcases List.mem_cons.mp hother with rfl | hother
        · exact ⟨hne, hnul, hknown⟩
        · obtain ⟨hne, hnul, hfresh⟩ := hall other hother
          exact ⟨hne, hnul, fun hmem => hfresh (List.mem_append_left _ hmem)⟩
      · intro hmem
        exact (hall label hmem).2.2 (List.mem_append_right _ (List.mem_singleton.mpr rfl))
    · rintro ⟨hall, hnodup⟩
      obtain ⟨hnot, hnodup⟩ := List.nodup_cons.mp hnodup
      refine .cons (hall label List.mem_cons_self) (ih.mpr ⟨?_, hnodup⟩)
      intro other hother
      obtain ⟨hne, hnul, hfresh⟩ := hall other (List.mem_cons_of_mem _ hother)
      refine ⟨hne, hnul, ?_⟩
      rw [List.mem_append, List.mem_singleton]
      rintro (hmem | rfl)
      · exact hfresh hmem
      · exact hnot hother

/-- Whatever the reader returns after the labels that are known stands in the text. -/
theorem accepted_of_readLabels {fuel : ℕ} {result : List (List Char)}
    (h : readLabels dialect fuel known chars = .ok result) :
    ∃ labels, result = known ++ labels ∧ FreshAll known labels ∧
      (labels = [] ∧ Spaces chars ∨ Accepted dialect chars labels) := by
  induction fuel generalizing known chars with
  | zero => cases h
  | succ fuel ih =>
    obtain ⟨hspaces, rfl⟩ | ⟨item, label, rest, hitem, hfresh, rfl, hrest⟩ := readLabels_cases h
    · exact ⟨[], (List.append_nil _).symm, .nil, .inl ⟨rfl, hspaces⟩⟩
    · obtain ⟨rfl, rfl⟩ | ⟨rest, rfl, hread⟩ := hrest
      · refine ⟨[label], rfl, .cons hfresh .nil, .inr (.inl ?_)⟩
        rw [List.append_nil]
        exact .single hitem
      · obtain ⟨labels, rfl, hall, hend⟩ := ih hread
        refine ⟨label :: labels, by simp, .cons hfresh hall, .inr ?_⟩
        obtain ⟨rfl, hspaces⟩ | hsequence | ⟨text, after, rfl, hsequence, hspaces⟩ := hend
        · exact .inr ⟨item, rest, rfl, .single hitem, hspaces⟩
        · exact .inl (.cons hitem hsequence)
        · exact .inr ⟨item ++ ',' :: text, after, by simp, .cons hitem hsequence, hspaces⟩

theorem Item.length_pos (h : Item dialect item label) : 2 ≤ item.length := by
  obtain ⟨-, -, -⟩ := h
  simp only [List.length_append, List.length_cons]
  omega

theorem readLabels_spaces {fuel : ℕ} (hspaces : Spaces chars) :
    readLabels dialect (fuel + 1) known chars = .ok known := by
  rw [readLabels, skipSpaces_eq_nil.mpr hspaces]

/-- The reader gets to the end of a sequence, or of a comma after it. -/
theorem readLabels_sequence {fuel : ℕ} (hsequence : Sequence dialect chars labels)
    (hall : FreshAll known labels)
    (hrest : rest = [] ∨ ∃ after, rest = ',' :: after ∧ Spaces after)
    (hfuel : chars.length + rest.length < fuel) :
    readLabels dialect fuel known (chars ++ rest) = .ok (known ++ labels) := by
  induction hsequence generalizing known fuel with
  | single hitem =>
    cases hall with
    | cons hfresh =>
      have hlong := hitem.length_pos
      obtain ⟨fuel, rfl⟩ := Nat.exists_eq_add_of_le' (show 2 ≤ fuel by omega)
      obtain rfl | ⟨after, rfl, hspaces⟩ := hrest
      · rw [readLabels_item hitem (.inl rfl) hfresh]
      · rw [readLabels_item hitem (.inr rfl) hfresh]
        exact readLabels_spaces hspaces
  | cons hitem hsequence ih =>
    cases hall with
    | cons hfresh hall =>
      obtain ⟨fuel, rfl⟩ := Nat.exists_eq_add_of_le' (show 1 ≤ fuel by omega)
      rw [List.append_assoc, List.cons_append, readLabels_item hitem (.inr rfl) hfresh]
      dsimp only
      simp only [List.length_append, List.length_cons] at hfuel
      rw [ih hall (by omega), List.append_assoc]
      rfl

theorem labels_ne_nil (h : Sequence dialect chars labels) : labels ≠ [] := by
  cases h with
  | single => exact List.cons_ne_nil _ _
  | cons => exact List.cons_ne_nil _ _

/-- The reader takes the sequences, also with a comma after them, of labels that differ from each
other, are not empty and have no NUL in them. -/
theorem parseLabels_eq_ok : parseLabels dialect chars = .ok labels ↔
    Accepted dialect chars labels ∧ (∀ label ∈ labels, label ≠ [] ∧ '\x00' ∉ label) ∧
      labels.Nodup := by
  have hfresh : FreshAll [] labels ↔
      (∀ label ∈ labels, label ≠ [] ∧ '\x00' ∉ label) ∧ labels.Nodup := by
    rw [freshAll_iff]
    simp
  rw [parseLabels, ← hfresh]
  constructor
  · intro h
    simp only [bind_eq_ok, guard_eq_ok, throw_eq, error_bind, pure_eq, Except.ok.injEq] at h
    obtain ⟨result, hread, hne, rfl⟩ := h
    obtain ⟨labels, rfl, hall, ⟨rfl, -⟩ | haccepted⟩ := accepted_of_readLabels hread
    · exact absurd rfl hne
    · exact ⟨haccepted, hall⟩
  · rintro ⟨haccepted, hall⟩
    have hread : readLabels dialect (chars.length + 1) [] chars = .ok labels := by
      obtain hsequence | ⟨text, after, rfl, hsequence, hspaces⟩ := haccepted
      · have hread := @readLabels_sequence ε dialect chars [] labels [] (chars.length + 1)
          hsequence hall (.inl rfl) (Nat.lt_succ_self _)
        rwa [List.append_nil, List.nil_append] at hread
      · have hread := @readLabels_sequence ε dialect text (',' :: after) labels []
          ((text ++ ',' :: after).length + 1) hsequence hall (.inr ⟨after, rfl, hspaces⟩)
          (by rw [List.length_append]; exact Nat.lt_succ_self _)
        rwa [List.nil_append] at hread
    have hne : labels ≠ [] := by
      obtain hsequence | ⟨text, after, -, hsequence, -⟩ := haccepted
      · exact labels_ne_nil hsequence
      · exact labels_ne_nil hsequence
    simp only [hread, ok_bind, if_neg hne, pure_eq]

/-! ## Writers -/

/-- A label in quotes, with its characters written by a function. -/
def quoted (write : Char → List Char) (label : List Char) : List Char :=
  '\'' :: (label.flatMap write ++ ['\''])

theorem labelText_flatMap {write : Char → List Char}
    (hwrite : ∀ c ∈ label, ∀ text rest, LabelText dialect text rest →
      LabelText dialect (write c ++ text) (c :: rest)) :
    LabelText dialect (label.flatMap write) label := by
  induction label with
  | nil => exact .nil
  | cons c label ih =>
    rw [List.flatMap_cons]
    exact hwrite c List.mem_cons_self _ _ (ih fun d hd => hwrite d (List.mem_cons_of_mem c hd))

/-- Quoted labels joined by commas are a sequence. -/
theorem sequence_quoted {write : Char → List Char} (hne : labels ≠ [])
    (hwrite : ∀ label ∈ labels, LabelText dialect (label.flatMap write) label) :
    Sequence dialect ([','].intercalate (labels.map (quoted write))) labels := by
  have hitem : ∀ label ∈ labels, Item dialect (quoted write label) label := by
    intro label hlabel
    have hspaces : Spaces [] := by
      intro c hc
      cases hc
    exact .mk hspaces (hwrite label hlabel) hspaces
  induction labels with
  | nil => exact absurd rfl hne
  | cons label labels ih =>
    have hfirst := hitem label List.mem_cons_self
    have hlater := fun l hl => hitem l (List.mem_cons_of_mem _ hl)
    cases labels with
    | nil =>
      rw [List.map_singleton, List.intercalate_singleton]
      exact .single hfirst
    | cons next labels =>
      rw [List.map_cons, List.map_cons, List.intercalate_cons_cons, List.append_assoc]
      exact .cons hfirst (ih (List.cons_ne_nil _ _)
        (fun l hl => hwrite l (List.mem_cons_of_mem _ hl)) hlater)

/-! ## Labels in brackets -/

/-- A name with a text in brackets after it. -/
def bracketed (head members : List Char) : String :=
  String.ofList (head ++ '(' :: (members ++ [')']))

variable {head members : List Char}

@[simp]
theorem toList_bracketed : (bracketed head members).toList = head ++ '(' :: (members ++ [')']) :=
  String.toList_ofList

theorem trim_bracketed {first : Char} (hfirst : isWhitespace first = false) :
    trim (bracketed (first :: head) members) = bracketed (first :: head) members := by
  have hbracket : isWhitespace ')' = false := rfl
  have hreverse : (bracketed (first :: head) members).toList.reverse =
      ')' :: (members.reverse ++ '(' :: (head.reverse ++ [first])) := by simp
  have hstart : (bracketed (first :: head) members).toList.dropWhile isWhitespace =
      (bracketed (first :: head) members).toList := by
    rw [toList_bracketed, List.cons_append, List.dropWhile_cons_of_neg (by simp [hfirst])]
  rw [trim, hstart, hreverse, List.dropWhile_cons_of_neg (by simp [hbracket]), ← hreverse,
    List.reverse_reverse, String.ofList_toList]

theorem splitOnce_bracketed (h : '(' ∉ head) : splitOnce (bracketed head members) '(' =
    some (String.ofList head, String.ofList (members ++ [')'])) := by
  rw [splitOnce, toList_bracketed, splitFirst_append h]
  rfl

theorem rsplitOnce_bracketed : rsplitOnce (String.ofList (members ++ [')'])) ')' =
    some (String.ofList members, "") := by
  rw [rsplitOnce, String.toList_ofList, List.reverse_append, List.reverse_singleton]
  simp [splitFirst]

end

end DatabaseSync.QuotedLabels
