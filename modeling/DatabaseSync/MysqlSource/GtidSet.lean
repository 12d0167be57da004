import DatabaseSync.Library.Text
import DatabaseSync.PostgresqlSink.Gtids
import Mathlib.Data.Set.Lattice

/-! # GTID sets of a MySQL server

What a server writes as the set of its executed transactions, and how the source reads it. The
server separates the groups of its UUIDs by a comma and a line break; from 8.4 on a group may hold
an untagged list and the lists of several tags.
-/

namespace DatabaseSync.MysqlSource

open PostgresqlSink (Gtid)
open Text

/-! ## The text of a server -/

/-- The transactions from `first` to `last`. -/
structure Interval where
  first : ℕ
  last : ℕ
  pos : 0 < first
  le : first ≤ last
  bound : last < 2 ^ 63

def Interval.text (interval : Interval) : List Char :=
  if interval.first = interval.last then Nat.toDigits 10 interval.first
  else Nat.toDigits 10 interval.first ++ '-' :: Nat.toDigits 10 interval.last

def Interval.range (interval : Interval) : ℕ × ℕ := (interval.first, interval.last)

/-- A letter or an underscore, then letters, digits and underscores. -/
def isTag : List Char → Bool
  | [] => false
  | c :: tag => (isAsciiAlphanumeric c && !isAsciiDigit c || c == '_') &&
    tag.all fun c => isAsciiAlphanumeric c || c == '_'

/-- The intervals of a UUID under one tag, or without a tag. -/
structure Section where
  tag : Option (List Char)
  intervals : List Interval
  tag_valid : ∀ t ∈ tag, isTag t = true
  nonempty : intervals ≠ []

def Section.parts (s : Section) : List (List Char) :=
  s.tag.toList ++ s.intervals.map Interval.text

/-- The sections of one UUID. Only the first may be without a tag. -/
structure Group where
  uuid : List Char
  sections : List Section
  uuid_valid : uuid.length = 36 ∧ ∀ c ∈ uuid, isAsciiHexDigit c = true ∨ c = '-'
  nonempty : sections ≠ []
  tagged : ∀ s ∈ sections.tail, s.tag.isSome = true

def Group.parts (group : Group) : List (List Char) :=
  group.uuid :: group.sections.flatMap Section.parts

def Group.text (group : Group) : List Char := [':'].intercalate group.parts

def Group.denote (group : Group) : Set Gtid :=
  {gtid | gtid.uuid = toAsciiLowercase (String.ofList group.uuid) ∧ ∃ s ∈ group.sections,
    gtid.tag = s.tag.map (fun tag => toAsciiLowercase (String.ofList tag)) ∧
    ∃ interval ∈ s.intervals, interval.first ≤ gtid.number ∧ gtid.number ≤ interval.last}

/-- Groups, each with the white space before it. -/
structure GtidReport where
  groups : List (List Char × Group)
  blank : ∀ group ∈ groups, ∀ c ∈ group.1, isWhitespace c = true

namespace GtidReport

def text (report : GtidReport) : String :=
  String.ofList ([','].intercalate (report.groups.map fun group => group.1 ++ group.2.text))

def denote (report : GtidReport) : Set Gtid :=
  {gtid | ∃ group ∈ report.groups, gtid ∈ group.2.denote}

/-- No white space, and one section for each UUID group. -/
def Plain (report : GtidReport) : Prop :=
  ∀ group ∈ report.groups, group.1 = [] ∧ group.2.sections.length = 1

end GtidReport

/-! ## The source's reader -/

/-- `Sid::from_str`, which reads no group as anything but its transactions, and the text of its
error with the rejected entry. -/
structure SidLibrary where
  fromStr : String → Except String (Set Gtid)
  entryError : String → String → String
  denotes : ∀ (group : Group) set, fromStr (String.ofList group.text) = .ok set →
    set = group.denote

/-- `parse_gtid_set` -/
def parseGtidSet (library : SidLibrary) (value : String) : Except String (List (Set Gtid)) :=
  if isBlank value then .ok []
  else (((split value ',').map trim).filter fun sid => !sid.isEmpty).mapM fun sid =>
    (library.fromStr sid).mapError (library.entryError sid)

/-! ## The characters of a group -/

/-- The characters between the colons of a group. -/
def isPartChar (c : Char) : Bool := isAsciiAlphanumeric c || c == '_' || c == '-'

theorem isPartChar_range {c : Char} (h : isPartChar c = true) : 45 ≤ c.toNat ∧ c.toNat ≤ 122 := by
  have hnat : c.toNat = c.val.toNat := rfl
  simp only [isPartChar, isAsciiAlphanumeric, isAsciiDigit, Bool.or_eq_true, Bool.and_eq_true,
    decide_eq_true_eq, beq_iff_eq, Char.le_def, UInt32.le_iff_toNat_le] at h
  rcases h with (((h | h) | h) | rfl) | rfl
  · have hlower : '0'.val.toNat = 48 := rfl
    have hupper : '9'.val.toNat = 57 := rfl
    omega
  · have hlower : 'a'.val.toNat = 97 := rfl
    have hupper : 'z'.val.toNat = 122 := rfl
    omega
  · have hlower : 'A'.val.toNat = 65 := rfl
    have hupper : 'Z'.val.toNat = 90 := rfl
    omega
  · decide
  · decide

theorem isPartChar_not_whitespace {c : Char} (h : isPartChar c = true) :
    isWhitespace c = false := by
  have hrange := isPartChar_range h
  simp only [isWhitespace, Bool.or_eq_false_iff, Bool.and_eq_false_iff, decide_eq_false_iff_not,
    beq_eq_false_iff_ne]
  omega

theorem isPartChar_of_hexDigit {c : Char} (h : isAsciiHexDigit c = true) : isPartChar c = true := by
  simp only [isAsciiHexDigit, Bool.or_eq_true, Bool.and_eq_true, decide_eq_true_eq] at h
  simp only [isPartChar, isAsciiAlphanumeric, Bool.or_eq_true, Bool.and_eq_true, decide_eq_true_eq]
  rcases h with (h | h) | h
  · exact .inl (.inl (.inl (.inl h)))
  · exact .inl (.inl (.inl (.inr ⟨h.1, h.2.trans (by decide)⟩)))
  · exact .inl (.inl (.inr ⟨h.1, h.2.trans (by decide)⟩))

theorem isPartChar_of_mem_toDigits {c : Char} {n : ℕ} (h : c ∈ Nat.toDigits 10 n) :
    isPartChar c = true := by
  simp [isPartChar, isAsciiAlphanumeric, isAsciiDigit_of_mem h]

theorem Interval.isPartChar_of_mem {interval : Interval} {c : Char} (h : c ∈ interval.text) :
    isPartChar c = true := by
  unfold text at h
  split at h
  · exact isPartChar_of_mem_toDigits h
  · rw [List.mem_append, List.mem_cons] at h
    rcases h with h | rfl | h
    · exact isPartChar_of_mem_toDigits h
    · rfl
    · exact isPartChar_of_mem_toDigits h

theorem isTag_iff {tag : List Char} : isTag tag = true ↔ ∃ c rest, tag = c :: rest ∧
    (isAsciiAlphanumeric c = true ∧ isAsciiDigit c = false ∨ c = '_') ∧
    ∀ c ∈ rest, isAsciiAlphanumeric c = true ∨ c = '_' := by
  cases tag with
  | nil => simp [isTag]
  | cons c rest => simp [isTag]

/-- The characters of a tag. -/
theorem isTag_mem {tag : List Char} (h : isTag tag = true) {c : Char} (hc : c ∈ tag) :
    isAsciiAlphanumeric c = true ∨ c = '_' := by
  obtain ⟨first, rest, rfl, hfirst, hrest⟩ := isTag_iff.mp h
  rcases List.mem_cons.mp hc with rfl | hc
  · exact hfirst.imp_left (·.1)
  · exact hrest c hc

theorem Group.isPartChar_of_mem {group : Group} {part : List Char} (hpart : part ∈ group.parts)
    {c : Char} (hc : c ∈ part) : isPartChar c = true := by
  rcases List.mem_cons.mp hpart with rfl | hpart
  · rcases group.uuid_valid.2 c hc with hhex | rfl
    · exact isPartChar_of_hexDigit hhex
    · rfl
  · obtain ⟨s, hs, hpart⟩ := List.mem_flatMap.mp hpart
    rcases List.mem_append.mp hpart with hpart | hpart
    · have htag := s.tag_valid part (by simpa using hpart)
      rcases isTag_mem htag hc with halpha | rfl
      · simp [isPartChar, halpha]
      · rfl
    · obtain ⟨interval, -, rfl⟩ := List.mem_map.mp hpart
      exact interval.isPartChar_of_mem hc

theorem Group.text_char {group : Group} {c : Char} (h : c ∈ group.text) :
    isPartChar c = true ∨ c = ':' := by
  rcases mem_intercalate h with rfl | ⟨part, hpart, h⟩
  · exact .inr rfl
  · exact .inl (group.isPartChar_of_mem hpart h)

theorem Group.text_not_whitespace {group : Group} {c : Char} (h : c ∈ group.text) :
    isWhitespace c = false ∧ c ≠ ',' := by
  rcases group.text_char h with hchar | rfl
  · refine ⟨isPartChar_not_whitespace hchar, ?_⟩
    rintro rfl
    cases hchar
  · exact ⟨by decide, by decide⟩

theorem Group.text_ne_nil (group : Group) : group.text ≠ [] := by
  obtain ⟨c, rest, hcons⟩ := List.exists_cons_of_length_eq_add_one group.uuid_valid.1
  rw [text, parts, hcons, List.intercalate_cons_cons_left]
  exact List.cons_ne_nil _ _

/-! ## The groups of a report -/

theorem trim_group {blank : List Char} {group : Group}
    (hblank : ∀ c ∈ blank, isWhitespace c = true) :
    trim (String.ofList (blank ++ group.text)) = String.ofList group.text := by
  have hchars : ∀ c ∈ group.text, ¬ isWhitespace c = true := fun c hc => by
    simp [(group.text_not_whitespace hc).1]
  have hdrop : ∀ {l : List Char}, (∀ c ∈ l, ¬ isWhitespace c = true) →
      l.dropWhile isWhitespace = l := by
    intro l hl
    cases l with
    | nil => rfl
    | cons c l => exact List.dropWhile_cons_of_neg (hl c List.mem_cons_self)
  rw [trim, String.toList_ofList, List.dropWhile_append_of_pos hblank, hdrop hchars,
    hdrop fun c hc => hchars c (List.mem_reverse.mp hc), List.reverse_reverse]

namespace GtidReport

theorem split_text {report : GtidReport} (h : report.groups ≠ []) :
    split report.text ',' =
      report.groups.map fun group => String.ofList (group.1 ++ group.2.text) := by
  have hcomma : ∀ l ∈ report.groups.map fun group => group.1 ++ group.2.text, ',' ∉ l := by
    rintro l hl hmem
    obtain ⟨group, hgroup, rfl⟩ := List.mem_map.mp hl
    rcases List.mem_append.mp hmem with hmem | hmem
    · exact absurd (report.blank group hgroup _ hmem) (by decide)
    · exact (group.2.text_not_whitespace hmem).2 rfl
  rw [split, text, String.toList_ofList, List.splitOn_intercalate _ hcomma (by simpa using h),
    List.map_map]
  rfl

/-- The texts between the commas. -/
theorem filter_split_text (report : GtidReport) :
    ((split report.text ',').filter fun part => !part.isEmpty) =
      report.groups.map fun group => String.ofList (group.1 ++ group.2.text) := by
  by_cases hnil : report.groups = []
  · rw [split, text, hnil]
    rfl
  · rw [split_text hnil, List.filter_eq_self]
    intro part hpart
    obtain ⟨group, -, rfl⟩ := List.mem_map.mp hpart
    simp [group.2.text_ne_nil]

theorem filter_trim_split_text (report : GtidReport) :
    (((split report.text ',').map trim).filter fun sid => !sid.isEmpty) =
      report.groups.map fun group => String.ofList group.2.text := by
  by_cases hnil : report.groups = []
  · rw [split, text, hnil]
    rfl
  · have htrim : (split report.text ',').map trim =
        report.groups.map fun group => String.ofList group.2.text := by
      rw [split_text hnil, List.map_map]
      exact List.map_congr_left fun group hgroup => trim_group (report.blank group hgroup)
    rw [htrim, List.filter_eq_self]
    intro part hpart
    obtain ⟨group, -, rfl⟩ := List.mem_map.mp hpart
    simp [group.2.text_ne_nil]

theorem groups_of_isBlank {report : GtidReport} (h : isBlank report.text = true) :
    report.groups = [] := by
  by_contra hnil
  obtain ⟨group, rest, hgroups⟩ := List.exists_cons_of_ne_nil hnil
  obtain ⟨c, cs, hc⟩ := List.exists_cons_of_ne_nil group.2.text_ne_nil
  rw [isBlank, text, hgroups, String.toList_ofList, List.all_eq_true] at h
  have hmem : c ∈ [','].intercalate
      ((group :: rest).map fun group => group.1 ++ group.2.text) := by
    rw [List.map_cons, hc]
    cases rest with
    | nil => simp
    | cons next rest => simp
  have hblank := h c hmem
  rw [(group.2.text_not_whitespace (hc ▸ List.mem_cons_self)).1] at hblank
  cases hblank

/-- Where the source reads a report, it reads the transactions of its groups. -/
theorem parseGtidSet_eq_ok {library : SidLibrary} {report : GtidReport} {sids : List (Set Gtid)}
    (h : parseGtidSet library report.text = .ok sids) :
    sids = report.groups.map fun group => group.2.denote := by
  unfold parseGtidSet at h
  split at h
  · next hblank =>
    cases h
    rw [groups_of_isBlank hblank]
    rfl
  · rw [filter_trim_split_text] at h
    have hsids := Checked.mapM_eq_ok h
    rw [List.forall₂_map_left_iff] at hsids
    rw [← List.forall₂_eq_eq_eq, List.forall₂_map_right_iff]
    refine hsids.flip.imp fun set group hset => ?_
    exact library.denotes group.2 set (Checked.mapError_eq_ok.mp hset)

end GtidReport

end DatabaseSync.MysqlSource
