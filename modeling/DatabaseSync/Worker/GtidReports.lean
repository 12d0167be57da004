import DatabaseSync.MysqlSource.GtidSet

/-! # The GTID sets of a MySQL source in a PostgreSQL checkpoint

The checkpoint's reader takes the set that a source reports as the source itself reads it, unless
there is white space after a comma or a UUID group has more than one section.
-/

namespace DatabaseSync.Worker

open Checked MysqlSource PostgresqlSink Text

/-! ## Intervals and tags -/

theorem splitOnce_text (interval : Interval) : splitOnce (String.ofList interval.text) '-' =
    if interval.first = interval.last then none
    else some (String.ofList (Nat.toDigits 10 interval.first),
      String.ofList (Nat.toDigits 10 interval.last)) := by
  rw [splitOnce, String.toList_ofList, Interval.text]
  split
  · rw [splitFirst_eq_none (minus_notMem_toDigits _), Option.map_none]
  · rw [splitFirst_append (minus_notMem_toDigits _), Option.map_some]

theorem isGtidInterval_text (interval : Interval) :
    isGtidInterval (String.ofList interval.text) = true := by
  rw [isGtidInterval, splitOnce_text]
  by_cases hsingle : interval.first = interval.last
  · rw [if_pos hsingle]
    simp [Interval.text, hsingle, isAsciiDigit_toDigits, Nat.toDigits_ne_nil]
  · rw [if_neg hsingle]
    simp [isAsciiDigit_toDigits, Nat.toDigits_ne_nil]

/-- An interval is read as its range. -/
theorem parseRange_text (interval : Interval) :
    parseRange (String.ofList interval.text) = .ok interval.range := by
  have hlast : interval.last < 2 ^ 64 := interval.bound.trans (by decide)
  have hfirst : interval.first < 2 ^ 64 := lt_of_le_of_lt interval.le hlast
  have hvalid : ¬ (interval.first = 0 ∨ interval.last < interval.first) := by
    have hpos := interval.pos
    have hle := interval.le
    omega
  rw [parseRange, splitOnce_text]
  by_cases hsingle : interval.first = interval.last
  · rw [← hsingle] at hvalid
    rw [if_pos hsingle, Interval.text, if_pos hsingle, Interval.range, ← hsingle]
    simp only [parseNumber_toDigits hfirst, ok_bind, pure_eq, if_neg hvalid]
  · rw [if_neg hsingle, Interval.range]
    simp only [parseNumber_toDigits hfirst, parseNumber_toDigits hlast, ok_bind, pure_eq,
      if_neg hvalid]

theorem parseNumber_of_not_digit {c : Char} {rest : List Char} (hdigit : isAsciiDigit c = false)
    (hplus : c ≠ '+') : parseNumber (String.ofList (c :: rest)) = .error .invalidNumber := by
  have hsign : dropPlus (c :: rest) = c :: rest := by
    unfold dropPlus
    split
    · next h => exact absurd (List.cons.inj h).1 hplus
    · rfl
  have hparse : parseU64 (String.ofList (c :: rest)) = none := by
    rw [parseU64, parseUnsigned, String.toList_ofList, hsign]
    simp [digitsBelow, toDigit_of_not_digit hdigit]
  rw [parseNumber, hparse]

/-- A tag is not an interval, and no range is read from it. -/
theorem isTag_not_interval {tag : List Char} (h : isTag tag = true) :
    isGtidInterval (String.ofList tag) = false ∧
      parseRange (String.ofList tag) = .error .invalidNumber := by
  have hminus : '-' ∉ tag := by
    intro hmem
    rcases isTag_mem h hmem with hchar | hchar
    · exact absurd hchar (by decide)
    · exact absurd hchar (by decide)
  have hsplit : splitOnce (String.ofList tag) '-' = none := by
    rw [splitOnce, String.toList_ofList, splitFirst_eq_none hminus, Option.map_none]
  obtain ⟨c, rest, rfl, hfirst, -⟩ := isTag_iff.mp h
  have hdigit : isAsciiDigit c = false := by
    rcases hfirst with hfirst | rfl
    · exact hfirst.2
    · decide
  have hplus : c ≠ '+' := by
    rintro rfl
    rcases hfirst with hfirst | hfirst
    · exact absurd hfirst.1 (by decide)
    · exact absurd hfirst (by decide)
  constructor
  · rw [isGtidInterval, hsplit]
    simp [hdigit]
  · rw [parseRange, hsplit]
    simp only [parseNumber_of_not_digit hdigit hplus, error_bind]

/-! ## Groups -/

/-- The first section gives the tag, and the parts after it are left. -/
theorem parseTag_section (s : Section) (parts : List (List Char)) :
    ∃ second rest, (s.parts ++ parts).map String.ofList = second :: rest ∧
      parseTag second rest = .ok (s.tag.map fun tag => toAsciiLowercase (String.ofList tag),
        (s.intervals.map Interval.text ++ parts).map String.ofList) := by
  obtain ⟨interval, intervals, hintervals⟩ := List.exists_cons_of_ne_nil s.nonempty
  cases htag : s.tag with
  | none =>
    refine ⟨_, _, by rw [Section.parts, htag, hintervals]; rfl, ?_⟩
    rw [parseTag, isGtidInterval_text, if_pos rfl, hintervals]
    rfl
  | some tag =>
    have hvalid := s.tag_valid tag htag
    have hchars : (String.ofList tag).toList.all (fun c => isAsciiAlphanumeric c || c == '_') =
        true := by
      rw [String.toList_ofList, List.all_eq_true]
      intro c hc
      rcases isTag_mem hvalid hc with hchar | rfl
      · simp [hchar]
      · rfl
    have hempty : (String.ofList tag).isEmpty = false := by
      obtain ⟨c, rest, rfl, -⟩ := isTag_iff.mp hvalid
      simp
    refine ⟨_, _, by rw [Section.parts, htag]; rfl, ?_⟩
    rw [parseTag, (isTag_not_interval hvalid).1, hchars, hempty, hintervals]
    rfl

/-- The ranges of the intervals are read, and nothing after a tag. -/
theorem mapM_parseRange_eq_ok {s : Section} {sections : List Section}
    (htagged : ∀ s ∈ sections, s.tag.isSome = true) {ranges : List (ℕ × ℕ)} :
    ((s.intervals.map Interval.text ++ sections.flatMap Section.parts).map String.ofList).mapM
        parseRange = .ok ranges ↔ sections = [] ∧ ranges = s.intervals.map Interval.range := by
  have hintervals : ((s.intervals.map Interval.text).map String.ofList).mapM parseRange =
      .ok (s.intervals.map Interval.range) := by
    apply mapM_ok_of_forall₂
    rw [List.map_map, List.forall₂_map_left_iff, List.forall₂_map_right_iff, List.forall₂_same]
    exact fun interval _ => parseRange_text interval
  constructor
  · intro h
    cases sections with
    | nil =>
      rw [List.flatMap_nil, List.append_nil, hintervals] at h
      exact ⟨rfl, (Except.ok.inj h).symm⟩
    | cons next rest =>
      obtain ⟨tag, htag⟩ := Option.isSome_iff_exists.mp (htagged next List.mem_cons_self)
      have hmem : String.ofList tag ∈ (s.intervals.map Interval.text ++
          (next :: rest).flatMap Section.parts).map String.ofList := by
        simp [Section.parts, htag]
      obtain ⟨range, -, hrange⟩ := forall₂_mem_right (mapM_eq_ok h).flip hmem
      cases (isTag_not_interval (next.tag_valid tag htag)).2.symm.trans hrange
  · rintro ⟨rfl, rfl⟩
    rw [List.flatMap_nil, List.append_nil, hintervals]

/-! ## The length of a UUID -/

theorem utf8Size_eq_one {c : Char} (h : c.toNat ≤ 127) : c.utf8Size = 1 := by
  have hval : c.val ≤ 0x7F := UInt32.le_iff_toNat_le.mpr h
  simp [Char.utf8Size, hval]

theorem toAsciiLower_toNat_le {c : Char} (h : c.toNat ≤ 122) : (toAsciiLower c).toNat ≤ 122 := by
  unfold toAsciiLower
  split
  · next hupper =>
    have hle : c.toNat ≤ 90 := UInt32.le_iff_toNat_le.mp (Char.le_def.mp hupper.2)
    generalize c.toNat = n at hle
    interval_cases n <;> decide
  · exact h

theorem sum_utf8Size {l : List Char} (h : ∀ c ∈ l, c.toNat ≤ 122) :
    ((l.map toAsciiLower).map Char.utf8Size).sum = l.length := by
  induction l with
  | nil => rfl
  | cons c l ih =>
    have hc := toAsciiLower_toNat_le (h c List.mem_cons_self)
    rw [List.map_cons, List.map_cons, List.sum_cons, utf8Size_eq_one (by omega),
      ih fun c hc => h c (List.mem_cons_of_mem _ hc), List.length_cons, Nat.add_comm]

/-- White space before a UUID makes it longer than 36 bytes. -/
theorem byteLength_uuid (blank : List Char) (group : Group) :
    byteLength (toAsciiLowercase (String.ofList (blank ++ group.uuid))) = 36 ↔ blank = [] := by
  have huuid : ((group.uuid.map toAsciiLower).map Char.utf8Size).sum = 36 := by
    rw [← group.uuid_valid.1]
    exact sum_utf8Size fun c hc =>
      (isPartChar_range (group.isPartChar_of_mem List.mem_cons_self hc)).2
  rw [byteLength, toAsciiLowercase, String.toList_ofList, String.toList_ofList, List.map_append,
    List.map_append, List.sum_append, huuid, Nat.add_eq_right]
  cases blank with
  | nil => simp
  | cons c blank =>
    have hpos := Char.utf8Size_pos (toAsciiLower c)
    simp only [List.map_cons, List.sum_cons, reduceCtorEq, iff_false]
    omega

/-! ## Reports -/

theorem split_group {blank : List Char} (group : Group)
    (hblank : ∀ c ∈ blank, isWhitespace c = true) :
    split (String.ofList (blank ++ group.text)) ':' =
      String.ofList (blank ++ group.uuid) ::
        (group.sections.flatMap Section.parts).map String.ofList := by
  have hcolon : ∀ part ∈ (blank ++ group.uuid) :: group.sections.flatMap Section.parts,
      ':' ∉ part := by
    intro part hpart hmem
    have hparts : ∀ part ∈ group.parts, ':' ∉ part := fun part hpart hmem =>
      absurd (group.isPartChar_of_mem hpart hmem) (by decide)
    rcases List.mem_cons.mp hpart with rfl | hpart
    · rcases List.mem_append.mp hmem with hmem | hmem
      · exact absurd (hblank _ hmem) (by decide)
      · exact hparts _ List.mem_cons_self hmem
    · exact hparts part (List.mem_cons_of_mem _ hpart) hmem
  have htext : blank ++ group.text =
      [':'].intercalate ((blank ++ group.uuid) :: group.sections.flatMap Section.parts) := by
    rw [Group.text, Group.parts]
    cases group.sections.flatMap Section.parts <;> simp
  rw [split, String.toList_ofList, htext, List.splitOn_intercalate _ hcolon (List.cons_ne_nil _ _),
    List.map_cons]

/-- The key of a section in the map. -/
def sectionKey (group : Group) (s : Section) : GtidKey :=
  (toAsciiLowercase (String.ofList group.uuid),
    s.tag.map fun tag => toAsciiLowercase (String.ofList tag))

/-- A group is read if it has one section and no white space before it. -/
theorem parseGroup_eq_ok {blank : List Char} {group : Group} {map map' : GtidMap}
    (hblank : ∀ c ∈ blank, isWhitespace c = true) :
    parseGroup map (String.ofList (blank ++ group.text)) = .ok map' ↔
      blank = [] ∧ ∃ s, group.sections = [s] ∧
        map' = extendEntry (sectionKey group s) (s.intervals.map Interval.range) map := by
  obtain ⟨s, sections, hsections⟩ := List.exists_cons_of_ne_nil group.nonempty
  have htagged : ∀ s ∈ sections, s.tag.isSome = true := by
    have htagged := group.tagged
    rwa [hsections] at htagged
  obtain ⟨second, rest, hparts, htag⟩ := parseTag_section s (sections.flatMap Section.parts)
  rw [parseGroup, split_group group hblank, hsections, List.flatMap_cons, hparts]
  simp only [htag, ok_bind, bind_eq_ok, ensure_eq_ok, byteLength_uuid,
    mapM_parseRange_eq_ok htagged,
    pure_eq, Except.ok.injEq]
  constructor
  · rintro ⟨_, ⟨rfl, -⟩, _, ⟨rfl, rfl⟩, rfl⟩
    exact ⟨rfl, s, rfl, rfl⟩
  · rintro ⟨rfl, _, ⟨⟩, rfl⟩
    exact ⟨(), ⟨rfl, trivial⟩, _, ⟨rfl, rfl⟩, rfl⟩

theorem rangeSet_map (intervals : List Interval) : rangeSet (intervals.map Interval.range) =
    {n | ∃ interval ∈ intervals, interval.first ≤ n ∧ n ≤ interval.last} := by
  ext n
  simp [rangeSet, Interval.range]

theorem keyed_section {group : Group} {s : Section} (h : group.sections = [s]) :
    keyed (sectionKey group s) (s.intervals.map Interval.range) = group.denote := by
  ext gtid
  simp only [keyed, sectionKey, rangeSet_map, Group.denote, h, Prod.mk.injEq, List.mem_singleton,
    exists_eq_left, Set.mem_ofPred_eq]
  constructor
  · rintro ⟨⟨huuid, htag⟩, hnumber⟩
    exact ⟨huuid.symm, htag.symm, hnumber⟩
  · rintro ⟨huuid, htag, hnumber⟩
    exact ⟨⟨huuid.symm, htag.symm⟩, hnumber⟩

/-- The groups are read one after the other. -/
theorem foldlM_parseGroup {groups : List (List Char × Group)} {map : GtidMap}
    (hblank : ∀ group ∈ groups, ∀ c ∈ group.1, isWhitespace c = true) :
    (∀ map', (groups.map fun group => String.ofList (group.1 ++ group.2.text)).foldlM parseGroup
        map = .ok map' →
      (∀ group ∈ groups, group.1 = [] ∧ group.2.sections.length = 1) ∧
        map'.denote = map.denote ∪ {gtid | ∃ group ∈ groups, gtid ∈ group.2.denote}) ∧
    ((∀ group ∈ groups, group.1 = [] ∧ group.2.sections.length = 1) →
      ∃ map', (groups.map fun group => String.ofList (group.1 ++ group.2.text)).foldlM parseGroup
        map = .ok map') := by
  induction groups generalizing map with
  | nil =>
    refine ⟨?_, fun _ => ⟨map, rfl⟩⟩
    rintro map' ⟨⟩
    exact ⟨by simp, by simp⟩
  | cons group groups ih =>
    have hhead := hblank group List.mem_cons_self
    have htail := fun other hother => hblank other (List.mem_cons_of_mem _ hother)
    simp only [List.map_cons, List.foldlM_cons, bind_eq_ok, parseGroup_eq_ok hhead]
    constructor
    · rintro map' ⟨_, ⟨hplain, s, hs, rfl⟩, hrest⟩
      obtain ⟨hplains, hdenote⟩ := (ih htail).1 map' hrest
      refine ⟨?_, ?_⟩
      · intro other hother
        rcases List.mem_cons.mp hother with rfl | hother
        · exact ⟨hplain, by rw [hs]; rfl⟩
        · exact hplains other hother
      · rw [hdenote, denote_extendEntry, keyed_section hs, Set.union_assoc]
        congr 1
        ext gtid
        simp
    · intro hplains
      obtain ⟨hplain, hlength⟩ := hplains group List.mem_cons_self
      obtain ⟨s, hs⟩ := List.length_eq_one_iff.mp hlength
      obtain ⟨map', hmap'⟩ := (ih htail).2 fun other hother =>
        hplains other (List.mem_cons_of_mem _ hother)
      exact ⟨map', _, ⟨hplain, s, hs, rfl⟩, hmap'⟩

/-- A report that the source reads is read by the checkpoint as the same set exactly if no white
space follows a comma and each UUID group has one section. -/
theorem understood_iff_plain (library : SidLibrary) (report : GtidReport) {sids : List (Set Gtid)}
    (hsource : parseGtidSet library report.text = .ok sids) :
    (∃ map, parseGtids report.text = .ok map ∧
      map.denote = {gtid | ∃ set ∈ sids, gtid ∈ set}) ↔ report.Plain := by
  have hsids : {gtid | ∃ set ∈ sids, gtid ∈ set} =
      {gtid | ∃ group ∈ report.groups, gtid ∈ group.2.denote} := by
    rw [GtidReport.parseGtidSet_eq_ok hsource]
    ext gtid
    simp
  obtain ⟨hread, hplain⟩ := @foldlM_parseGroup _ [] report.blank
  rw [← GtidReport.filter_split_text report] at hread hplain
  rw [hsids]
  constructor
  · rintro ⟨map, hmap, -⟩
    simp only [parseGtids, bind_eq_ok, pure_eq, Except.ok.injEq] at hmap
    obtain ⟨parsed, hparsed, -⟩ := hmap
    exact (hread parsed hparsed).1
  · intro h
    obtain ⟨parsed, hparsed⟩ := hplain h
    refine ⟨_, by rw [parseGtids, hparsed]; rfl, ?_⟩
    rw [denote_mergeRanges, (hread parsed hparsed).2]
    ext gtid
    simp [GtidMap.denote]

section Sample

/-- A reader of groups with one section. -/
def sampleSids : SidLibrary where
  fromStr sid := match parseGroup [] sid with
    | .ok map => .ok map.denote
    | .error _ => .error "invalid sid"
  entryError sid error := "invalid GTID set entry " ++ sid.quote ++ ": " ++ error
  denotes group set h := by
    split at h
    · next map hmap =>
      cases h
      obtain ⟨-, s, hs, rfl⟩ := (@parseGroup_eq_ok [] _ _ _ (by simp)).mp hmap
      rw [denote_extendEntry, keyed_section hs]
      ext gtid
      simp [GtidMap.denote]
    · cases h

def sampleSection (first last : ℕ) (pos : 0 < first) (le : first ≤ last) (bound : last < 2 ^ 63) :
    Section where
  tag := none
  intervals := [⟨first, last, pos, le, bound⟩]
  tag_valid := by simp
  nonempty := List.cons_ne_nil _ _

/-- The transactions of two servers, with the white space between them. -/
def sampleReport (blank : List Char) (h : ∀ c ∈ blank, isWhitespace c = true) : GtidReport where
  groups := [
    ([], ⟨"3e11fa47-71ca-11e1-9e33-c80aa9429562".toList,
      [sampleSection 1 5 (by decide) (by decide) (by decide)],
      ⟨rfl, by simp [isAsciiHexDigit, isAsciiDigit]⟩, List.cons_ne_nil _ _, by simp⟩),
    (blank, ⟨"4e11fa47-71ca-11e1-9e33-c80aa9429562".toList,
      [sampleSection 1 3 (by decide) (by decide) (by decide)],
      ⟨rfl, by simp [isAsciiHexDigit, isAsciiDigit]⟩, List.cons_ne_nil _ _, by simp⟩)]
  blank := by simpa using h

theorem newline_blank : ∀ c ∈ ['\n'], isWhitespace c = true := List.forall_mem_singleton.mpr rfl

theorem nothing_blank : ∀ c ∈ ([] : List Char), isWhitespace c = true := List.forall_mem_nil _

/-- The line break that the server writes after a comma is taken for a part of the UUID. -/
theorem report_refused :
    (sampleReport ['\n'] newline_blank).text =
        "3e11fa47-71ca-11e1-9e33-c80aa9429562:1-5,\n4e11fa47-71ca-11e1-9e33-c80aa9429562:1-3" ∧
      (∃ sids, parseGtidSet sampleSids (sampleReport ['\n'] newline_blank).text = .ok sids) ∧
      parseGtids (sampleReport ['\n'] newline_blank).text = .error .invalidUuid :=
  ⟨by decide +kernel, ⟨_, rfl⟩, by decide +kernel⟩

theorem understood_iff_plain_sample :
    ∃ map, parseGtids (sampleReport [] nothing_blank).text = .ok map := by
  obtain ⟨sids, hsource⟩ :
      ∃ sids, parseGtidSet sampleSids (sampleReport [] nothing_blank).text = .ok sids := ⟨_, rfl⟩
  obtain ⟨map, hmap, -⟩ := (understood_iff_plain sampleSids _ hsource).mpr (by
    intro group hgroup
    simp only [sampleReport, List.mem_cons, List.not_mem_nil, or_false] at hgroup
    rcases hgroup with rfl | rfl
    · exact ⟨rfl, rfl⟩
    · exact ⟨rfl, rfl⟩)
  exact ⟨map, hmap⟩

end Sample

end DatabaseSync.Worker
