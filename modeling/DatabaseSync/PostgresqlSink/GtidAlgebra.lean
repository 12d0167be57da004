import DatabaseSync.Library.AsciiCase
import DatabaseSync.Library.Intervals
import DatabaseSync.PostgresqlSink.Gtids

/-! # The algebra of GTID sets

The writer's operations on GTID sets are those of sets: the canonical form determines and is
determined by the transactions, merging is their union, and a transaction is contained if it is a
member.
-/

namespace DatabaseSync.PostgresqlSink

open Checked Intervals Text

/-! ## Operations -/

/-- What the operations say of a set that is not one transaction. -/
inductive GtidFailure
  | parse (error : GtidError)
  | notSingle
  | empty
deriving DecidableEq, Repr

def parsed (value : String) : Except GtidFailure GtidMap := (parseGtids value).mapError .parse

/-- One key with one range of one number. -/
def isSingle (map : GtidMap) : Bool :=
  match map with
  | [(_, [(start, stop)])] => start == stop
  | _ => false

def canonicalSingleGtid (value : String) : Except GtidFailure String := do
  let map ← parsed value
  if isSingle map then .ok (renderGtids map) else .error .notSingle

def mergeGtids (left : Option String) (right : String) : Except GtidError String :=
  canonicalGtids (",".intercalate ([left.getD "", right].filter fun part => !part.isEmpty))

/-- The first key of the sorted map and its first range. -/
def firstRange (map : GtidMap) : Option (GtidKey × (ℕ × ℕ)) :=
  match map.insertionSort fun a b => keyBefore a.1 b.1 with
  | (key, range :: _) :: _ => some (key, range)
  | _ => none

def gtidContains (set one : String) : Except GtidFailure Bool := do
  let set ← parsed set
  let one ← parsed one
  match firstRange one with
  | none => .error .empty
  | some (key, (start, stop)) =>
    .ok ((set.lookup key).any fun items =>
      items.any fun item => decide (item.1 ≤ start) && decide (stop ≤ item.2))

/-! ## The transactions that a text lists -/

/-- The UUID, the tag and the intervals of a group. -/
inductive GroupParts (group : String) : String → Option String → List String → Prop
  | untagged {uuid second : String} {rest : List String}
      (hsplit : split group ':' = uuid :: second :: rest) (h : isGtidInterval second = true) :
      GroupParts group uuid none (second :: rest)
  | tagged {uuid tag : String} {rest : List String}
      (hsplit : split group ':' = uuid :: tag :: rest) (h : isGtidInterval tag = false) :
      GroupParts group uuid (some tag) rest

/-- The transactions under a UUID and a tag in either case, with a number in an interval. -/
def groupSet (group : String) : Set Gtid :=
  {gtid | ∃ uuid tag parts, GroupParts group uuid tag parts ∧
    gtid.uuid = toAsciiLowercase uuid ∧ gtid.tag = tag.map toAsciiLowercase ∧
    ∃ part ∈ parts, ∃ range, parseRange part = .ok range ∧
      range.1 ≤ gtid.number ∧ gtid.number ≤ range.2}

/-- The transactions in the groups between the commas. -/
def textSet (value : String) : Set Gtid := {gtid | ∃ group ∈ split value ',', gtid ∈ groupSet group}

/-! ## Reading -/

section Reading

variable {group value : String} {map map' : GtidMap} {key : GtidKey} {ranges : List (ℕ × ℕ)}

def isTagText (tag : String) : Bool :=
  !tag.isEmpty && tag.toList.all fun c => isAsciiAlphanumeric c || c == '_'

/-- A group that is read, with its key and its intervals as they are written. -/
structure GroupReads (group : String) (key : GtidKey) (ranges : List (ℕ × ℕ)) : Prop where
  parts : ∃ uuid tag parts, GroupParts group uuid tag parts ∧
    key = (toAsciiLowercase uuid, tag.map toAsciiLowercase) ∧
    (∀ name ∈ tag, isTagText name = true) ∧ parts ≠ [] ∧ parts.mapM parseRange = .ok ranges
  length : byteLength key.1 = 36

theorem parseGroup_eq_ok_iff : parseGroup map group = .ok map' ↔
    ∃ key ranges, GroupReads group key ranges ∧ map' = extendEntry key ranges map := by
  constructor
  · intro h
    unfold parseGroup at h
    split at h
    · next uuid second rest hsplit =>
      simp only [bind_eq_ok, pure_eq, Except.ok.injEq] at h
      obtain ⟨_, hlength, ⟨tag, parts⟩, htag, ranges, hranges, rfl⟩ := h
      have hlength := (ensure_eq_ok.mp hlength).1
      unfold parseTag at htag
      split at htag
      · next hinterval =>
        obtain ⟨rfl, rfl⟩ := Prod.mk.inj (Except.ok.inj htag)
        refine ⟨_, ranges, ⟨⟨uuid, none, second :: rest, .untagged hsplit hinterval, rfl, by simp,
          by simp, hranges⟩, hlength⟩, rfl⟩
      · next hinterval =>
        split at htag
        · cases htag
        · next hvalid =>
          obtain ⟨rfl, rfl⟩ := Prod.mk.inj (Except.ok.inj htag)
          simp only [Bool.or_eq_true, not_or, Bool.not_eq_true, Bool.not_eq_false'] at hvalid
          obtain ⟨⟨hrest, hne⟩, hchars⟩ := hvalid
          refine ⟨_, ranges, ⟨⟨uuid, some second, rest, .tagged hsplit (by simpa using hinterval),
            rfl, ?_, by simpa using hrest, hranges⟩, hlength⟩, rfl⟩
          rintro _ ⟨⟩
          rw [isTagText, hne, hchars]
          rfl
    · cases h
  · rintro ⟨key, ranges, ⟨⟨uuid, tag, parts, hparts, rfl, htag, hne, hranges⟩, hlength⟩, rfl⟩
    unfold parseGroup
    cases hparts with
    | untagged hsplit hinterval =>
      rw [hsplit]
      dsimp only
      rw [if_pos hlength, ok_bind, parseTag, if_pos hinterval, ok_bind]
      dsimp only
      rw [hranges]
      rfl
    | tagged hsplit hinterval =>
      rename_i second
      have hvalid := htag second rfl
      rw [isTagText, Bool.and_eq_true] at hvalid
      have hcheck : (parts.isEmpty || second.isEmpty ||
          !second.toList.all fun c => isAsciiAlphanumeric c || c == '_') = false := by
        rw [hvalid.2]
        have hempty : second.isEmpty = false := by simpa using hvalid.1
        simp [hempty, hne]
      rw [hsplit]
      dsimp only
      rw [if_pos hlength, ok_bind, parseTag, hinterval, if_neg Bool.false_ne_true, hcheck,
        if_neg Bool.false_ne_true, ok_bind]
      dsimp only
      rw [hranges]
      rfl

/-- The map of the groups that are read, one after the other. -/
def collect (entries : List (GtidKey × List (ℕ × ℕ))) (map : GtidMap) : GtidMap :=
  entries.foldl (fun map entry => extendEntry entry.1 entry.2 map) map

theorem foldlM_parseGroup_iff {groups : List String} :
    groups.foldlM parseGroup map = .ok map' ↔ ∃ entries,
      List.Forall₂ (fun group entry => GroupReads group entry.1 entry.2) groups entries ∧
        map' = collect entries map := by
  induction groups generalizing map with
  | nil =>
    constructor
    · rintro ⟨⟩
      exact ⟨[], .nil, rfl⟩
    · rintro ⟨_, ⟨⟩, rfl⟩
      rfl
  | cons group groups ih =>
    rw [List.foldlM_cons, bind_eq_ok]
    constructor
    · rintro ⟨between, hgroup, hgroups⟩
      obtain ⟨key, ranges, hreads, rfl⟩ := parseGroup_eq_ok_iff.mp hgroup
      obtain ⟨entries, hentries, rfl⟩ := ih.mp hgroups
      exact ⟨(key, ranges) :: entries, .cons hreads hentries, rfl⟩
    · rintro ⟨_, hentries, rfl⟩
      cases hentries with
      | cons hreads hrest =>
        exact ⟨_, parseGroup_eq_ok_iff.mpr ⟨_, _, hreads, rfl⟩, ih.mpr ⟨_, hrest, rfl⟩⟩

/-- The texts between the commas, but for empty ones. -/
def groupTexts (value : String) : List String :=
  (split value ',').filter fun part => !part.isEmpty

def mergeEntries (map : GtidMap) : GtidMap := map.map fun entry => (entry.1, mergeRanges entry.2)

/-- A set is read group by group, and the intervals of every key are merged. -/
theorem parseGtids_eq_ok : parseGtids value = .ok map ↔ ∃ entries,
    List.Forall₂ (fun group entry => GroupReads group entry.1 entry.2) (groupTexts value) entries ∧
      map = mergeEntries (collect entries []) := by
  unfold parseGtids
  simp only [bind_eq_ok, pure_eq, Except.ok.injEq]
  constructor
  · rintro ⟨parsed, hparsed, rfl⟩
    obtain ⟨entries, hentries, rfl⟩ := foldlM_parseGroup_iff.mp hparsed
    exact ⟨entries, hentries, rfl⟩
  · rintro ⟨entries, hentries, rfl⟩
    exact ⟨_, foldlM_parseGroup_iff.mpr ⟨entries, hentries, rfl⟩, rfl⟩

theorem GroupParts.unique {uuid uuid' : String} {tag tag' : Option String}
    {parts parts' : List String} (h : GroupParts group uuid tag parts)
    (h' : GroupParts group uuid' tag' parts') : uuid = uuid' ∧ tag = tag' ∧ parts = parts' := by
  cases h with
  | untagged hsplit hinterval =>
    cases h' with
    | untagged hsplit' _ =>
      rw [hsplit] at hsplit'
      cases hsplit'
      exact ⟨rfl, rfl, rfl⟩
    | tagged hsplit' hinterval' =>
      rw [hsplit] at hsplit'
      cases hsplit'
      rw [hinterval] at hinterval'
      cases hinterval'
  | tagged hsplit hinterval =>
    cases h' with
    | untagged hsplit' hinterval' =>
      rw [hsplit] at hsplit'
      cases hsplit'
      rw [hinterval] at hinterval'
      cases hinterval'
    | tagged hsplit' _ =>
      rw [hsplit] at hsplit'
      cases hsplit'
      exact ⟨rfl, rfl, rfl⟩

/-- A group that is read lists the transactions in its intervals under its key. -/
theorem GroupReads.groupSet_eq (h : GroupReads group key ranges) :
    groupSet group = keyed key ranges := by
  obtain ⟨⟨uuid, tag, parts, hparts, rfl, -, -, hranges⟩, -⟩ := h
  have hread := mapM_eq_ok hranges
  ext gtid
  constructor
  · rintro ⟨uuid', tag', parts', hparts', huuid, htag, part, hpart, range, hrange, hin⟩
    obtain ⟨rfl, rfl, rfl⟩ := hparts.unique hparts'
    refine ⟨by rw [huuid, htag], range, ?_, hin⟩
    obtain ⟨index, hindex, rfl⟩ := List.getElem_of_mem hpart
    obtain ⟨hlength, hget⟩ := List.forall₂_iff_get.mp hread
    have hsame := hget index hindex (hlength ▸ hindex)
    simp only [List.get_eq_getElem] at hsame
    rw [hrange, Except.ok.injEq] at hsame
    rw [hsame]
    exact List.getElem_mem _
  · rintro ⟨hkey, range, hrange, hin⟩
    obtain ⟨part, hpart, hread⟩ := forall₂_mem_right hread hrange
    obtain ⟨huuid, htag⟩ := Prod.mk.inj hkey
    exact ⟨uuid, tag, parts, hparts, huuid.symm, htag.symm, part, hpart, range, hread, hin⟩

theorem denote_collect (entries : List (GtidKey × List (ℕ × ℕ))) (map : GtidMap) :
    (collect entries map).denote =
      map.denote ∪ {gtid | ∃ entry ∈ entries, gtid ∈ keyed entry.1 entry.2} := by
  induction entries generalizing map with
  | nil => simp [collect]
  | cons entry entries ih =>
    have hstep : collect (entry :: entries) map =
        collect entries (extendEntry entry.1 entry.2 map) := rfl
    rw [hstep, ih, denote_extendEntry, Set.union_assoc]
    congr 1
    ext gtid
    simp

theorem groupSet_empty : groupSet "" = ∅ := by
  ext gtid
  constructor
  · rintro ⟨_, _, _, hparts, -⟩
    cases hparts with
    | untagged hsplit _ => cases hsplit
    | tagged hsplit _ => cases hsplit
  · rintro ⟨⟩

theorem textSet_eq (value : String) :
    textSet value = {gtid | ∃ group ∈ groupTexts value, gtid ∈ groupSet group} := by
  ext gtid
  constructor
  · rintro ⟨group, hgroup, hmem⟩
    refine ⟨group, List.mem_filter.mpr ⟨hgroup, ?_⟩, hmem⟩
    by_contra hempty
    have hnil : group = "" := by simpa using hempty
    rw [hnil, groupSet_empty] at hmem
    exact hmem
  · rintro ⟨group, hgroup, hmem⟩
    exact ⟨group, (List.mem_filter.mp hgroup).1, hmem⟩

/-- A set that is read denotes the transactions that its text lists. -/
theorem denote_parseGtids (h : parseGtids value = .ok map) : map.denote = textSet value := by
  obtain ⟨entries, hentries, rfl⟩ := parseGtids_eq_ok.mp h
  rw [mergeEntries, denote_mergeRanges, denote_collect, textSet_eq]
  ext gtid
  constructor
  · rintro (⟨_, hnil, -⟩ | ⟨entry, hentry, hmem⟩)
    · cases hnil
    · obtain ⟨group, hgroup, hreads⟩ := forall₂_mem_right hentries hentry
      exact ⟨group, hgroup, hreads.groupSet_eq ▸ hmem⟩
  · rintro ⟨group, hgroup, hmem⟩
    obtain ⟨entry, hentry, hreads⟩ := forall₂_mem_right hentries.flip hgroup
    rw [hreads.groupSet_eq] at hmem
    exact .inr ⟨entry, hentry, hmem⟩

end Reading

/-! ## Canonical maps -/

section Canonical

variable {group value : String} {map map' : GtidMap} {key : GtidKey} {ranges : List (ℕ × ℕ)}

/-- Intervals of positive numbers that fit `u64`. -/
def Bounded (ranges : List (ℕ × ℕ)) : Prop :=
  ranges ≠ [] ∧ ∀ range ∈ ranges, 1 ≤ range.1 ∧ range.1 ≤ range.2 ∧ range.2 < 2 ^ 64

/-- The intervals that are kept under a key: at least one, in order, with gaps between them. -/
structure CanonicalRanges (ranges : List (ℕ × ℕ)) : Prop where
  bounded : Bounded ranges
  separated : Separated ranges

/-- A key in lower case that can stand before intervals. -/
structure CanonicalKey (key : GtidKey) : Prop where
  length : byteLength key.1 = 36
  uuid_lower : toAsciiLowercase key.1 = key.1
  uuid_free : ':' ∉ key.1.toList ∧ ',' ∉ key.1.toList
  tag_lower : ∀ tag ∈ key.2, toAsciiLowercase tag = tag
  tag_text : ∀ tag ∈ key.2, isTagText tag = true
  tag_not_interval : ∀ tag ∈ key.2, isGtidInterval tag = false

structure CanonicalMap (map : GtidMap) : Prop where
  nodup : (map.map Prod.fst).Nodup
  keys : ∀ entry ∈ map, CanonicalKey entry.1
  ranges : ∀ entry ∈ map, CanonicalRanges entry.2

/-- A gap follows every interval of a merge, which begins where the first interval does. -/
theorem mergeFrom_separated {a b : ℕ} (hsorted : ((a, b) :: ranges).Pairwise fun p q => p.1 ≤ q.1)
    (hbounded : ∀ range ∈ (a, b) :: ranges,
      1 ≤ range.1 ∧ range.1 ≤ range.2 ∧ range.2 < 2 ^ 64) :
    Separated (mergeFrom a b ranges) ∧ ∀ range ∈ mergeFrom a b ranges,
      a ≤ range.1 ∧ range.1 ≤ range.2 ∧ range.2 < 2 ^ 64 := by
  induction ranges generalizing a b with
  | nil =>
    obtain ⟨-, hle, hlt⟩ := hbounded (a, b) List.mem_cons_self
    rw [mergeFrom]
    refine ⟨separated_cons.mpr ⟨hle, by simp, .nil⟩, ?_⟩
    rintro range (_ | ⟨_, hnil⟩)
    · exact ⟨le_rfl, hle, hlt⟩
    · cases hnil
  | cons range ranges ih =>
    obtain ⟨c, d⟩ := range
    obtain ⟨hhead, htail⟩ := List.pairwise_cons.mp hsorted
    obtain ⟨hnext, hrest⟩ := List.pairwise_cons.mp htail
    have hac : a ≤ c := hhead (c, d) List.mem_cons_self
    obtain ⟨hone, hab, hb⟩ := hbounded (a, b) List.mem_cons_self
    obtain ⟨-, hcd, hd⟩ := hbounded (c, d) (List.mem_cons_of_mem _ List.mem_cons_self)
    dsimp only at hone hab hb hcd hd
    rw [mergeFrom]
    split
    · apply ih
      · exact List.pairwise_cons.mpr ⟨fun q hq => hac.trans (hnext q hq), hrest⟩
      · rintro range (_ | ⟨_, hrange⟩)
        · exact ⟨hone, hab.trans (le_max_left b d), max_lt hb hd⟩
        · exact hbounded range (List.mem_cons_of_mem _ (List.mem_cons_of_mem _ hrange))
    · next hgap =>
      obtain ⟨hseparated, hmerged⟩ := ih htail fun range hrange =>
        hbounded range (List.mem_cons_of_mem _ hrange)
      have hapart : b + 1 < c := by omega
      refine ⟨separated_cons.mpr ⟨hab, ?_, hseparated⟩, ?_⟩
      · intro q hq
        exact hapart.trans_le (hmerged q hq).1
      · rintro range (_ | ⟨_, hrange⟩)
        · exact ⟨le_rfl, hab, hb⟩
        · obtain ⟨hlow, hle, hlt⟩ := hmerged range hrange
          exact ⟨hac.trans hlow, hle, hlt⟩

theorem mergeFrom_ne_nil {a b : ℕ} : mergeFrom a b ranges ≠ [] := by
  induction ranges generalizing a b with
  | nil => exact List.cons_ne_nil _ _
  | cons range ranges ih =>
    rw [mergeFrom]
    split
    · exact ih
    · exact List.cons_ne_nil _ _

/-- The merged intervals are canonical. -/
theorem mergeRanges_canonical (h : Bounded ranges) : CanonicalRanges (mergeRanges ranges) := by
  obtain ⟨hne, hbounded⟩ := h
  have hperm := List.perm_insertionSort (fun p q : ℕ × ℕ => toLex p ≤ toLex q) ranges
  have hsorted := List.pairwise_insertionSort (fun p q : ℕ × ℕ => toLex p ≤ toLex q) ranges
  unfold mergeRanges
  split
  · next hnil =>
    rw [hnil] at hperm
    exact absurd hperm.symm.eq_nil hne
  · next a b rest hcons =>
    rw [hcons] at hperm hsorted
    have hfirst : ((a, b) :: rest).Pairwise fun p q => p.1 ≤ q.1 := by
      refine hsorted.imp fun {p q} hle => ?_
      rcases Prod.Lex.toLex_le_toLex.mp hle with hlt | ⟨heq, -⟩
      · exact hlt.le
      · exact heq.le
    have hall : ∀ range ∈ (a, b) :: rest, 1 ≤ range.1 ∧ range.1 ≤ range.2 ∧ range.2 < 2 ^ 64 :=
      fun range hrange => hbounded range (hperm.mem_iff.mp hrange)
    obtain ⟨hseparated, hmerged⟩ := mergeFrom_separated hfirst hall
    refine ⟨⟨mergeFrom_ne_nil, ?_⟩, hseparated⟩
    intro range hrange
    obtain ⟨hlow, hle, hlt⟩ := hmerged range hrange
    exact ⟨(hall (a, b) List.mem_cons_self).1.trans hlow, hle, hlt⟩

/-- Canonical intervals with the same numbers are equal. -/
theorem CanonicalRanges.ext {ranges' : List (ℕ × ℕ)} (h : CanonicalRanges ranges)
    (h' : CanonicalRanges ranges') (hset : rangeSet ranges = rangeSet ranges') :
    ranges = ranges' :=
  h.separated.ext h'.separated hset

theorem mergeRanges_eq (h : CanonicalRanges ranges) : mergeRanges ranges = ranges :=
  (mergeRanges_canonical h.bounded).ext h (rangeSet_mergeRanges ranges)

theorem parseNumber_lt {text : String} {n : ℕ} (h : parseNumber text = .ok n) : n < 2 ^ 64 := by
  unfold parseNumber at h
  split at h
  · next hread =>
    cases h
    exact parseUnsigned_lt hread
  · cases h

theorem parseRange_bounded {part : String} {range : ℕ × ℕ} (h : parseRange part = .ok range) :
    1 ≤ range.1 ∧ range.1 ≤ range.2 ∧ range.2 < 2 ^ 64 := by
  unfold parseRange at h
  split at h
  · simp only [bind_eq_ok, pure_eq, Except.ok.injEq] at h
    obtain ⟨a, ha, b, hb, _, rfl, h⟩ := h
    split at h
    · cases h
    · next hvalid =>
      cases h
      have hlt := parseNumber_lt hb
      dsimp only at *
      omega
  · simp only [bind_eq_ok, pure_eq, Except.ok.injEq] at h
    obtain ⟨n, hn, _, rfl, h⟩ := h
    split at h
    · cases h
    · next hvalid =>
      cases h
      have hlt := parseNumber_lt hn
      dsimp only at *
      omega

/-! ### Keys -/

theorem isTagText_iff {tag : String} : isTagText tag = true ↔
    tag.toList ≠ [] ∧ ∀ c ∈ tag.toList, isAsciiAlphanumeric c = true ∨ c = '_' := by
  rw [isTagText, Bool.and_eq_true, List.all_eq_true]
  simp

theorem isTagText_toAsciiLowercase {tag : String} (h : isTagText tag = true) :
    isTagText (toAsciiLowercase tag) = true := by
  obtain ⟨hne, hchars⟩ := isTagText_iff.mp h
  rw [isTagText_iff, toList_toAsciiLowercase]
  refine ⟨by simpa using hne, ?_⟩
  rintro _ hmem
  obtain ⟨c, hc, rfl⟩ := List.mem_map.mp hmem
  rw [isAsciiAlphanumeric_toAsciiLower, toAsciiLower_eq_iff (by decide)]
  exact hchars c hc

/-- A tag is an interval only if it is digits. -/
theorem isGtidInterval_tag {tag : String} (h : isTagText tag = true) :
    isGtidInterval tag = tag.toList.all isAsciiDigit := by
  obtain ⟨hne, hchars⟩ := isTagText_iff.mp h
  have hminus : '-' ∉ tag.toList := by
    intro hmem
    rcases hchars '-' hmem with hchar | hchar
    · exact absurd hchar (by decide)
    · exact absurd hchar (by decide)
  have hempty : tag.isEmpty = false := by simpa using hne
  rw [isGtidInterval, splitOnce, splitFirst_eq_none hminus]
  simp [hempty]

theorem isGtidInterval_toAsciiLowercase {tag : String} (h : isTagText tag = true) :
    isGtidInterval (toAsciiLowercase tag) = isGtidInterval tag := by
  rw [isGtidInterval_tag h, isGtidInterval_tag (isTagText_toAsciiLowercase h),
    toList_toAsciiLowercase, List.all_map]
  congr 1
  ext c
  exact isAsciiDigit_toAsciiLower c

variable {groups : List String} {entries : List (GtidKey × List (ℕ × ℕ))}

/-- The key of a group between commas is canonical, and its intervals are bounded. -/
theorem GroupReads.canonical (h : GroupReads group key ranges) (hcomma : ',' ∉ group.toList) :
    CanonicalKey key ∧ Bounded ranges := by
  obtain ⟨⟨uuid, tag, parts, hparts, rfl, htag, hne, hranges⟩, hlength⟩ := h
  have huuid : uuid ∈ split group ':' := by
    cases hparts with
    | untagged hsplit _ => rw [hsplit]; exact List.mem_cons_self
    | tagged hsplit _ => rw [hsplit]; exact List.mem_cons_self
  obtain ⟨hcolon, hsub⟩ := mem_split huuid
  have hinterval : ∀ name ∈ tag, isGtidInterval name = false := by
    rintro name hname
    cases hparts with
    | untagged _ _ => cases hname
    | tagged _ hinterval => exact Option.some.inj hname ▸ hinterval
  have hread := mapM_eq_ok hranges
  refine ⟨⟨hlength, toAsciiLowercase_idem uuid, ⟨?_, ?_⟩, ?_, ?_, ?_⟩, ?_, ?_⟩
  · exact fun hmem => hcolon ((mem_toAsciiLowercase_iff (by decide)).mp hmem)
  · exact fun hmem => hcomma (hsub ',' ((mem_toAsciiLowercase_iff (by decide)).mp hmem))
  · rintro _ hmem
    obtain ⟨name, hname, rfl⟩ := Option.map_eq_some_iff.mp hmem
    exact toAsciiLowercase_idem name
  · rintro _ hmem
    obtain ⟨name, hname, rfl⟩ := Option.map_eq_some_iff.mp hmem
    exact isTagText_toAsciiLowercase (htag name hname)
  · rintro _ hmem
    obtain ⟨name, hname, rfl⟩ := Option.map_eq_some_iff.mp hmem
    rw [isGtidInterval_toAsciiLowercase (htag name hname)]
    exact hinterval name hname
  · rintro rfl
    cases hread
    exact hne rfl
  · intro range hrange
    obtain ⟨part, -, hpart⟩ := forall₂_mem_right hread hrange
    exact parseRange_bounded hpart

theorem mem_extendEntry {entry : GtidKey × List (ℕ × ℕ)} (h : entry ∈ extendEntry key ranges map) :
    entry ∈ map ∨ entry = (key, ranges) ∨
      ∃ earlier, (key, earlier) ∈ map ∧ entry = (key, earlier ++ ranges) := by
  induction map with
  | nil => exact .inr (.inl (List.mem_singleton.mp h))
  | cons first map ih =>
    obtain ⟨other, earlier⟩ := first
    rw [extendEntry] at h
    split at h
    · next heq =>
      subst heq
      rcases List.mem_cons.mp h with rfl | h
      · exact .inr (.inr ⟨earlier, List.mem_cons_self, rfl⟩)
      · exact .inl (List.mem_cons_of_mem _ h)
    · rcases List.mem_cons.mp h with rfl | h
      · exact .inl List.mem_cons_self
      · rcases ih h with h | h | ⟨earlier', h, heq⟩
        · exact .inl (List.mem_cons_of_mem _ h)
        · exact .inr (.inl h)
        · exact .inr (.inr ⟨earlier', List.mem_cons_of_mem _ h, heq⟩)

/-- A key is added at the end or is there already. -/
theorem keys_extendEntry : (extendEntry key ranges map).map Prod.fst =
    if key ∈ map.map Prod.fst then map.map Prod.fst else map.map Prod.fst ++ [key] := by
  induction map with
  | nil => rfl
  | cons first map ih =>
    obtain ⟨other, earlier⟩ := first
    rw [extendEntry]
    by_cases heq : other = key
    · rw [if_pos heq, heq]
      simp
    · have hne : ¬ key = other := fun h => heq h.symm
      rw [if_neg heq, List.map_cons, ih, List.map_cons]
      simp only [List.mem_cons, hne, false_or]
      split
      · rfl
      · rfl

/-- What is kept while groups are collected: one entry for a key, with bounded intervals. -/
structure Collected (map : GtidMap) : Prop where
  nodup : (map.map Prod.fst).Nodup
  entries : ∀ entry ∈ map, CanonicalKey entry.1 ∧ Bounded entry.2

theorem Collected.extend (h : Collected map) (hkey : CanonicalKey key) (hranges : Bounded ranges) :
    Collected (extendEntry key ranges map) := by
  constructor
  · rw [keys_extendEntry]
    split
    · exact h.nodup
    · next hnew =>
      rw [List.nodup_append_comm]
      exact List.nodup_cons.mpr ⟨hnew, h.nodup⟩
  · intro entry hentry
    rcases mem_extendEntry hentry with hold | rfl | ⟨earlier, hold, rfl⟩
    · exact h.entries entry hold
    · exact ⟨hkey, hranges⟩
    · obtain ⟨-, hne, hbounded⟩ := h.entries _ hold
      refine ⟨hkey, by simpa using fun hnil => absurd hnil hne, ?_⟩
      intro range hrange
      rcases List.mem_append.mp hrange with hrange | hrange
      · exact hbounded range hrange
      · exact hranges.2 range hrange

theorem Collected.collect (h : Collected map)
    (hentries : ∀ entry ∈ entries, CanonicalKey entry.1 ∧ Bounded entry.2) :
    Collected (collect entries map) := by
  induction entries generalizing map with
  | nil => exact h
  | cons entry entries ih =>
    obtain ⟨hkey, hranges⟩ := hentries entry List.mem_cons_self
    exact ih (h.extend hkey hranges) fun other hother =>
      hentries other (List.mem_cons_of_mem _ hother)

theorem Collected.canonical (h : Collected map) : CanonicalMap (mergeEntries map) := by
  refine ⟨?_, ?_, ?_⟩
  · rw [mergeEntries, List.map_map]
    exact h.nodup
  · rintro _ hentry
    obtain ⟨entry, hmem, rfl⟩ := List.mem_map.mp hentry
    exact (h.entries entry hmem).1
  · rintro _ hentry
    obtain ⟨entry, hmem, rfl⟩ := List.mem_map.mp hentry
    exact mergeRanges_canonical (h.entries entry hmem).2

/-- Every set that is read is canonical. -/
theorem parseGtids_canonical (h : parseGtids value = .ok map) : CanonicalMap map := by
  obtain ⟨entries, hentries, rfl⟩ := parseGtids_eq_ok.mp h
  have hempty : Collected [] := ⟨List.nodup_nil, by simp⟩
  apply Collected.canonical
  apply hempty.collect
  intro entry hentry
  obtain ⟨group, hgroup, hreads⟩ := forall₂_mem_right hentries hentry
  exact hreads.canonical (mem_split (List.mem_filter.mp hgroup).1).1

end Canonical

/-! ## Writing -/

section Writing

variable {map map' : GtidMap} {key : GtidKey} {ranges : List (ℕ × ℕ)} {range : ℕ × ℕ}

/-- How an interval is written. -/
def rangeText (range : ℕ × ℕ) : String :=
  if range.1 = range.2 then toString range.1 else toString range.1 ++ "-" ++ toString range.2

/-- What is written of an entry between the colons. -/
def entryParts (entry : GtidKey × List (ℕ × ℕ)) : List String :=
  entry.1.1 :: (entry.1.2.toList ++ entry.2.map rangeText)

def entryText (entry : GtidKey × List (ℕ × ℕ)) : String := ":".intercalate (entryParts entry)

/-- The entries in the order of `BTreeMap`. -/
def GtidMap.sorted (map : GtidMap) : GtidMap := map.insertionSort fun a b => keyBefore a.1 b.1

theorem renderGtids_eq : renderGtids map = ",".intercalate (map.sorted.map entryText) := by
  unfold renderGtids GtidMap.sorted
  congr 1
  apply List.map_congr_left
  rintro ⟨⟨uuid, tag⟩, ranges⟩ -
  rw [entryText, entryParts, intercalate_cons]
  dsimp only
  rw [List.map_append, String.join_append, ← String.append_assoc, List.map_map]
  congr 1
  cases tag with
  | none => simp
  | some tag => simp

theorem toList_toString (n : ℕ) : (toString n).toList = Nat.toDigits 10 n :=
  String.toList_ofList

theorem toString_isEmpty (n : ℕ) : (toString n).isEmpty = false := by simp

theorem splitOnce_toString (n : ℕ) : splitOnce (toString n) '-' = none := by
  rw [splitOnce, toList_toString, splitFirst_eq_none (minus_notMem_toDigits n)]
  rfl

theorem splitOnce_range (a b : ℕ) :
    splitOnce (toString a ++ "-" ++ toString b) '-' = some (toString a, toString b) := by
  rw [splitOnce_eq_some]
  constructor
  · simp
  · rw [toList_toString]
    exact minus_notMem_toDigits a

/-- An interval is read back as it was. -/
theorem parseRange_rangeText (h : 1 ≤ range.1 ∧ range.1 ≤ range.2 ∧ range.2 < 2 ^ 64) :
    parseRange (rangeText range) = .ok range := by
  obtain ⟨a, b⟩ := range
  obtain ⟨hone, hle, hlt⟩ := h
  dsimp only at hone hle hlt
  have ha : parseNumber (toString a) = .ok a := parseNumber_toDigits (hle.trans_lt hlt)
  have hb : parseNumber (toString b) = .ok b := parseNumber_toDigits hlt
  have hvalid : ¬ (a = 0 ∨ b < a) := by omega
  unfold parseRange rangeText
  dsimp only
  by_cases hsame : a = b
  · subst hsame
    rw [if_pos rfl, splitOnce_toString]
    dsimp only
    rw [ha, ok_bind, pure_eq, ok_bind]
    dsimp only
    rw [if_neg hvalid]
    rfl
  · rw [if_neg hsame, splitOnce_range]
    dsimp only
    rw [ha, ok_bind, hb, ok_bind, pure_eq, ok_bind]
    dsimp only
    rw [if_neg hvalid]
    rfl

theorem mapM_parseRange (h : Bounded ranges) :
    (ranges.map rangeText).mapM parseRange = .ok ranges := by
  obtain ⟨-, hbounded⟩ := h
  induction ranges with
  | nil => rfl
  | cons range ranges ih =>
    rw [List.map_cons, List.mapM_cons, parseRange_rangeText (hbounded range List.mem_cons_self),
      ok_bind, ih fun other hother => hbounded other (List.mem_cons_of_mem _ hother), ok_bind]
    rfl

theorem isGtidInterval_rangeText (range : ℕ × ℕ) : isGtidInterval (rangeText range) = true := by
  unfold isGtidInterval rangeText
  by_cases hsame : range.1 = range.2
  · rw [if_pos hsame, splitOnce_toString]
    dsimp only
    rw [toString_isEmpty, toList_toString, isAsciiDigit_toDigits]
    rfl
  · rw [if_neg hsame, splitOnce_range]
    dsimp only
    rw [toString_isEmpty, toString_isEmpty, toList_toString, toList_toString,
      isAsciiDigit_toDigits, isAsciiDigit_toDigits]
    rfl

/-- No digit and no minus sign is a separator. -/
theorem mem_rangeText {c : Char} (h : c ∈ (rangeText range).toList) :
    isAsciiDigit c = true ∨ c = '-' := by
  unfold rangeText at h
  split at h
  · rw [toList_toString] at h
    exact .inl (isAsciiDigit_of_mem h)
  · rw [String.toList_append, String.toList_append, List.mem_append, List.mem_append,
      toList_toString, toList_toString] at h
    rcases h with (h | h) | h
    · exact .inl (isAsciiDigit_of_mem h)
    · exact .inr (List.mem_singleton.mp h)
    · exact .inl (isAsciiDigit_of_mem h)

theorem separator_notMem_rangeText {c : Char} (hdigit : isAsciiDigit c = false) (hminus : c ≠ '-') :
    c ∉ (rangeText range).toList := by
  intro hmem
  rcases mem_rangeText hmem with h | h
  · rw [hdigit] at h
    cases h
  · exact hminus h

theorem separator_notMem_tag {tag : String} {c : Char} (htag : isTagText tag = true)
    (halphanumeric : isAsciiAlphanumeric c = false) (hunderscore : c ≠ '_') : c ∉ tag.toList := by
  intro hmem
  rcases (isTagText_iff.mp htag).2 c hmem with h | h
  · rw [halphanumeric] at h
    cases h
  · exact hunderscore h

/-- No part of an entry has a separator in it. -/
theorem separator_notMem_part {entry : GtidKey × List (ℕ × ℕ)} {part : String} {c : Char}
    (hkey : CanonicalKey entry.1) (hc : c = ':' ∨ c = ',') (h : part ∈ entryParts entry) :
    c ∉ part.toList := by
  rcases List.mem_cons.mp h with rfl | h
  · rcases hc with rfl | rfl
    · exact hkey.uuid_free.1
    · exact hkey.uuid_free.2
  · rcases List.mem_append.mp h with h | h
    · apply separator_notMem_tag (hkey.tag_text part (Option.mem_toList.mp h))
      · rcases hc with rfl | rfl <;> rfl
      · rcases hc with rfl | rfl <;> decide
    · obtain ⟨range, -, rfl⟩ := List.mem_map.mp h
      apply separator_notMem_rangeText
      · rcases hc with rfl | rfl <;> rfl
      · rcases hc with rfl | rfl <;> decide

theorem split_entryText {entry : GtidKey × List (ℕ × ℕ)} (hkey : CanonicalKey entry.1) :
    split (entryText entry) ':' = entryParts entry :=
  split_intercalate rfl (fun _ hpart => separator_notMem_part hkey (.inl rfl) hpart)
    (List.cons_ne_nil _ _)

theorem comma_notMem_entryText {entry : GtidKey × List (ℕ × ℕ)} (hkey : CanonicalKey entry.1) :
    ',' ∉ (entryText entry).toList := by
  rw [entryText, String.toList_intercalate]
  intro hmem
  rcases mem_intercalate hmem with hsep | ⟨l, hl, hmem⟩
  · exact absurd hsep (by decide)
  · obtain ⟨part, hpart, rfl⟩ := List.mem_map.mp hl
    exact separator_notMem_part hkey (.inr rfl) hpart hmem

/-- An entry of a canonical map is read back as it was. -/
theorem groupReads_entryText {entry : GtidKey × List (ℕ × ℕ)} (hkey : CanonicalKey entry.1)
    (hranges : CanonicalRanges entry.2) : GroupReads (entryText entry) entry.1 entry.2 := by
  have hsplit := split_entryText hkey
  obtain ⟨⟨uuid, tag⟩, ranges⟩ := entry
  have hread := mapM_parseRange hranges.bounded
  have huuid : toAsciiLowercase uuid = uuid := hkey.uuid_lower
  have hne : ranges.map rangeText ≠ [] := by simpa using hranges.bounded.1
  refine ⟨?_, hkey.length⟩
  cases tag with
  | none =>
    obtain ⟨first, rest, hcons⟩ := List.exists_cons_of_ne_nil hne
    have hinterval : isGtidInterval first = true := by
      have hfirst : first ∈ ranges.map rangeText := hcons ▸ List.mem_cons_self
      obtain ⟨range, -, rfl⟩ := List.mem_map.mp hfirst
      exact isGtidInterval_rangeText range
    refine ⟨uuid, none, ranges.map rangeText, ?_, by rw [huuid]; rfl, by simp, hne, hread⟩
    rw [hcons]
    apply GroupParts.untagged _ hinterval
    rw [hsplit, ← hcons]
    rfl
  | some tag =>
    have hlower : toAsciiLowercase tag = tag := hkey.tag_lower tag rfl
    refine ⟨uuid, some tag, ranges.map rangeText, ?_, ?_, hkey.tag_text, hne, hread⟩
    · exact .tagged hsplit (hkey.tag_not_interval tag rfl)
    · rw [huuid, Option.map_some, hlower]

theorem extendEntry_new (h : key ∉ map.map Prod.fst) :
    extendEntry key ranges map = map ++ [(key, ranges)] := by
  induction map with
  | nil => rfl
  | cons first map ih =>
    obtain ⟨other, earlier⟩ := first
    rw [List.map_cons, List.mem_cons, not_or] at h
    rw [extendEntry, if_neg (Ne.symm h.1), ih h.2]
    rfl

/-- Entries with keys of their own are kept as they are. -/
theorem collect_eq_append {entries : GtidMap} (h : ((map ++ entries).map Prod.fst).Nodup) :
    collect entries map = map ++ entries := by
  induction entries generalizing map with
  | nil => simp [collect]
  | cons entry entries ih =>
    have hassoc : map ++ entry :: entries = map ++ [entry] ++ entries := by simp
    have hnew : entry.1 ∉ map.map Prod.fst := by
      rw [List.map_append, List.map_cons] at h
      intro hmem
      exact List.nodup_append.mp h |>.2.2 _ hmem _ List.mem_cons_self rfl
    have hstep : collect (entry :: entries) map =
        collect entries (extendEntry entry.1 entry.2 map) := rfl
    rw [hstep, extendEntry_new hnew, hassoc]
    exact ih (hassoc ▸ h)

theorem CanonicalMap.perm (h : CanonicalMap map) (hperm : map'.Perm map) : CanonicalMap map' where
  nodup := (hperm.map Prod.fst).nodup_iff.mpr h.nodup
  keys entry hentry := h.keys entry (hperm.mem_iff.mp hentry)
  ranges entry hentry := h.ranges entry (hperm.mem_iff.mp hentry)

theorem GtidMap.sorted_perm (map : GtidMap) : map.sorted.Perm map := List.perm_insertionSort _ map

theorem mergeEntries_eq (h : CanonicalMap map) : mergeEntries map = map := by
  calc mergeEntries map = map.map id := List.map_congr_left fun entry hentry => by
        rw [mergeRanges_eq (h.ranges entry hentry)]
        rfl
    _ = map := List.map_id map

theorem groupTexts_intercalate {parts : List String} (hfree : ∀ part ∈ parts, ',' ∉ part.toList)
    (hne : ∀ part ∈ parts, part.isEmpty = false) : groupTexts (",".intercalate parts) = parts := by
  cases parts with
  | nil => rfl
  | cons first rest =>
    rw [groupTexts, split_intercalate rfl hfree (List.cons_ne_nil _ _), List.filter_eq_self]
    intro part hpart
    rw [hne part hpart]
    rfl

theorem entryText_isEmpty {entry : GtidKey × List (ℕ × ℕ)} (hkey : CanonicalKey entry.1) :
    (entryText entry).isEmpty = false := by
  rw [entryText, entryParts, intercalate_cons]
  have hne : entry.1.1 ≠ "" := by
    intro hnil
    have hlength := hkey.length
    rw [hnil] at hlength
    cases hlength
  simp [hne]

/-- Every canonical map is read back from its text, in the order of the keys. -/
theorem parseGtids_renderGtids (h : CanonicalMap map) :
    parseGtids (renderGtids map) = .ok map.sorted := by
  have hsorted : CanonicalMap map.sorted := h.perm map.sorted_perm
  rw [parseGtids_eq_ok]
  refine ⟨map.sorted, ?_, ?_⟩
  · rw [renderGtids_eq, groupTexts_intercalate]
    · rw [List.forall₂_map_left_iff, List.forall₂_same]
      intro entry hentry
      exact groupReads_entryText (hsorted.keys entry hentry) (hsorted.ranges entry hentry)
    · intro part hpart
      obtain ⟨entry, hentry, rfl⟩ := List.mem_map.mp hpart
      exact comma_notMem_entryText (hsorted.keys entry hentry)
    · intro part hpart
      obtain ⟨entry, hentry, rfl⟩ := List.mem_map.mp hpart
      exact entryText_isEmpty (hsorted.keys entry hentry)
  · rw [collect_eq_append (by simpa using hsorted.nodup), List.nil_append,
      mergeEntries_eq hsorted]

end Writing

/-! ## Equal sets -/

section Equality

variable {value value' text : String} {map map' : GtidMap} {key : GtidKey}
  {ranges ranges' : List (ℕ × ℕ)}

/-- No tag stands before every tag. -/
def tagPlace : Option String → WithBot String
  | none => ⊥
  | some tag => tag

/-- The place of a key in the order of `BTreeMap`. -/
def keyPlace (key : GtidKey) : String ×ₗ WithBot String := toLex (key.1, tagPlace key.2)

theorem keyPlace_inj {a b : GtidKey} (h : keyPlace a = keyPlace b) : a = b := by
  obtain ⟨uuid, tag⟩ := a
  obtain ⟨uuid', tag'⟩ := b
  obtain ⟨rfl, htag⟩ := Prod.mk.inj (toLex_inj.mp h)
  cases tag with
  | none =>
    cases tag' with
    | none => rfl
    | some tag' => exact absurd htag.symm (WithBot.coe_ne_bot)
  | some tag =>
    cases tag' with
    | none => exact absurd htag (WithBot.coe_ne_bot)
    | some tag' => rw [WithBot.coe_inj.mp htag]

theorem tagBefore_iff {tag tag' : Option String} : (match tag, tag' with
      | none, _ => true
      | some _, none => false
      | some tag, some tag' => decide (tag ≤ tag')) = true ↔ tagPlace tag ≤ tagPlace tag' := by
  cases tag with
  | none => exact iff_of_true rfl bot_le
  | some tag =>
    cases tag' with
    | none => exact iff_of_false Bool.false_ne_true (WithBot.not_coe_le_bot tag)
    | some tag' => exact decide_eq_true_iff.trans WithBot.coe_le_coe.symm

theorem keyBefore_iff {a b : GtidKey} : keyBefore a b = true ↔ keyPlace a ≤ keyPlace b := by
  unfold keyBefore keyPlace
  rw [Prod.Lex.toLex_le_toLex]
  by_cases hsame : a.1 = b.1
  · rw [if_neg (not_not_intro hsame)]
    constructor
    · intro hle
      exact .inr ⟨hsame, tagBefore_iff.mp hle⟩
    · rintro (hlt | ⟨-, hle⟩)
      · exact absurd hsame hlt.ne
      · exact tagBefore_iff.mpr hle
  · rw [if_pos hsame, decide_eq_true_iff]
    constructor
    · intro hle
      exact .inl (lt_of_le_of_ne hle hsame)
    · rintro (hlt | ⟨heq, -⟩)
      · exact hlt.le
      · exact absurd heq hsame

/-- The entries of a map are in the order of their keys. -/
theorem sorted_pairwise (map : GtidMap) :
    map.sorted.Pairwise fun a b => keyPlace a.1 ≤ keyPlace b.1 := by
  have htotal : Std.Total fun a b : GtidKey × List (ℕ × ℕ) => keyBefore a.1 b.1 = true := by
    constructor
    intro a b
    rw [keyBefore_iff, keyBefore_iff]
    exact le_total _ _
  have htrans : IsTrans (GtidKey × List (ℕ × ℕ)) fun a b => keyBefore a.1 b.1 = true := by
    constructor
    intro a b c hab hbc
    rw [keyBefore_iff] at *
    exact hab.trans hbc
  have hsorted := List.pairwise_insertionSort
    (fun a b : GtidKey × List (ℕ × ℕ) => keyBefore a.1 b.1 = true) map
  exact hsorted.imp fun hle => keyBefore_iff.mp hle

theorem CanonicalMap.eq_of_mem (h : CanonicalMap map) (hfirst : (key, ranges) ∈ map)
    (hsecond : (key, ranges') ∈ map) : ranges = ranges' :=
  Prod.mk.inj (List.inj_on_of_nodup_map h.nodup hfirst hsecond rfl) |>.2

/-- The numbers under a key of a canonical map are those of its entry. -/
theorem CanonicalMap.rangeSet_eq (h : CanonicalMap map) (hmem : (key, ranges) ∈ map) :
    rangeSet ranges = {n | (⟨key.1, key.2, n⟩ : Gtid) ∈ map.denote} := by
  ext n
  constructor
  · intro hn
    exact ⟨(key, ranges), hmem, rfl, hn⟩
  · rintro ⟨⟨key', ranges'⟩, hmem', hkey, hn⟩
    obtain rfl : key' = key := hkey
    rw [h.eq_of_mem hmem hmem']
    exact hn

theorem CanonicalRanges.exists_mem (h : CanonicalRanges ranges) : ∃ n, n ∈ rangeSet ranges := by
  obtain ⟨range, hrange⟩ := List.exists_mem_of_ne_nil ranges h.bounded.1
  exact ⟨range.1, range, hrange, le_rfl, (h.bounded.2 range hrange).2.1⟩

theorem CanonicalMap.subset (h : CanonicalMap map) (h' : CanonicalMap map')
    (hset : map.denote = map'.denote) : map ⊆ map' := by
  rintro ⟨key, ranges⟩ hmem
  have hranges := h.ranges _ hmem
  obtain ⟨n, hn⟩ := hranges.exists_mem
  have hdenote : (⟨key.1, key.2, n⟩ : Gtid) ∈ map'.denote := by
    rw [← hset]
    exact ⟨(key, ranges), hmem, rfl, hn⟩
  obtain ⟨⟨key', ranges'⟩, hmem', hkey, -⟩ := hdenote
  obtain rfl : key' = key := hkey
  have hsame : rangeSet ranges = rangeSet ranges' := by
    rw [h.rangeSet_eq hmem, h'.rangeSet_eq hmem', hset]
  have hequal : ranges = ranges' := hranges.ext (h'.ranges _ hmem') hsame
  rwa [hequal]

/-- Canonical maps of the same transactions have the same entries in the same order. -/
theorem CanonicalMap.sorted_eq (h : CanonicalMap map) (h' : CanonicalMap map')
    (hset : map.denote = map'.denote) : map.sorted = map'.sorted := by
  have hnodup : map.Nodup := h.nodup.of_map _
  have hnodup' : map'.Nodup := h'.nodup.of_map _
  have hperm : map.Perm map' := (List.perm_ext_iff_of_nodup hnodup hnodup').mpr fun entry =>
    ⟨fun hmem => h.subset h' hset hmem, fun hmem => h'.subset h hset.symm hmem⟩
  have hsorted : map.sorted.Perm map'.sorted :=
    (map.sorted_perm.trans hperm).trans map'.sorted_perm.symm
  apply hsorted.eq_of_pairwise ?_ (sorted_pairwise map) (sorted_pairwise map')
  rintro ⟨key, ranges⟩ ⟨key', ranges'⟩ hmem hmem' hle hle'
  obtain rfl : key = key' := keyPlace_inj (hle.antisymm hle')
  have hequal : ranges = ranges' := by
    apply h.eq_of_mem (map.sorted_perm.mem_iff.mp hmem)
    exact hperm.mem_iff.mpr (map'.sorted_perm.mem_iff.mp hmem')
  rw [hequal]

end Equality

/-! ## The algebra -/

section Algebra

variable {value value' left right one one' text : String} {map map' : GtidMap}

theorem canonicalGtids_eq_ok :
    canonicalGtids value = .ok text ↔
      ∃ map, parseGtids value = .ok map ∧ text = renderGtids map := by
  unfold canonicalGtids
  constructor
  · intro h
    cases hparse : parseGtids value with
    | error e =>
      rw [hparse] at h
      cases h
    | ok map =>
      rw [hparse] at h
      cases h
      exact ⟨map, rfl, rfl⟩
  · rintro ⟨map, hparse, rfl⟩
    rw [hparse]
    rfl

theorem renderGtids_congr (h : map.sorted = map'.sorted) : renderGtids map = renderGtids map' := by
  rw [renderGtids_eq, renderGtids_eq, h]

theorem denote_sorted (map : GtidMap) : map.sorted.denote = map.denote := by
  ext gtid
  simp only [GtidMap.denote, Set.mem_ofPred_eq, map.sorted_perm.mem_iff]

theorem textSet_renderGtids (h : CanonicalMap map) : textSet (renderGtids map) = map.denote := by
  rw [← denote_parseGtids (parseGtids_renderGtids h), denote_sorted]

/-- The canonical text lists the same transactions and is its own canonical text. -/
theorem canonical_text (h : parseGtids value = .ok map) :
    textSet (renderGtids map) = textSet value ∧
      canonicalGtids (renderGtids map) = .ok (renderGtids map) := by
  have hcanonical := parseGtids_canonical h
  have hsorted : CanonicalMap map.sorted := hcanonical.perm map.sorted_perm
  constructor
  · rw [textSet_renderGtids hcanonical, denote_parseGtids h]
  · rw [canonicalGtids_eq_ok]
    refine ⟨map.sorted, parseGtids_renderGtids hcanonical, renderGtids_congr ?_⟩
    exact hcanonical.sorted_eq hsorted (denote_sorted map).symm

/-- Texts with equal canonical texts list the same transactions, and the other way round. -/
theorem renderGtids_eq_iff (h : parseGtids value = .ok map) (h' : parseGtids value' = .ok map') :
    renderGtids map = renderGtids map' ↔ textSet value = textSet value' := by
  constructor
  · intro heq
    rw [← (canonical_text h).1, ← (canonical_text h').1, heq]
  · intro hset
    apply renderGtids_congr
    apply (parseGtids_canonical h).sorted_eq (parseGtids_canonical h')
    rw [denote_parseGtids h, denote_parseGtids h', hset]

theorem groupTexts_append (left right : String) :
    groupTexts (left ++ "," ++ right) = groupTexts left ++ groupTexts right := by
  have hlist : (left ++ "," ++ right).toList = left.toList ++ ',' :: right.toList := by simp
  unfold groupTexts split
  rw [hlist, List.splitOn_append_cons_self, List.map_append, List.filter_append]

/-- The groups of joined texts are those of the one and then of the other. -/
theorem groupTexts_join (left right : String) :
    groupTexts (",".intercalate ([left, right].filter fun part => !part.isEmpty)) =
      groupTexts left ++ groupTexts right := by
  by_cases hleft : left = ""
  · subst hleft
    by_cases hright : right = ""
    · subst hright
      rfl
    · simp [hright, groupTexts, split]
  · by_cases hright : right = ""
    · subst hright
      simp [hleft, groupTexts, split]
    · have hboth : [left, right].filter (fun part => !part.isEmpty) = [left, right] := by
        simp [hleft, hright]
      rw [hboth, String.intercalate_cons_cons, String.intercalate_singleton, groupTexts_append]

/-- A merge reads both sets and lists the transactions of either. -/
theorem mergeGtids_eq_ok {left : Option String}
    (hleft : ∀ set ∈ left, ∃ map, parseGtids set = .ok map) (hright : parseGtids right = .ok map) :
    ∃ merged, mergeGtids left right = .ok merged ∧ canonicalGtids merged = .ok merged ∧
      textSet merged = {gtid | ∃ set ∈ left, gtid ∈ textSet set} ∪ textSet right := by
  obtain ⟨mapLeft, hparse⟩ : ∃ map, parseGtids (left.getD "") = .ok map := by
    cases left with
    | none => exact ⟨[], rfl⟩
    | some set => exact hleft set rfl
  have hset : textSet (left.getD "") = {gtid | ∃ set ∈ left, gtid ∈ textSet set} := by
    ext gtid
    cases left with
    | none => simp [textSet_eq, groupTexts, split]
    | some set => simp
  obtain ⟨entries, hentries, -⟩ := parseGtids_eq_ok.mp hparse
  obtain ⟨entries', hentries', -⟩ := parseGtids_eq_ok.mp hright
  have hjoined := parseGtids_eq_ok.mpr ⟨entries ++ entries', by
    rw [groupTexts_join (left.getD "") right]
    exact List.rel_append hentries hentries', rfl⟩
  obtain ⟨htext, hidem⟩ := canonical_text hjoined
  refine ⟨_, canonicalGtids_eq_ok.mpr ⟨_, hjoined, rfl⟩, hidem, ?_⟩
  rw [htext, ← hset, textSet_eq, textSet_eq, textSet_eq, groupTexts_join]
  ext gtid
  simp only [List.mem_append, or_and_right, exists_or, Set.mem_union, Set.mem_ofPred_eq]

theorem isSingle_iff : isSingle map = true ↔ ∃ key n, map = [(key, [(n, n)])] := by
  unfold isSingle
  split
  · next key start stop =>
    rw [beq_iff_eq]
    constructor
    · rintro rfl
      exact ⟨key, start, rfl⟩
    · rintro ⟨_, n, heq⟩
      cases heq
      rfl
  · next hother =>
    refine iff_of_false Bool.false_ne_true ?_
    rintro ⟨key, n, rfl⟩
    exact hother key n n rfl

theorem parsed_eq_ok : parsed value = .ok map ↔ parseGtids value = .ok map := by
  unfold parsed
  cases parseGtids value with
  | error e => exact iff_of_false (by rintro ⟨⟩) (by rintro ⟨⟩)
  | ok read => rw [Except.mapError, Except.ok.injEq, Except.ok.injEq]

theorem canonicalSingleGtid_eq_ok : canonicalSingleGtid value = .ok text ↔
    ∃ key n, parseGtids value = .ok [(key, [(n, n)])] ∧ text = renderGtids [(key, [(n, n)])] := by
  unfold canonicalSingleGtid
  rw [bind_eq_ok]
  constructor
  · rintro ⟨map, hparse, h⟩
    split at h
    · next hsingle =>
      obtain ⟨key, n, rfl⟩ := isSingle_iff.mp hsingle
      cases h
      exact ⟨key, n, parsed_eq_ok.mp hparse, rfl⟩
    · cases h
  · rintro ⟨key, n, hparse, rfl⟩
    refine ⟨_, parsed_eq_ok.mpr hparse, ?_⟩
    rw [if_pos (isSingle_iff.mpr ⟨key, n, rfl⟩)]

theorem lookup_eq_some (hnodup : (map.map Prod.fst).Nodup) {key : GtidKey}
    {ranges : List (ℕ × ℕ)} : map.lookup key = some ranges ↔ (key, ranges) ∈ map := by
  induction map with
  | nil => simp
  | cons entry map ih =>
    obtain ⟨other, earlier⟩ := entry
    obtain ⟨hnew, hrest⟩ := List.nodup_cons.mp hnodup
    rw [List.lookup_cons]
    by_cases heq : key = other
    · subst heq
      have hnot : (key, ranges) ∉ map := fun hmem => hnew (List.mem_map.mpr ⟨_, hmem, rfl⟩)
      simp [hnot, eq_comm]
    · have hbeq : (key == other) = false := beq_eq_false_iff_ne.mpr heq
      rw [hbeq]
      simp [heq, ih hrest]

/-- A transaction is found if its number is in an interval under its key. -/
theorem lookup_any_iff (h : CanonicalMap map) {key : GtidKey} {n : ℕ} :
    ((map.lookup key).any fun items =>
      items.any fun item => decide (item.1 ≤ n) && decide (n ≤ item.2)) = true ↔
      (⟨key.1, key.2, n⟩ : Gtid) ∈ map.denote := by
  rw [Option.any_eq_true]
  constructor
  · rintro ⟨ranges, hlookup, hany⟩
    obtain ⟨range, hrange, hin⟩ := List.any_eq_true.mp hany
    rw [Bool.and_eq_true, decide_eq_true_iff, decide_eq_true_iff] at hin
    exact ⟨(key, ranges), (lookup_eq_some h.nodup).mp hlookup, rfl, range, hrange, hin⟩
  · rintro ⟨⟨key', ranges⟩, hmem, hkey, range, hrange, hin⟩
    obtain rfl : key' = key := hkey
    refine ⟨ranges, (lookup_eq_some h.nodup).mpr hmem, List.any_eq_true.mpr ⟨range, hrange, ?_⟩⟩
    rw [Bool.and_eq_true, decide_eq_true_iff, decide_eq_true_iff]
    exact hin

/-- A canonical single GTID is contained in a set if it is a member. -/
theorem gtidContains_single (hset : parseGtids value = .ok map)
    (hone : canonicalSingleGtid one' = .ok one) : ∃ gtid contained,
      textSet one = {gtid} ∧ gtidContains value one = .ok contained ∧
        (contained = true ↔ gtid ∈ textSet value) := by
  obtain ⟨key, n, hparse, rfl⟩ := canonicalSingleGtid_eq_ok.mp hone
  have hcanonical := parseGtids_canonical hparse
  have hread : parseGtids (renderGtids [(key, [(n, n)])]) = .ok [(key, [(n, n)])] :=
    parseGtids_renderGtids hcanonical
  refine ⟨⟨key.1, key.2, n⟩, (map.lookup key).any fun items =>
    items.any fun item => decide (item.1 ≤ n) && decide (n ≤ item.2), ?_, ?_, ?_⟩
  · rw [← denote_parseGtids hread]
    ext gtid
    simp only [GtidMap.denote, rangeSet, List.mem_singleton, exists_eq_left, Set.mem_ofPred_eq,
      Set.mem_singleton_iff]
    constructor
    · rintro ⟨rfl, hlow, hhigh⟩
      exact Gtid.mk.injEq .. ▸ ⟨rfl, rfl, le_antisymm hhigh hlow⟩
    · rintro rfl
      exact ⟨rfl, le_rfl, le_rfl⟩
  · unfold gtidContains
    rw [parsed_eq_ok.mpr hset, ok_bind, parsed_eq_ok.mpr hread, ok_bind]
    rfl
  · rw [lookup_any_iff (parseGtids_canonical hset), denote_parseGtids hset]

/-- The sets that are read are sets of transactions: the intervals are kept in order, apart and
within `u64`, the canonical text is that of its transactions alone, and merging and containment
are union and membership. -/
theorem gtid_set_algebra (h : parseGtids value = .ok map) :
    CanonicalMap map ∧ map.denote = textSet value ∧
      (∀ map', CanonicalMap map' → parseGtids (renderGtids map') = .ok map'.sorted) ∧
      ∃ text, canonicalGtids value = .ok text ∧ textSet text = textSet value ∧
        canonicalGtids text = .ok text ∧
        (∀ value' text', canonicalGtids value' = .ok text' →
          (text' = text ↔ textSet value' = textSet value)) ∧
        (∀ left : Option String, (∀ set ∈ left, ∃ map, parseGtids set = .ok map) →
          ∃ merged, mergeGtids left value = .ok merged ∧ canonicalGtids merged = .ok merged ∧
            textSet merged = {gtid | ∃ set ∈ left, gtid ∈ textSet set} ∪ textSet value) ∧
        ∀ one one', canonicalSingleGtid one' = .ok one → ∃ gtid contained,
          textSet one = {gtid} ∧ gtidContains value one = .ok contained ∧
            (contained = true ↔ gtid ∈ textSet value) := by
  obtain ⟨hsame, hidem⟩ := canonical_text h
  refine ⟨parseGtids_canonical h, denote_parseGtids h, fun map' => parseGtids_renderGtids,
    renderGtids map, canonicalGtids_eq_ok.mpr ⟨map, h, rfl⟩, hsame, hidem, ?_, ?_, ?_⟩
  · rintro value' text' htext
    obtain ⟨map', hparse, rfl⟩ := canonicalGtids_eq_ok.mp htext
    exact renderGtids_eq_iff hparse h
  · intro left hleft
    exact mergeGtids_eq_ok hleft h
  · intro one one' hone
    exact gtidContains_single h hone

def serverGtids : String := "AAAAAAAA-aaaa-aaaa-aaaa-aaaaaaaaaaaa:4-18446744073709551615:1-3"

theorem gtid_set_algebra_server : ∃ merged, mergeGtids none serverGtids = .ok merged ∧
    canonicalGtids merged = .ok merged ∧ textSet merged = textSet serverGtids := by
  have hparse : parseGtids serverGtids =
      .ok [(("aaaaaaaa-aaaa-aaaa-aaaa-aaaaaaaaaaaa", none), [(1, 18446744073709551615)])] := by
    decide +kernel
  obtain ⟨-, -, -, _, -, -, -, -, hmerge, -⟩ := gtid_set_algebra hparse
  obtain ⟨merged, hmerged, hidem, hset⟩ := hmerge none (by simp)
  exact ⟨merged, hmerged, hidem, by simpa using hset⟩

end Algebra

end DatabaseSync.PostgresqlSink
