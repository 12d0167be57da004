import DatabaseSync.Library.Checked
import DatabaseSync.Library.Digits
import Mathlib.Data.List.Sort
import Mathlib.Data.Prod.Lex
import Mathlib.Data.Set.Basic

/-! # GTID sets in the PostgreSQL checkpoint

The writer reads a GTID set into ranges, one list for each UUID and tag, and writes it back in a
canonical form.
-/

namespace DatabaseSync.PostgresqlSink

open Checked Text

/-- One transaction of a server, under an optional tag. -/
structure Gtid where
  uuid : String
  tag : Option String
  number : ℕ
deriving DecidableEq, Repr

inductive GtidError
  | invalidSet
  | invalidUuid
  | invalidTagged
  | invalidNumber
  | invalidInterval
deriving DecidableEq, Repr

abbrev GtidKey := String × Option String

/-- `BTreeMap`, with the keys in the order of their first occurrence. -/
abbrev GtidMap := List (GtidKey × List (ℕ × ℕ))

/-- `map.entry(key).or_default().extend(ranges)` -/
def extendEntry (key : GtidKey) (ranges : List (ℕ × ℕ)) : GtidMap → GtidMap
  | [] => [(key, ranges)]
  | (other, earlier) :: map =>
    if other = key then (other, earlier ++ ranges) :: map
    else (other, earlier) :: extendEntry key ranges map

/-- `is_gtid_interval` -/
def isGtidInterval (value : String) : Bool :=
  match splitOnce value '-' with
  | some (start, stop) =>
    !start.isEmpty && !stop.isEmpty && start.toList.all isAsciiDigit && stop.toList.all isAsciiDigit
  | none => !value.isEmpty && value.toList.all isAsciiDigit

def parseNumber (value : String) : Except GtidError ℕ :=
  match parseU64 value with
  | some n => .ok n
  | none => .error .invalidNumber

def parseRange (part : String) : Except GtidError (ℕ × ℕ) := do
  let (a, b) ← match splitOnce part '-' with
    | some (a, b) => do
      let a ← parseNumber a
      let b ← parseNumber b
      pure (a, b)
    | none => do
      let n ← parseNumber part
      pure (n, n)
  if a = 0 ∨ b < a then throw .invalidInterval else pure (a, b)

/-- The tag, if there is one, and the parts after it. -/
def parseTag (second : String) (rest : List String) :
    Except GtidError (Option String × List String) :=
  if isGtidInterval second then .ok (none, second :: rest)
  else if rest.isEmpty || second.isEmpty ||
      !second.toList.all fun c => isAsciiAlphanumeric c || c == '_' then .error .invalidTagged
  else .ok (some (toAsciiLowercase second), rest)

def parseGroup (map : GtidMap) (group : String) : Except GtidError GtidMap :=
  match split group ':' with
  | uuid :: second :: rest => do
    (if byteLength (toAsciiLowercase uuid) = 36 then .ok () else .error .invalidUuid)
    let (tag, parts) ← parseTag second rest
    let ranges ← parts.mapM parseRange
    pure (extendEntry (toAsciiLowercase uuid, tag) ranges map)
  | _ => .error .invalidSet

/-- The ranges after `(a, b)`, each joined to the one before it where they meet. -/
def mergeFrom (a b : ℕ) : List (ℕ × ℕ) → List (ℕ × ℕ)
  | [] => [(a, b)]
  | (c, d) :: ranges =>
    if c ≤ min (b + 1) (2 ^ 64 - 1) then mergeFrom a (max b d) ranges
    else (a, b) :: mergeFrom c d ranges

def mergeRanges (ranges : List (ℕ × ℕ)) : List (ℕ × ℕ) :=
  match ranges.insertionSort fun p q => toLex p ≤ toLex q with
  | [] => []
  | (a, b) :: ranges => mergeFrom a b ranges

def parseGtids (value : String) : Except GtidError GtidMap := do
  let map ← ((split value ',').filter fun part => !part.isEmpty).foldlM parseGroup []
  return map.map fun (key, ranges) => (key, mergeRanges ranges)

/-- The keys of a map in their order, without a tag first. -/
def keyBefore (a b : GtidKey) : Bool :=
  if a.1 ≠ b.1 then a.1 ≤ b.1
  else match a.2, b.2 with
    | none, _ => true
    | some _, none => false
    | some tag, some tag' => tag ≤ tag'

def renderGtids (map : GtidMap) : String :=
  String.intercalate "," <|
    (map.insertionSort fun a b => keyBefore a.1 b.1).map fun (key, ranges) =>
      key.1 ++ key.2.elim "" (":" ++ ·) ++ String.join (ranges.map fun (start, stop) =>
        ":" ++ if start = stop then toString start else toString start ++ "-" ++ toString stop)

def canonicalGtids (value : String) : Except GtidError String :=
  (parseGtids value).map renderGtids

example : canonicalGtids "bbbbbbbb-bbbb-bbbb-bbbb-bbbbbbbbbbbb:tag:4-5:6,AAAAAAAA-aaaa-aaaa-aaaa-aaaaaaaaaaaa:1-3"
    = .ok "aaaaaaaa-aaaa-aaaa-aaaa-aaaaaaaaaaaa:1-3,bbbbbbbb-bbbb-bbbb-bbbb-bbbbbbbbbbbb:tag:4-6" := by
  decide +kernel

/-! ## Numbers -/

theorem isAsciiDigit_toDigits (n : ℕ) : (Nat.toDigits 10 n).all isAsciiDigit = true :=
  List.all_eq_true.mpr fun _ hc => isAsciiDigit_of_mem hc

theorem minus_notMem_toDigits (n : ℕ) : '-' ∉ Nat.toDigits 10 n := fun h =>
  absurd (isAsciiDigit_of_mem h) (by decide)

theorem parseNumber_toDigits {n : ℕ} (h : n < 2 ^ 64) :
    parseNumber (String.ofList (Nat.toDigits 10 n)) = .ok n := by
  have hparse : parseU64 (String.ofList (Nat.toDigits 10 n)) = some n :=
    parseUnsigned_toDigits (by decide) (by decide) h
  rw [parseNumber, hparse]

/-! ## The set of a map -/

/-- The numbers in some range. -/
def rangeSet (ranges : List (ℕ × ℕ)) : Set ℕ := {n | ∃ range ∈ ranges, range.1 ≤ n ∧ n ≤ range.2}

theorem rangeSet_cons (a b : ℕ) (ranges : List (ℕ × ℕ)) :
    rangeSet ((a, b) :: ranges) = Set.Icc a b ∪ rangeSet ranges := by
  ext n
  simp [rangeSet]

theorem rangeSet_append (l l' : List (ℕ × ℕ)) : rangeSet (l ++ l') = rangeSet l ∪ rangeSet l' := by
  ext n
  simp [rangeSet, or_and_right, exists_or]

theorem rangeSet_mergeFrom {a b : ℕ} {ranges : List (ℕ × ℕ)}
    (h : ((a, b) :: ranges).Pairwise fun p q => p.1 ≤ q.1) :
    rangeSet (mergeFrom a b ranges) = Set.Icc a b ∪ rangeSet ranges := by
  induction ranges generalizing a b with
  | nil => exact rangeSet_cons a b []
  | cons range ranges ih =>
    obtain ⟨c, d⟩ := range
    obtain ⟨hhead, htail⟩ := List.pairwise_cons.mp h
    obtain ⟨hnext, hrest⟩ := List.pairwise_cons.mp htail
    have hac : a ≤ c := hhead (c, d) List.mem_cons_self
    rw [mergeFrom, rangeSet_cons]
    split
    · next hmeets =>
      have hmerged : ((a, max b d) :: ranges).Pairwise fun p q => p.1 ≤ q.1 :=
        List.pairwise_cons.mpr ⟨fun q hq => hac.trans (hnext q hq), hrest⟩
      rw [ih hmerged, ← Set.union_assoc]
      congr 1
      -- the two ranges meet, so their union is one range
      ext n
      simp only [Set.mem_Icc, Set.mem_union]
      omega
    · rw [rangeSet_cons, ih htail]

theorem rangeSet_mergeRanges (ranges : List (ℕ × ℕ)) :
    rangeSet (mergeRanges ranges) = rangeSet ranges := by
  have hperm := List.perm_insertionSort (fun p q : ℕ × ℕ => toLex p ≤ toLex q) ranges
  have hsorted := List.pairwise_insertionSort (fun p q : ℕ × ℕ => toLex p ≤ toLex q) ranges
  have hset : rangeSet (ranges.insertionSort fun p q => toLex p ≤ toLex q) = rangeSet ranges := by
    ext n
    simp only [rangeSet, Set.mem_ofPred_eq, hperm.mem_iff]
  rw [← hset, mergeRanges]
  split
  · next hnil => rw [hnil]
  · next a b rest hcons =>
    rw [hcons] at hsorted ⊢
    rw [rangeSet_cons]
    apply rangeSet_mergeFrom
    refine hsorted.imp fun {p q} hle => ?_
    rcases Prod.Lex.toLex_le_toLex.mp hle with hlt | ⟨heq, -⟩
    · exact hlt.le
    · exact heq.le

/-- The transactions of a map. -/
def GtidMap.denote (map : GtidMap) : Set Gtid :=
  {gtid | ∃ entry ∈ map, entry.1 = (gtid.uuid, gtid.tag) ∧ gtid.number ∈ rangeSet entry.2}

/-- The transactions of some ranges under one key. -/
def keyed (key : GtidKey) (ranges : List (ℕ × ℕ)) : Set Gtid :=
  {gtid | key = (gtid.uuid, gtid.tag) ∧ gtid.number ∈ rangeSet ranges}

theorem denote_cons (key : GtidKey) (ranges : List (ℕ × ℕ)) (map : GtidMap) :
    GtidMap.denote ((key, ranges) :: map) = keyed key ranges ∪ GtidMap.denote map := by
  ext gtid
  simp [GtidMap.denote, keyed]

theorem denote_extendEntry (key : GtidKey) (ranges : List (ℕ × ℕ)) (map : GtidMap) :
    (extendEntry key ranges map).denote = map.denote ∪ keyed key ranges := by
  induction map with
  | nil => rw [extendEntry, denote_cons, Set.union_comm]
  | cons entry map ih =>
    obtain ⟨other, earlier⟩ := entry
    rw [extendEntry]
    split
    · next heq =>
      subst heq
      rw [denote_cons, denote_cons]
      ext gtid
      simp only [keyed, rangeSet_append, Set.mem_union, Set.mem_ofPred_eq, and_or_left]
      tauto
    · rw [denote_cons, ih, denote_cons, Set.union_assoc]

theorem denote_mergeRanges (map : GtidMap) :
    GtidMap.denote (map.map fun entry => (entry.1, mergeRanges entry.2)) = map.denote := by
  ext gtid
  simp [GtidMap.denote, rangeSet_mergeRanges]

end DatabaseSync.PostgresqlSink
