import DatabaseSync.MysqlSink.Gtid
import DatabaseSync.PostgresqlSink.GtidAlgebra

/-! # The writer's GTID arithmetic as a server

The PostgreSQL writer computes what the MySQL writer asks its server for. Its functions answer
the two questions by the laws of set arithmetic on the transactions that a text lists.
-/

namespace DatabaseSync.PostgresqlSink

open Checked Text
open MysqlSink (GtidServer listed listed_dropWhile listed_reverse_dropWhile)

variable {value left right set one : String} {A B : Set Gtid}

/-- The answers of the writer's own functions, as those of a server. -/
def ownGtids : GtidServer where
  subtractEmpty value := .ok (canonicalGtids value).toOption
  subset gtid set := .ok (do gtidContains set (← canonicalSingleGtid gtid)).toOption

/-- The transactions of a text that the writer can read. -/
def readSet (value : String) : Option (Set Gtid) :=
  (parseGtids value).toOption.map fun _ => textSet value

theorem readSet_eq_some :
    readSet value = some A ↔ (∃ map, parseGtids value = .ok map) ∧ A = textSet value := by
  unfold readSet
  cases parseGtids value with
  | error e => simp [Except.toOption]
  | ok map => simp [Except.toOption, eq_comm]

theorem readSet_of_parse {map : GtidMap} (h : parseGtids value = .ok map) :
    readSet value = some (textSet value) := readSet_eq_some.mpr ⟨⟨map, h⟩, rfl⟩

/-- Whether a text is read, and what it lists, is a matter of its groups. -/
theorem readSet_congr (h : groupTexts left = groupTexts right) : readSet left = readSet right := by
  have hparse : parseGtids left = parseGtids right := by
    unfold parseGtids
    rw [show (split left ',').filter (fun part => !part.isEmpty) = groupTexts left from rfl, h]
    rfl
  unfold readSet
  rw [hparse, textSet_eq, textSet_eq, h]

theorem groupTexts_eq_listed (value : String) :
    groupTexts value = (listed value.toList).map String.ofList := by
  unfold groupTexts split listed
  rw [List.filter_map]
  congr 1
  apply List.filter_congr
  intro part _
  rw [Bool.eq_iff_iff, Function.comp_apply, Bool.not_eq_true', Bool.eq_false_iff]
  simp

/-- Commas at the ends of a text separate no groups. -/
theorem groupTexts_trimMatches (value : String) :
    groupTexts (trimMatches value ',') = groupTexts value := by
  rw [groupTexts_eq_listed, groupTexts_eq_listed, trimMatches, String.toList_ofList,
    listed_reverse_dropWhile, List.reverse_reverse, listed_dropWhile]

theorem readSet_append (hleft : readSet left = some A) (hright : readSet right = some B) :
    readSet (left ++ "," ++ right) = some (A ∪ B) := by
  obtain ⟨⟨map, hparse⟩, rfl⟩ := readSet_eq_some.mp hleft
  obtain ⟨⟨map', hparse'⟩, rfl⟩ := readSet_eq_some.mp hright
  obtain ⟨entries, hentries, -⟩ := parseGtids_eq_ok.mp hparse
  obtain ⟨entries', hentries', -⟩ := parseGtids_eq_ok.mp hparse'
  rw [readSet_eq_some]
  constructor
  · refine ⟨_, parseGtids_eq_ok.mpr ⟨entries ++ entries', ?_, rfl⟩⟩
    rw [groupTexts_append]
    exact List.rel_append hentries hentries'
  · rw [textSet_eq, textSet_eq, textSet_eq, groupTexts_append]
    ext gtid
    simp only [List.mem_append, or_and_right, exists_or, Set.mem_union, Set.mem_ofPred_eq]

/-- A canonical text is read, and lists what the text it comes from lists. -/
theorem readSet_of_canonical (h : canonicalGtids value = .ok set) :
    readSet value = some (textSet value) ∧ readSet set = some (textSet value) := by
  obtain ⟨map, hparse, rfl⟩ := canonicalGtids_eq_ok.mp h
  obtain ⟨htext, hidem⟩ := canonical_text hparse
  obtain ⟨map', hparse', -⟩ := canonicalGtids_eq_ok.mp hidem
  exact ⟨readSet_of_parse hparse, htext ▸ readSet_of_parse hparse'⟩

/-- The canonical texts of one set are one text. -/
theorem canonicalGtids_eq {text : String} (h : canonicalGtids value = .ok text)
    (hset : readSet left = readSet value) : canonicalGtids left = .ok text := by
  obtain ⟨map, hparse, rfl⟩ := canonicalGtids_eq_ok.mp h
  rw [readSet_of_parse hparse] at hset
  obtain ⟨⟨map', hparse'⟩, htext⟩ := readSet_eq_some.mp hset
  rw [canonicalGtids_eq_ok]
  exact ⟨map', hparse', (renderGtids_eq_iff hparse hparse').mpr htext⟩

/-- A single transaction lists its canonical text and nothing else. -/
theorem canonicalGtids_of_single (h : canonicalSingleGtid value = .ok one) :
    canonicalGtids value = .ok one := by
  obtain ⟨key, n, hparse, rfl⟩ := canonicalSingleGtid_eq_ok.mp h
  exact canonicalGtids_eq_ok.mpr ⟨_, hparse, rfl⟩

theorem gtidContains_iff (hone : canonicalSingleGtid value = .ok one) {contained : Bool}
    (h : gtidContains set one = .ok contained) (hA : readSet value = some A)
    (hB : readSet set = some B) : contained = true ↔ A ⊆ B := by
  obtain ⟨⟨map, hparse⟩, rfl⟩ := readSet_eq_some.mp hB
  obtain ⟨gtid, answer, hsingle, hanswer, hmem⟩ := gtidContains_single hparse hone
  have hsame : textSet value = textSet one := by
    obtain ⟨hread, hread'⟩ := readSet_of_canonical (canonicalGtids_of_single hone)
    exact (readSet_eq_some.mp hread').2
  obtain ⟨-, rfl⟩ := readSet_eq_some.mp hA
  obtain rfl : answer = contained := Except.ok.inj (hanswer.symm.trans h)
  rw [hmem, hsame, hsingle, Set.singleton_subset_iff]

/-- A text with one range of one number lists one transaction. -/
theorem readSet_single {uuid : String} {tag : Option String} {n : ℕ}
    (h : parseGtids value = .ok [((uuid, tag), [(n, n)])]) :
    readSet value = some {⟨uuid, tag, n⟩} := by
  rw [readSet_of_parse h, ← denote_parseGtids h]
  congr 1
  ext gtid
  simp only [GtidMap.denote, rangeSet, List.mem_singleton, exists_eq_left, Set.mem_ofPred_eq,
    Set.mem_singleton_iff]
  constructor
  · rintro ⟨hkey, hlow, hhigh⟩
    obtain ⟨rfl, rfl⟩ := Prod.mk.inj hkey
    exact Gtid.mk.injEq .. ▸ ⟨rfl, rfl, le_antisymm hhigh hlow⟩
  · rintro rfl
    exact ⟨rfl, le_rfl, le_rfl⟩

/-- The writer's functions answer as set arithmetic does. -/
theorem ownGtids_lawful : ownGtids.Lawful readSet where
  canonical value set h := by
    have hset : canonicalGtids value = .ok set := toOption_eq_some.mp (Except.ok.inj h)
    exact ⟨_, readSet_of_canonical hset⟩
  subset gtid set contained A B h hA hB := by
    have hcontains := toOption_eq_some.mp (Except.ok.inj h)
    obtain ⟨one, hone, hcontained⟩ := bind_eq_ok.mp hcontains
    exact gtidContains_iff hone hcontained hA hB
  empty := by
    have hparse : parseGtids "" = .ok [] := rfl
    rw [readSet_of_parse hparse, textSet_eq]
    have hnone : groupTexts "" = [] := rfl
    simp [hnone]
  join left right A B hleft hright := readSet_append hleft hright
  trim value := readSet_congr (groupTexts_trimMatches value)

/-! ## Merging -/

/-- Both sides of a merge are read, and the result is canonical. -/
theorem mergeGtids_canonical {left : Option String}
    (h : mergeGtids left right = .ok set) : ∃ A B, readSet (left.getD "") = some A ∧
      readSet right = some B ∧ readSet set = some (A ∪ B) ∧ canonicalGtids set = .ok set := by
  obtain ⟨map, hparse, rfl⟩ := canonicalGtids_eq_ok.mp h
  obtain ⟨entries, hentries, -⟩ := parseGtids_eq_ok.mp hparse
  rw [groupTexts_join] at hentries
  obtain ⟨first, second, hfirst, hsecond, -⟩ := forall₂_append_left hentries
  have hleft := parseGtids_eq_ok.mpr ⟨first, hfirst, rfl⟩
  have hright := parseGtids_eq_ok.mpr ⟨second, hsecond, rfl⟩
  refine ⟨_, _, readSet_of_parse hleft, readSet_of_parse hright, ?_, (canonical_text hparse).2⟩
  obtain ⟨-, hread⟩ := readSet_of_canonical h
  rw [hread, textSet_eq, groupTexts_join, textSet_eq, textSet_eq]
  congr 1
  ext gtid
  simp only [List.mem_append, or_and_right, exists_or, Set.mem_union, Set.mem_ofPred_eq]

/-- The canonical text of any text that lists the transactions of the merged ones. -/
theorem mergeGtids_eq {left : Option String} (h : mergeGtids left right = .ok set)
    (hA : readSet (left.getD "") = some A) (hB : readSet right = some B)
    (hvalue : readSet value = some (A ∪ B)) : canonicalGtids value = .ok set := by
  obtain ⟨A', B', hA', hB', hset, hidem⟩ := mergeGtids_canonical h
  obtain rfl : A = A' := Option.some.inj (hA.symm.trans hA')
  obtain rfl : B = B' := Option.some.inj (hB.symm.trans hB')
  exact canonicalGtids_eq hidem (hvalue.trans hset.symm)

end DatabaseSync.PostgresqlSink
