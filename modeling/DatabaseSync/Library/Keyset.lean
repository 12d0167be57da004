import Mathlib.Data.List.Sort
import Mathlib.Data.Nat.Notation

/-! # Keyset pagination

The rows of a relation are read in the order of their keys, a page of at most `limit` rows at a
time: the first rows that come after the last row of the page before. A page that is not full is
the last one. Whether a row comes after another is found by comparing images of the rows, which
need not follow their keys.
-/

namespace DatabaseSync.Keyset

variable {ρ κ ι : Type} [LinearOrder κ] [LinearOrder ι] (key : ρ → κ) (image : ρ → ι)

/-- The rows in the order of their keys. -/
def sortByKey (rows : List ρ) : List ρ := rows.insertionSort fun a b => key a ≤ key b

/-- Whether a row comes after the last one, if there is one. -/
def isAfter (last : Option ρ) (row : ρ) : Bool :=
  last.all fun prior => decide (image prior < image row)

/-- A page: filtered first, then ordered and cut off. -/
def page (limit : ℕ) (last : Option ρ) (rows : List ρ) : List ρ :=
  (sortByKey key (rows.filter (isAfter image last))).take limit

/-- The pages after a row, up to the first one that is not full. -/
inductive Pages (limit : ℕ) (rows : List ρ) : Option ρ → List (List ρ) → Prop
  | short {last : Option ρ} (hshort : (page key image limit last rows).length < limit) :
      Pages limit rows last [page key image limit last rows]
  | full {last : Option ρ} {next : ρ} {pages : List (List ρ)}
      (hfull : limit ≤ (page key image limit last rows).length)
      (hnext : (page key image limit last rows).getLast? = some next)
      (hpages : Pages limit rows (some next) pages) :
      Pages limit rows last (page key image limit last rows :: pages)

/-- After this row, the images select the rows that follow in the order of the keys. -/
def FollowsAfter (rows : List ρ) (last : ρ) : Prop :=
  ∀ row ∈ rows, image last < image row ↔ key last < key row

variable {key image} {rows before after : List ρ} {pages : List (List ρ)} {limit : ℕ}
  {last : Option ρ}

@[simp]
theorem isAfter_none (row : ρ) : isAfter image none row = true := rfl

theorem isAfter_some {prior row : ρ} :
    isAfter image (some prior) row = true ↔ image prior < image row := by
  simp [isAfter]

theorem sortByKey_perm (rows : List ρ) : (sortByKey key rows).Perm rows :=
  List.perm_insertionSort _ rows

theorem sortByKey_pairwise (rows : List ρ) :
    (sortByKey key rows).Pairwise fun a b => key a ≤ key b := by
  have : Std.Total fun a b : ρ => key a ≤ key b := ⟨fun a b => le_total (key a) (key b)⟩
  have : IsTrans ρ fun a b => key a ≤ key b := ⟨fun _ _ _ hab hbc => le_trans hab hbc⟩
  exact List.pairwise_insertionSort _ rows

theorem nodup_sortByKey (hkeys : (rows.map key).Nodup) : ((sortByKey key rows).map key).Nodup :=
  ((sortByKey_perm rows).map key).nodup_iff.mpr hkeys

/-- Rows with distinct keys are strictly ordered. -/
theorem sortByKey_strict (hkeys : (rows.map key).Nodup) :
    (sortByKey key rows).Pairwise fun a b => key a < key b := by
  have hne : (sortByKey key rows).Pairwise fun a b => key a ≠ key b :=
    List.pairwise_map.mp (nodup_sortByKey hkeys)
  refine ((sortByKey_pairwise rows).and hne).imp ?_
  rintro a b ⟨hle, hne⟩
  exact lt_of_le_of_ne hle hne

/-- Filtering and ordering commute. -/
theorem sortByKey_filter (hkeys : (rows.map key).Nodup) (p : ρ → Bool) :
    sortByKey key (rows.filter p) = (sortByKey key rows).filter p := by
  have hstrict := sortByKey_strict hkeys
  have hfiltered : ((rows.filter p).map key).Nodup := hkeys.sublist (List.filter_sublist.map key)
  have hperm : (sortByKey key (rows.filter p)).Perm ((sortByKey key rows).filter p) :=
    (sortByKey_perm _).trans ((sortByKey_perm rows).filter p).symm
  refine hperm.eq_of_pairwise ?_ (sortByKey_strict hfiltered) (hstrict.filter p)
  intro a b _ _ hab hba
  exact absurd hba (lt_asymm hab)

theorem page_sublist (hkeys : (rows.map key).Nodup) :
    (page key image limit last rows).Sublist (sortByKey key rows) := by
  rw [page, sortByKey_filter hkeys]
  exact (List.take_sublist _ _).trans List.filter_sublist

theorem mem_page {row : ρ} (h : row ∈ page key image limit last rows) :
    row ∈ rows ∧ isAfter image last row = true :=
  List.mem_filter.mp ((sortByKey_perm _).mem_iff.mp (List.mem_of_mem_take h))

/-- Past a part of the ordered rows that ends with the last row, the rest is left. -/
theorem filter_isAfter (hsorted : (before ++ after).Pairwise fun a b => key a < key b) :
    (before ++ after).filter (isAfter key before.getLast?) = after := by
  obtain ⟨hbefore, -, hacross⟩ := List.pairwise_append.mp hsorted
  rw [List.filter_append]
  have hafter : after.filter (isAfter key before.getLast?) = after := by
    refine List.filter_eq_self.mpr ?_
    intro row hrow
    cases hgetLast : before.getLast? with
    | none => rfl
    | some prior =>
      rw [isAfter_some]
      exact hacross prior (List.mem_of_getLast? hgetLast) row hrow
  have hnone : before.filter (isAfter key before.getLast?) = [] := by
    refine List.filter_eq_nil_iff.mpr ?_
    intro row hrow
    rcases List.eq_nil_or_concat before with rfl | ⟨init, prior, rfl⟩
    · cases hrow
    · have hle : key row ≤ key prior := by
        rw [List.concat_eq_append] at hbefore hrow
        rcases List.mem_append.mp hrow with hinit | heq
        · obtain ⟨-, -, h⟩ := List.pairwise_append.mp hbefore
          exact le_of_lt (h row hinit prior (List.mem_singleton.mpr rfl))
        · rw [List.mem_singleton.mp heq]
      simpa [isAfter] using hle
  rw [hnone, hafter, List.nil_append]

/-- Where the images follow the keys, the next page is the head of what is left. -/
theorem page_of_split (hkeys : (rows.map key).Nodup)
    (hsplit : sortByKey key rows = before ++ after)
    (hfollows : ∀ prior ∈ before.getLast?, FollowsAfter key image rows prior) :
    page key image limit before.getLast? rows = after.take limit := by
  have hstrict := sortByKey_strict hkeys
  rw [hsplit] at hstrict
  have hselected : rows.filter (isAfter image before.getLast?) =
      rows.filter (isAfter key before.getLast?) := by
    apply List.filter_congr
    intro row hrow
    cases hlast : before.getLast? with
    | none => rfl
    | some prior =>
      rw [Bool.eq_iff_iff, isAfter_some, isAfter_some]
      exact hfollows prior hlast row hrow
  rw [page, hselected, sortByKey_filter hkeys, hsplit, filter_isAfter hstrict]

/-! ## All pages -/

/-- The pages come to an end, since their last rows have ascending images. -/
theorem exists_pages (hlimit : 0 < limit) (rows : List ρ) (last : Option ρ) :
    ∃ pages, Pages key image limit rows last pages := by
  induction hn : (rows.filter (isAfter image last)).length using Nat.strong_induction_on
    generalizing last with
  | _ n ih =>
    by_cases hshort : (page key image limit last rows).length < limit
    · exact ⟨_, .short hshort⟩
    · have hne : page key image limit last rows ≠ [] := by
        intro hnil
        rw [hnil] at hshort
        exact hshort hlimit
      have hnext := List.getLast?_eq_some_getLast hne
      generalize (page key image limit last rows).getLast hne = next at hnext
      obtain ⟨hmem, hafter⟩ := mem_page (List.mem_of_getLast? hnext)
      have hfewer : rows.filter (isAfter image (some next)) =
          (rows.filter (isAfter image last)).filter (isAfter image (some next)) := by
        rw [List.filter_filter]
        apply List.filter_congr
        intro row _
        cases last with
        | none => simp
        | some prior =>
          rw [Bool.eq_iff_iff, Bool.and_eq_true, isAfter_some, isAfter_some]
          rw [isAfter_some] at hafter
          exact ⟨fun h => ⟨h, hafter.trans h⟩, And.left⟩
      have hless : (rows.filter (isAfter image (some next))).length < n := by
        rw [hfewer, ← hn]
        refine List.length_filter_lt_length_iff_exists.mpr ⟨next, ?_, ?_⟩
        · exact List.mem_filter.mpr ⟨hmem, hafter⟩
        · simp [isAfter]
      obtain ⟨pages, hpages⟩ := ih _ hless (some next) rfl
      exact ⟨_, .full (not_lt.mp hshort) hnext hpages⟩

theorem Pages.mem (h : Pages key image limit rows last pages) {row : ρ}
    (hrow : row ∈ pages.flatten) : row ∈ rows ∧ isAfter image last row = true := by
  induction h with
  | short hshort =>
    rw [List.flatten_singleton] at hrow
    exact mem_page hrow
  | @full last next pages hfull hnext _ ih =>
    rw [List.flatten_cons] at hrow
    rcases List.mem_append.mp hrow with hpage | hlater
    · exact mem_page hpage
    · obtain ⟨hmem, hlt⟩ := ih hlater
      refine ⟨hmem, ?_⟩
      have hafter := (mem_page (List.mem_of_getLast? hnext)).2
      cases last with
      | none => rfl
      | some prior =>
        rw [isAfter_some] at hafter hlt ⊢
        exact hafter.trans hlt

/-- The pages begin with the least of the rows that are selected. -/
theorem Pages.exists_le (hlimit : 0 < limit) (h : Pages key image limit rows last pages) {row : ρ}
    (hrow : row ∈ rows) (hafter : isAfter image last row = true) :
    ∃ first ∈ pages.flatten, key first ≤ key row := by
  have hmem : row ∈ sortByKey key (rows.filter (isAfter image last)) :=
    (sortByKey_perm _).mem_iff.mpr (List.mem_filter.mpr ⟨hrow, hafter⟩)
  have hsorted : (sortByKey key (rows.filter (isAfter image last))).Pairwise
      fun a b => key a ≤ key b := sortByKey_pairwise _
  obtain ⟨first, rest, hfirst⟩ := List.exists_cons_of_ne_nil (List.ne_nil_of_mem hmem)
  have hpage : first ∈ page key image limit last rows := by
    rw [page, hfirst]
    obtain ⟨n, rfl⟩ := Nat.exists_eq_add_one_of_ne_zero hlimit.ne'
    exact List.mem_cons_self
  rw [hfirst] at hmem hsorted
  refine ⟨first, ?_, ?_⟩
  · cases h with
    | short hshort => exact List.mem_flatten_of_mem List.mem_cons_self hpage
    | full hfull hnext hpages => exact List.mem_flatten_of_mem List.mem_cons_self hpage
  · rcases List.mem_cons.mp hmem with rfl | hrest
    · exact le_rfl
    · exact (List.pairwise_cons.mp hsorted).1 row hrest

/-- At the end of every full page, the images select the rows that follow. -/
def CursorFollows (key : ρ → κ) (image : ρ → ι) (limit : ℕ) (rows : List ρ) : Prop :=
  ∀ n last, (sortByKey key rows)[n * limit + (limit - 1)]? = some last →
    FollowsAfter key image rows last

section Boundary

variable {k : ℕ}

/-- A full page ends at the next boundary. -/
theorem getLast?_eq_boundary (hlimit : 0 < limit) (hsplit : sortByKey key rows = before ++ after)
    (hbefore : before.length = k * limit) {prior : ρ} (hlast : before.getLast? = some prior) :
    ∃ n, k = n + 1 ∧ (sortByKey key rows)[n * limit + (limit - 1)]? = some prior := by
  have hne : before ≠ [] := by
    rintro rfl
    cases hlast
  have hpos : 0 < k * limit := hbefore ▸ List.length_pos_iff.mpr hne
  obtain ⟨n, rfl⟩ := Nat.exists_eq_add_one_of_ne_zero (Nat.pos_of_mul_pos_right hpos).ne'
  refine ⟨n, rfl, ?_⟩
  have hindex : n * limit + (limit - 1) = before.length - 1 := by
    rw [hbefore, Nat.succ_mul]
    omega
  rw [hindex, hsplit, List.getElem?_append_left (by omega), ← List.getLast?_eq_getElem?, hlast]

/-- Where the images follow the keys at the boundaries, a page is the head of what is left. -/
theorem page_eq_take (hlimit : 0 < limit) (hkeys : (rows.map key).Nodup)
    (hfollows : CursorFollows key image limit rows)
    (hsplit : sortByKey key rows = before ++ after) (hbefore : before.length = k * limit) :
    page key image limit before.getLast? rows = after.take limit := by
  apply page_of_split hkeys hsplit
  intro prior hprior
  obtain ⟨n, -, hn⟩ := getLast?_eq_boundary hlimit hsplit hbefore hprior
  exact hfollows n prior hn

/-- Where the images follow the keys at the boundaries, the pages are what is left. -/
theorem Pages.flatten_eq (hlimit : 0 < limit) (hkeys : (rows.map key).Nodup)
    (hfollows : CursorFollows key image limit rows)
    (hsplit : sortByKey key rows = before ++ after) (hbefore : before.length = k * limit)
    (h : Pages key image limit rows before.getLast? pages) : pages.flatten = after := by
  generalize hlast : before.getLast? = last at h
  induction h generalizing before after k with
  | @short last hshort =>
    subst hlast
    have hpage := page_eq_take hlimit hkeys hfollows hsplit hbefore
    rw [List.flatten_singleton]
    rw [hpage] at hshort ⊢
    exact List.take_of_length_le (by rw [List.length_take] at hshort; omega)
  | @full last next pages hfull hnext _ ih =>
    subst hlast
    have hpage := page_eq_take hlimit hkeys hfollows hsplit hbefore
    rw [hpage] at hfull hnext
    have hlength : (before ++ after.take limit).length = (k + 1) * limit := by
      rw [List.length_append, hbefore, Nat.succ_mul]
      rw [List.length_take] at hfull ⊢
      omega
    have hrest := @ih (before ++ after.take limit) (after.drop limit) (k + 1)
      (by rw [List.append_assoc, List.take_append_drop, hsplit]) hlength
      (by rw [List.getLast?_append, hnext]; rfl)
    rw [List.flatten_cons, hrest, hpage, List.take_append_drop]

/-- Pages that are what is left show that the images follow the keys after the row before. -/
theorem Pages.followsAfter (hlimit : 0 < limit) (hkeys : (rows.map key).Nodup) {prior : ρ}
    (hlast : before.getLast? = some prior) (h : Pages key image limit rows (some prior) pages)
    (hsplit : sortByKey key rows = before ++ pages.flatten) :
    FollowsAfter key image rows prior := by
  have hstrict := sortByKey_strict hkeys
  rw [hsplit] at hstrict
  obtain ⟨hsorted, -, hacross⟩ := List.pairwise_append.mp hstrict
  have hprior : prior ∈ before := List.mem_of_getLast? hlast
  intro row hrow
  have hmem : row ∈ before ++ pages.flatten := by
    rw [← hsplit]
    exact (sortByKey_perm rows).mem_iff.mpr hrow
  rcases List.mem_append.mp hmem with hearlier | hlater
  · -- a row before is not selected, or the first row that is left would not come after it
    have hle : key row ≤ key prior := by
      obtain ⟨init, rfl⟩ := List.getLast?_eq_some_iff.mp hlast
      obtain ⟨-, -, hinit⟩ := List.pairwise_append.mp hsorted
      rcases List.mem_append.mp hearlier with hmem | hmem
      · exact (hinit row hmem prior List.mem_cons_self).le
      · rw [List.mem_singleton.mp hmem]
    constructor
    · intro hlt
      obtain ⟨first, hfirst, hfirstle⟩ := h.exists_le hlimit hrow (isAfter_some.mpr hlt)
      exact absurd (hfirstle.trans hle) (hacross prior hprior first hfirst).not_ge
    · intro hlt
      exact absurd hle hlt.not_ge
  · constructor
    · intro _
      exact hacross prior hprior row hlater
    · intro _
      exact isAfter_some.mp (h.mem hlater).2

theorem Pages.followsBoundary (hlimit : 0 < limit) (hkeys : (rows.map key).Nodup) {n : ℕ}
    (hbefore : before.length = (n + 1) * limit)
    (h : Pages key image limit rows before.getLast? pages)
    (hsplit : sortByKey key rows = before ++ pages.flatten) {row : ρ}
    (hrow : (sortByKey key rows)[n * limit + (limit - 1)]? = some row) :
    FollowsAfter key image rows row := by
  have hindex : n * limit + (limit - 1) = before.length - 1 := by
    rw [hbefore, Nat.succ_mul]
    omega
  have hpos : 0 < before.length := by
    rw [hbefore]
    exact Nat.mul_pos n.succ_pos hlimit
  rw [hindex, hsplit, List.getElem?_append_left (by omega), ← List.getLast?_eq_getElem?] at hrow
  rw [hrow] at h
  exact h.followsAfter hlimit hkeys hrow hsplit

/-- Pages that are what is left show that the images follow the keys at the later boundaries. -/
theorem Pages.follows (hlimit : 0 < limit) (hkeys : (rows.map key).Nodup)
    (hbefore : before.length = k * limit) (hlast : last = before.getLast?)
    (h : Pages key image limit rows last pages)
    (hsplit : sortByKey key rows = before ++ pages.flatten) {n : ℕ} (hn : k ≤ n + 1) {row : ρ}
    (hrow : (sortByKey key rows)[n * limit + (limit - 1)]? = some row) :
    FollowsAfter key image rows row := by
  induction h generalizing before k with
  | short hshort =>
    rcases Nat.eq_or_lt_of_le hn with rfl | hlater
    · subst hlast
      exact Pages.followsBoundary hlimit hkeys hbefore (.short hshort) hsplit hrow
    · have hle : k * limit ≤ n * limit := Nat.mul_le_mul_right limit (Nat.lt_succ_iff.mp hlater)
      have hindex : n * limit + (limit - 1) < (sortByKey key rows).length :=
        (List.getElem?_eq_some_iff.mp hrow).1
      rw [hsplit, List.length_append, hbefore, List.flatten_singleton] at hindex
      omega
  | @full last next pages hfull hnext hpages ih =>
    rcases Nat.eq_or_lt_of_le hn with rfl | hlater
    · subst hlast
      exact Pages.followsBoundary hlimit hkeys hbefore (.full hfull hnext hpages) hsplit hrow
    · have hlength : (before ++ page key image limit last rows).length = (k + 1) * limit := by
        have hpage : (page key image limit last rows).length ≤ limit := List.length_take_le _ _
        rw [List.length_append, hbefore, Nat.succ_mul]
        omega
      refine ih hlength ?_ ?_ hlater
      · rw [List.getLast?_append, hnext]
        rfl
      · rw [List.append_assoc, hsplit, List.flatten_cons]

end Boundary

/-- The pages are all rows in the order of their keys exactly if the images follow the keys at the
end of every full page. -/
theorem Pages.flatten_eq_iff (hlimit : 0 < limit) (hkeys : (rows.map key).Nodup)
    (h : Pages key image limit rows none pages) :
    pages.flatten = sortByKey key rows ↔ CursorFollows key image limit rows := by
  have hstart : ([] : List ρ).length = 0 * limit := (Nat.zero_mul limit).symm
  constructor
  · intro hall n row hrow
    exact Pages.follows hlimit hkeys hstart rfl h hall.symm (Nat.zero_le _) hrow
  · intro hfollows
    exact Pages.flatten_eq hlimit hkeys hfollows rfl hstart h

end DatabaseSync.Keyset
