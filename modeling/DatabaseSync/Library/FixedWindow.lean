import Mathlib.Algebra.Order.Group.Int
import Mathlib.Data.List.Basic

/-! # Fixed-window counters

A counter admits at most a number of events in a window, which opens with its first event and is
forgotten when it is older than its width. Two windows can meet, so an interval as long as the
width may see the events of two of them, and never of a third.
-/

namespace DatabaseSync.FixedWindow

/-- An open window with its number of events. -/
structure Window where
  start : ℤ
  count : ℕ
deriving DecidableEq, Repr

/-- Forget a window that is older than its width. -/
def expire (width now : ℤ) (window : Option Window) : Option Window :=
  window.filter fun w => now - width ≤ w.start

/-- The window after one more event, if it is admitted. -/
def allow (limit : ℕ) (now : ℤ) (window : Option Window) : Option Window :=
  match window with
  | none => if 0 < limit then some ⟨now, 1⟩ else none
  | some w => if w.count < limit then some ⟨w.start, w.count + 1⟩ else none

variable {limit : ℕ} {width now now' : ℤ} {window window' : Option Window} {w : Window}
  {events : List ℤ}

/-- The number of events in a closed interval. -/
def countIn (events : List ℤ) (first last : ℤ) : ℕ :=
  events.countP fun t => decide (first ≤ t ∧ t ≤ last)

theorem countIn_cons (t first last : ℤ) : countIn (t :: events) first last =
    countIn events first last + if first ≤ t ∧ t ≤ last then 1 else 0 := by
  simp [countIn, List.countP_cons]

theorem countIn_mono {first first' last last' : ℤ} (hfirst : first' ≤ first)
    (hlast : last ≤ last') :
    countIn events first last ≤ countIn events first' last' := by
  apply List.countP_mono_left
  intro t _ ht
  rw [decide_eq_true_eq] at ht ⊢
  exact ⟨hfirst.trans ht.1, ht.2.trans hlast⟩

/-- An interval is counted in two parts. -/
theorem countIn_le_add (first middle last : ℤ) :
    countIn events first last ≤ countIn events first (middle - 1) + countIn events middle last := by
  induction events with
  | nil => exact le_rfl
  | cons t events ih =>
    rw [countIn_cons, countIn_cons, countIn_cons]
    have hpart : (if first ≤ t ∧ t ≤ last then 1 else 0) ≤
        (if first ≤ t ∧ t ≤ middle - 1 then 1 else 0) + if middle ≤ t ∧ t ≤ last then 1 else 0 := by
      split_ifs <;> omega
    omega

theorem countIn_eq_zero {first last : ℤ} (h : ∀ t ∈ events, t < first ∨ last < t) :
    countIn events first last = 0 := by
  rw [countIn, List.countP_eq_zero]
  intro t ht hin
  rw [decide_eq_true_eq] at hin
  rcases h t ht with hlt | hlt <;> omega

/-- Nothing is counted after the last event. -/
theorem countIn_last {first middle last : ℤ} (h : ∀ t ∈ events, t ≤ middle) :
    countIn events first last ≤ countIn events first middle := by
  apply List.countP_mono_left
  intro t ht hin
  rw [decide_eq_true_eq] at hin ⊢
  exact ⟨hin.1, h t ht⟩

/-- What a counter has admitted up to `now`. The open window has seen the last events; in the
width before it there are at most the events of one window, and so there are before `now` when
none is open. -/
structure Counted (limit : ℕ) (width : ℤ) (window : Option Window) (events : List ℤ) (now : ℤ) :
    Prop where
  past : ∀ t ∈ events, t ≤ now
  start : ∀ w ∈ window, w.start ≤ now ∧ ∀ t ∈ events, t ≤ w.start + width
  count : ∀ w ∈ window, countIn events w.start (w.start + width) = w.count ∧ w.count ≤ limit
  before : ∀ w ∈ window, countIn events (w.start - width) (w.start - 1) ≤ limit
  closed : window = none → (∀ t ∈ events, t < now) ∧ countIn events (now - width) now ≤ limit
  interval : ∀ first, countIn events first (first + width) ≤ 2 * limit

namespace Counted

theorem nil (now : ℤ) : Counted limit width none [] now where
  past := nofun
  start := nofun
  count := nofun
  before := nofun
  closed _ := ⟨nofun, Nat.zero_le _⟩
  interval _ := Nat.zero_le _

theorem wait (h : Counted limit width window events now) (hle : now ≤ now') :
    Counted limit width window events now' where
  past t ht := (h.past t ht).trans hle
  start w hw := ⟨(h.start w hw).1.trans hle, (h.start w hw).2⟩
  count := h.count
  before := h.before
  closed hnone := by
    obtain ⟨hpast, hcount⟩ := h.closed hnone
    refine ⟨fun t ht => (hpast t ht).trans_le hle, ?_⟩
    calc countIn events (now' - width) now'
      _ ≤ countIn events (now' - width) now := countIn_last fun t ht => (hpast t ht).le
      _ ≤ countIn events (now - width) now := countIn_mono (by omega) le_rfl
      _ ≤ limit := hcount
  interval := h.interval

theorem expire (h : Counted limit width window events now) :
    Counted limit width (expire width now window) events now := by
  have hkeep : ∀ w ∈ FixedWindow.expire width now window, w ∈ window := by
    intro w hw
    exact (Option.mem_filter_iff.mp hw).1
  refine ⟨h.past, fun w hw => h.start w (hkeep w hw), fun w hw => h.count w (hkeep w hw),
    fun w hw => h.before w (hkeep w hw), fun hnone => ?_, h.interval⟩
  cases window with
  | none => exact h.closed rfl
  | some w =>
    have hold : w.start < now - width := by
      by_contra hnew
      rw [FixedWindow.expire, Option.filter_some, if_pos (by simpa using hnew)] at hnone
      cases hnone
    obtain ⟨-, hend⟩ := h.start w rfl
    obtain ⟨hcount, hlimit⟩ := h.count w rfl
    refine ⟨fun t ht => (hend t ht).trans_lt (by omega), ?_⟩
    calc countIn events (now - width) now
      _ ≤ countIn events (now - width) (w.start + width) := countIn_last hend
      _ ≤ countIn events w.start (w.start + width) := countIn_mono hold.le le_rfl
      _ = w.count := hcount
      _ ≤ limit := hlimit

/-- An event that opens a window comes after all others. -/
theorem admit_first (h : Counted limit width none events now) (hwidth : 0 ≤ width)
    (hlimit : 0 < limit) : Counted limit width (some ⟨now, 1⟩) (now :: events) now := by
  obtain ⟨hpast, hcount⟩ := h.closed rfl
  have hnone : ∀ last, countIn events now last = 0 :=
    fun last => countIn_eq_zero fun t ht => .inl (hpast t ht)
  refine ⟨?_, ?_, ?_, ?_, nofun, ?_⟩
  · rintro t (_ | ⟨_, ht⟩)
    · exact le_rfl
    · exact (hpast t ht).le
  · rintro w ⟨⟩
    dsimp only
    refine ⟨le_rfl, ?_⟩
    rintro t (_ | ⟨_, ht⟩)
    · omega
    · exact (hpast t ht).le.trans (by omega)
  · rintro w ⟨⟩
    dsimp only
    rw [countIn_cons, hnone, if_pos ⟨le_rfl, by omega⟩]
    exact ⟨rfl, hlimit⟩
  · rintro w ⟨⟩
    dsimp only
    rw [countIn_cons, if_neg (by omega), Nat.add_zero]
    exact (countIn_mono le_rfl (by omega)).trans hcount
  · intro first
    rw [countIn_cons]
    split
    · next hin =>
      have hbefore : countIn events first (first + width) ≤ limit :=
        calc countIn events first (first + width)
          _ ≤ countIn events first now := countIn_last fun t ht => (hpast t ht).le
          _ ≤ countIn events (now - width) now := countIn_mono (by omega) le_rfl
          _ ≤ limit := hcount
      omega
    · exact h.interval first

/-- An event in the open window. An interval with this event in it reaches back no further than
the width before the window. -/
theorem admit_next {v : Window} (h : Counted limit width (some v) events now)
    (hopen : now - width ≤ v.start) (hlimit : v.count < limit) :
    Counted limit width (some ⟨v.start, v.count + 1⟩) (now :: events) now := by
  obtain ⟨hstart, hend⟩ := h.start v rfl
  obtain ⟨hcount, -⟩ := h.count v rfl
  have hbefore := h.before v rfl
  refine ⟨?_, ?_, ?_, ?_, nofun, ?_⟩
  · rintro t (_ | ⟨_, ht⟩)
    · exact le_rfl
    · exact h.past t ht
  · rintro w ⟨⟩
    dsimp only
    refine ⟨hstart, ?_⟩
    rintro t (_ | ⟨_, ht⟩)
    · omega
    · exact hend t ht
  · rintro w ⟨⟩
    dsimp only
    rw [countIn_cons, hcount, if_pos ⟨hstart, by omega⟩]
    exact ⟨rfl, hlimit⟩
  · rintro w ⟨⟩
    dsimp only
    rw [countIn_cons, if_neg (by omega)]
    exact hbefore
  · intro first
    rw [countIn_cons]
    split
    · next hin =>
      have hparts : countIn events first (first + width) ≤ limit + v.count :=
        calc countIn events first (first + width)
          _ ≤ countIn events first (v.start - 1) + countIn events v.start (first + width) :=
            countIn_le_add _ _ _
          _ ≤ countIn events (v.start - width) (v.start - 1) +
              countIn events v.start (v.start + width) :=
            Nat.add_le_add (countIn_mono (by omega) le_rfl)
              ((countIn_last hend).trans (countIn_mono le_rfl le_rfl))
          _ ≤ limit + v.count := Nat.add_le_add hbefore hcount.le
      omega
    · exact h.interval first

/-- One more event, if the counter admits it after it has forgotten an old window. -/
theorem allow (h : Counted limit width window events now) (hwidth : 0 ≤ width)
    (hallow : FixedWindow.allow limit now (FixedWindow.expire width now window) = some w) :
    Counted limit width (some w) (now :: events) now := by
  have hexpired := h.expire
  cases hwindow : FixedWindow.expire width now window with
  | none =>
    rw [hwindow] at hallow hexpired
    obtain ⟨hlimit, ⟨⟩⟩ := Option.ite_none_right_eq_some.mp hallow
    exact hexpired.admit_first hwidth hlimit
  | some v =>
    rw [hwindow] at hallow hexpired
    obtain ⟨hlimit, ⟨⟩⟩ := Option.ite_none_right_eq_some.mp hallow
    have hopen := (Option.mem_filter_iff.mp hwindow).2
    exact hexpired.admit_next (by simpa using hopen) hlimit

end Counted

end DatabaseSync.FixedWindow
