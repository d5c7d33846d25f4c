import Mathlib

/-!
# Clocks on a wall

A wall clock is set forward and back now and then. Between two settings it runs with time;
it is set only at a full hour, by at most an hour, and long after the last setting. The hour
such a clock shows never goes back, so it reaches each hour once.
-/

set_option autoImplicit false

namespace WallClock

/-- The clock is set at an instant where it does not show one more than just before. -/
def Jumps (reading : Int → Int) (instant : Int) : Prop :=
  reading instant ≠ reading (instant - 1) + 1

/-- The full hour is read before or after the setting. -/
structure Regular (hour apart : Int) (reading : Int → Int) : Prop where
  hour_pos : 0 < hour
  two_hours : 2 * hour ≤ apart
  whole : ∀ instant, Jumps reading instant →
    hour ∣ reading (instant - 1) + 1 ∨ hour ∣ reading instant
  small : ∀ instant, Jumps reading instant →
    reading (instant - 1) + 1 - hour ≤ reading instant ∧
      reading instant ≤ reading (instant - 1) + 1 + hour
  far : ∀ first second, Jumps reading first → Jumps reading second → first < second →
    first + apart ≤ second

/-- From `point` on the clock shows `shown` or more, and less before. -/
def ReachedAt (reading : Int → Int) (shown point : Int) : Prop :=
  ∀ instant, shown ≤ reading instant ↔ point ≤ instant

theorem next_multiple {hour first second : Int} (left : hour ∣ first) (right : hour ∣ second)
    (less : first < second) : first + hour ≤ second := by
  have positive : 0 < second - first := by omega
  have least := Int.le_of_dvd positive (Int.dvd_sub right left)
  omega

theorem runs {reading : Int → Int} {first last : Int} (order : first ≤ last)
    (steady : ∀ instant, first < instant → instant ≤ last → ¬Jumps reading instant) :
    reading last = reading first + (last - first) := by
  induction last, order using Int.leInduction with
  | base => omega
  | succ last order induction =>
      have before := induction fun instant after within => steady instant after (by omega)
      have next := not_not.mp (steady (last + 1) (by omega) le_rfl)
      rw [add_sub_cancel_right] at next
      omega

namespace Regular

variable {hour apart : Int} {reading : Int → Int} (regular : Regular hour apart reading)
include regular

theorem le_next {shown instant : Int} (full : hour ∣ shown)
    (reached : shown ≤ reading (instant - 1)) : shown ≤ reading instant := by
  by_cases jump : Jumps reading instant
  · have least := (regular.small instant jump).1
    rcases regular.whole instant jump with old | new
    · have above := next_multiple full old (by omega)
      omega
    · by_contra below
      have above := next_multiple new full (by omega)
      omega
  · have next := not_not.mp jump
    omega

theorem le_later {shown first last : Int} (full : hour ∣ shown)
    (reached : shown ≤ reading first) (order : first ≤ last) : shown ≤ reading last := by
  induction last, order using Int.leInduction with
  | base => exact reached
  | succ last order induction =>
      apply regular.le_next full
      rwa [add_sub_cancel_right]

theorem steady_near {point : Int} (jump : Jumps reading point) (first last : Int)
    (after : point ≤ first + apart) (before : last < point + apart) :
    ∀ instant, first < instant → instant ≤ last → instant ≠ point → ¬Jumps reading instant := by
  intro instant later within other also
  rcases lt_or_gt_of_ne other with less | more
  · have gap := regular.far instant point also jump less
    omega
  · have gap := regular.far point instant jump also more
    omega

theorem advances (instant : Int) :
    reading instant + apart - hour ≤ reading (instant + apart) := by
  have hours := regular.two_hours
  have positive := regular.hour_pos
  by_cases quiet : ∀ point, instant < point → point ≤ instant + apart → ¬Jumps reading point
  · have whole := runs (by omega) quiet
    omega
  · push Not at quiet
    rcases quiet with ⟨point, after, within, jump⟩
    have near := regular.steady_near jump instant (instant + apart) (by omega) (by omega)
    have before : reading (point - 1) = reading instant + (point - 1 - instant) := by
      apply runs (by omega)
      intro other later earlier
      exact near other later (by omega) (by omega)
    have rest : reading (instant + apart) = reading point + (instant + apart - point) := by
      apply runs within
      intro other later earlier
      exact near other (by omega) earlier (by omega)
    have least := (regular.small point jump).1
    omega

theorem climbs (instant : Int) (count : Nat) :
    reading instant + count ≤ reading (instant + count * apart) := by
  have hours := regular.two_hours
  have positive := regular.hour_pos
  induction count with
  | zero => simp
  | succ count induction =>
      have more := regular.advances (instant + count * apart)
      have place : instant + count * apart + apart = instant + (count + 1 : Nat) * apart := by
        push_cast
        ring
      rw [place] at more
      push_cast at more ⊢
      omega

theorem unbounded (shown instant : Int) : ∃ later, instant ≤ later ∧ shown ≤ reading later := by
  have hours := regular.two_hours
  have positive := regular.hour_pos
  have enough := regular.climbs instant (shown - reading instant).toNat
  refine ⟨instant + (shown - reading instant).toNat * apart, ?_, by omega⟩
  have forward : 0 ≤ ((shown - reading instant).toNat : Int) * apart :=
    mul_nonneg (Int.natCast_nonneg _) (by omega)
  omega

theorem unbounded_below (shown : Int) : ∃ earlier, reading earlier < shown := by
  have count := regular.climbs (0 - (reading 0 - shown + 1).toNat * apart)
    (reading 0 - shown + 1).toNat
  rw [sub_add_cancel] at count
  exact ⟨0 - (reading 0 - shown + 1).toNat * apart, by omega⟩

theorem exists_reached {shown instant : Int} (full : hour ∣ shown)
    (before : reading instant < shown) :
    ∃ point, instant < point ∧ ReachedAt reading shown point := by
  have bounded : ∀ later, shown ≤ reading later → instant < later := by
    intro later reached
    by_contra earlier
    have kept := regular.le_later full reached (not_lt.mp earlier)
    omega
  rcases regular.unbounded shown instant with ⟨some, _, shows⟩
  rcases Int.exists_least_of_bdd ⟨instant, fun later reached => (bounded later reached).le⟩
    ⟨some, shows⟩ with ⟨point, reached, least⟩
  refine ⟨point, bounded point reached, ?_⟩
  intro later
  constructor
  · intro shows
    exact least later shows
  · intro order
    exact regular.le_later full reached order

section Reached

variable {shown point : Int} (full : hour ∣ shown) (reached : ReachedAt reading shown point)
include full reached

theorem skipped_from (skips : shown < reading point) :
    Jumps reading point ∧ reading (point - 1) + 1 = shown := by
  have below : reading (point - 1) < shown := by
    by_contra above
    have order := (reached (point - 1)).mp (not_lt.mp above)
    omega
  have jump : Jumps reading point := by
    intro next
    omega
  have most := (regular.small point jump).2
  refine ⟨jump, ?_⟩
  by_contra other
  rcases regular.whole point jump with old | new
  · have gap := next_multiple old full (by omega)
    omega
  · have gap := next_multiple full new skips
    omega

theorem skipped_not_shown (skips : shown < reading point) (instant : Int) :
    reading instant ≠ shown := by
  intro same
  have hours := regular.two_hours
  have jump := (regular.skipped_from full reached skips).1
  have after := (reached instant).mp same.ge
  by_cases soon : instant < point + apart
  · have whole : reading instant = reading point + (instant - point) := by
      apply runs after
      intro other later within
      exact regular.steady_near jump point instant (by omega) soon other later within (by omega)
    omega
  · -- By then the clock has left the hour after the skipped one behind.
    have quiet : reading (point + apart - 1) = reading point + (apart - 1) := by
      have whole : reading (point + apart - 1) = reading point + (point + apart - 1 - point) := by
        apply runs (by have := regular.hour_pos; omega)
        intro other later within
        exact regular.steady_near jump point (point + apart - 1) (by omega) (by omega) other later
          within (by omega)
      omega
    have next : shown + hour ≤ reading (point + apart - 1) := by
      have positive := regular.hour_pos
      omega
    have kept := regular.le_later (Int.dvd_add full (dvd_refl hour)) next
      (show point + apart - 1 ≤ instant by omega)
    have positive := regular.hour_pos
    omega

/-- Just before a skipped hour, each reading within an hour of it was shown once. -/
theorem shown_before_skipped (skips : shown < reading point) {back : Int} (positive : 0 < back)
    (within : back ≤ hour) (instant : Int) :
    reading instant = shown - back ↔ instant = point - back := by
  have hours := regular.two_hours
  have jump := (regular.skipped_from full reached skips).1
  have last := (regular.skipped_from full reached skips).2
  have run : ∀ first, point - apart ≤ first → first < point →
      reading first = shown - (point - first) := by
    intro first near before
    have whole : reading (point - 1) = reading first + (point - 1 - first) := by
      apply runs (by omega)
      intro other later earlier
      exact regular.steady_near jump first (point - 1) (by omega) (by omega) other later earlier
        (by omega)
    omega
  constructor
  · intro shows
    have before : instant < point := by
      by_contra after
      have least := (reached instant).mpr (not_lt.mp after)
      omega
    by_cases near : point - apart ≤ instant
    · have place := run instant near before
      omega
    · have place := run (point - apart) le_rfl (by omega)
      have kept := @le_later hour apart reading regular (shown - hour) instant (point - apart)
        (Int.dvd_sub full (dvd_refl hour)) (by omega) (by omega)
      omega
  · intro place
    rw [place, run (point - back) (by omega) (by omega)]
    omega

end Reached

end Regular

end WallClock
