import Srcpd.Time.Clock

/-!
# What the clock thread computes

The time that `thr_clock` sleeps is computed in `int` before it is stored in an
`unsigned long`, and so is the day.  Every ratio that `initTIME` accepts gives the
sleep it stands for only up to `ratio_y` 2147, and every second is counted up to
the last one of the last day.
-/

namespace Srcpd.Time

open Srcpd.Command

/-! ## Arithmetic of the thread -/

/-- `sleeptime`, from an `int` product. -/
def Distort.sleeptime (distort : Distort) : Nat :=
  ((int32 (1000000 * distort.ratioY)).tdiv distort.ratioX % 2 ^ 64).toNat

/-- The product does not overflow, and the thread sleeps for the integer part of the quotient. -/
def SleepsExactly (distort : Distort) : Prop :=
  1000000 * distort.ratioY ≤ 2147483647 ∧
    (distort.sleeptime : Int) = 1000000 * distort.ratioY / distort.ratioX

/-- The tick shows the next second: a valid time that is no earlier day. -/
structure TicksExactly (vt : Vtime) : Prop where
  valid : (tickInt vt).Valid
  day : vt.day ≤ (tickInt vt).day
  second : tickInt vt = vt.later 1

theorem int32_of_range {value : Int} (least : -2147483648 ≤ value) (most : value ≤ 2147483647) :
    int32 value = value := by
  rw [int32, Int.bmod_eq_of_le]
  · omega
  · omega

/-! ## The sleep -/

theorem sleeptime_of_le {distort : Distort} (running : 0 < distort.ratioX)
    (positive : 0 < distort.ratioY) (small : 1000000 * distort.ratioY ≤ 2147483647) :
    (distort.sleeptime : Int) = 1000000 * distort.ratioY / distort.ratioX := by
  have nonneg : 0 ≤ 1000000 * distort.ratioY := by omega
  have quotient := Int.ediv_nonneg nonneg running.le
  have bounded := Int.ediv_le_self distort.ratioX nonneg
  rw [Distort.sleeptime, int32_of_range (by omega) small, Int.tdiv_eq_ediv_of_nonneg nonneg]
  omega

theorem sleepsExactly_iff {distort : Distort} (running : 0 < distort.ratioX)
    (positive : 0 < distort.ratioY)
    (int : distort.ratioX ≤ 2147483647 ∧ distort.ratioY ≤ 2147483647) :
    SleepsExactly distort ↔ distort.ratioY ≤ 2147 := by
  constructor
  · intro exactly
    have small := exactly.1
    omega
  · intro small
    have product : 1000000 * distort.ratioY ≤ 2147483647 := by omega
    exact ⟨product, sleeptime_of_le running positive product⟩

/-! ## The tick -/

theorem Vtime.valid_later {vt : Vtime} (valid : vt.Valid) (seconds : Nat) :
    (vt.later seconds).Valid := by
  rcases vt with ⟨day, hour, min, sec⟩
  simp only [Valid, not_or, not_lt, later] at valid ⊢
  omega

theorem Vtime.day_later {vt : Vtime} (valid : vt.Valid) :
    vt.day ≤ (vt.later 1).day ∧ (vt.later 1).day ≤ vt.day + 1 ∧
      ((vt.later 1).day = vt.day + 1 ↔ vt.hour = 23 ∧ vt.min = 59 ∧ vt.sec = 59) := by
  rcases vt with ⟨day, hour, min, sec⟩
  simp only [Valid, not_or, not_lt, later] at valid ⊢
  omega

theorem tick_of_valid {vt : Vtime} (valid : vt.Valid) : tick vt = vt.later 1 := by
  have next := tick_later vt 0
  rw [Vtime.later_zero valid] at next
  exact next

/-- Every second up to the last one has a next one. -/
theorem hasNext_iff {vt : Vtime} (valid : vt.Valid) (int : vt.day ≤ 2147483647) :
    vt.HasNext ↔ vt ≠ lastSecond := by
  obtain ⟨least, most, carries⟩ := Vtime.day_later valid
  have nonneg : 0 ≤ vt.day := by
    simp only [Vtime.Valid, not_or, not_lt] at valid
    exact valid.1
  constructor
  · rintro fits rfl
    revert fits
    decide
  · intro other
    have inRange : (vt.later 1).day ≤ 2147483647 := by
      by_contra overflow
      have midnight := carries.mp (by omega)
      have lastDay : vt.day = 2147483647 := by omega
      rcases vt with ⟨day, hour, min, sec⟩
      obtain ⟨rfl, rfl, rfl⟩ := midnight
      obtain rfl := lastDay
      exact other rfl
    rw [Vtime.HasNext, tick_of_valid valid]
    exact int32_of_range (by omega) inRange

theorem ticksExactly_iff {vt : Vtime} (valid : vt.Valid) (int : vt.day ≤ 2147483647) :
    TicksExactly vt ↔ vt ≠ lastSecond := by
  constructor
  · rintro exactly rfl
    have kept := exactly.day
    revert kept
    decide
  · intro other
    have same : tickInt vt = vt.later 1 :=
      (tickInt_eq_tick_iff.mpr ((hasNext_iff valid int).mpr other)).trans (tick_of_valid valid)
    exact ⟨same ▸ Vtime.valid_later valid 1, same ▸ (Vtime.day_later valid).1, same⟩

/-! ## The clock -/

/-- For an accepted ratio the sleep is exact up to `ratio_y` 2147, and a valid time becomes the
next second unless it is the last one. -/
theorem thrClock_exact_iff (state : ClockState) (fx fy : Int) (vt : Vtime)
    (accepted : ¬ (fx < 0 ∨ fy ≤ 0)) (running : 0 < fx)
    (int : fx ≤ 2147483647 ∧ fy ≤ 2147483647 ∧ vt.day ≤ 2147483647) (valid : vt.Valid) :
    (SleepsExactly (initTIME state fx fy).distort ↔ fy ≤ 2147) ∧
      (TicksExactly vt ↔ vt ≠ lastSecond) := by
  have stored : (initTIME state fx fy).distort = ⟨fx, fy⟩ := by
    rw [initTIME, if_neg accepted]
  rw [stored]
  rw [not_or, not_le] at accepted
  exact ⟨sleepsExactly_iff running accepted.2 ⟨int.1, int.2.1⟩, ticksExactly_iff valid int.2.2⟩

theorem thrClock_exact_iff_noon :
    (SleepsExactly (initTIME started.1 1 60).distort ↔ (60 : Int) ≤ 2147) ∧
      (TicksExactly ⟨1, 12, 0, 0⟩ ↔ (⟨1, 12, 0, 0⟩ : Vtime) ≠ lastSecond) :=
  thrClock_exact_iff started.1 1 60 ⟨1, 12, 0, 0⟩ (by decide) (by decide) (by decide) (by decide)

/-- One model second in an hour, and the last second. -/
theorem thrClock_not_exact :
    (initTIME started.1 1 3600).distort.sleeptime ≠ 3600000000 ∧
      ¬ SleepsExactly (initTIME started.1 1 3600).distort ∧
      lastSecond.Valid ∧ ¬ TicksExactly lastSecond := by
  refine ⟨by decide, fun exactly => ?_, by decide, fun exactly => ?_⟩
  · exact absurd exactly.1 (by decide)
  · exact absurd exactly.day (by decide)

end Srcpd.Time
