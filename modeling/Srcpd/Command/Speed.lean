import Srcpd.Command.Gl

/-!
# Speed steps

`calcspeed` turns the speed and the maximal speed of a command into a speed step
of the decoder.  A maximal speed of 0 stands for a speed that is a step already.
`calcspeed_lawful` is about all others above 0: as long as twice the product and
the maximal speed fit an `int`, the steps are a rounded, monotone scale from 0 to
the number of steps.
-/

namespace Srcpd.Command

/-- The speed between 0 and the maximal speed. -/
def clampedSpeed (vs vmax : Int) : Int :=
  let vs := if vs < 0 then 0 else vs
  if vmax < vs then vmax else vs

/-- The mathematical results of the operations of `calcspeed` on `int`s, in
their order. -/
def calcspeedResults (vs vmax nFs : Int) : List Int :=
  if vmax = 0 then []
  else
    let vs := clampedSpeed vs vmax
    [vs * nFs, vs * nFs * 2, vs * nFs * 2 + vmax, (vs * nFs * 2 + vmax).tdiv vmax]

/-- What `calcspeed` divides by. -/
def calcspeedDivisors (vmax : Int) : List Int :=
  if vmax = 0 then [] else [vmax]

/-- No operation overflows or divides by 0, and the steps are a scale from stop to full speed. -/
structure Lawful (vs vmax nFs : Int) : Prop where
  fits : ∀ result ∈ calcspeedResults vs vmax nFs, -2 ^ 31 ≤ result ∧ result < 2 ^ 31
  divides : ∀ divisor ∈ calcspeedDivisors vmax, divisor ≠ 0
  range : 0 ≤ calcspeed vs vmax nFs ∧ calcspeed vs vmax nFs ≤ nFs
  stops : calcspeed vs vmax nFs = 0 ↔ vs ≤ 0
  full : vmax ≤ vs → calcspeed vs vmax nFs = nFs
  monotone : ∀ lower ≤ vs, calcspeed lower vmax nFs ≤ calcspeed vs vmax nFs

theorem int32_of_fits {value : Int} (lower : -2 ^ 31 ≤ value) (upper : value < 2 ^ 31) :
    int32 value = value :=
  Int.bmod_eq_of_le (by omega) (by omega)

section Positive

variable {vs vmax nFs : Int}

theorem clampedSpeed_range (positive : 0 < vmax) :
    0 ≤ clampedSpeed vs vmax ∧ clampedSpeed vs vmax ≤ vmax := by
  dsimp only [clampedSpeed]
  constructor
  · split <;> split <;> omega
  · split <;> split <;> omega

theorem clampedSpeed_eq_zero_iff (positive : 0 < vmax) :
    clampedSpeed vs vmax = 0 ↔ vs ≤ 0 := by
  dsimp only [clampedSpeed]
  split <;> split <;> omega

theorem clampedSpeed_of_le (positive : 0 < vmax) (above : vmax ≤ vs) :
    clampedSpeed vs vmax = vmax := by
  dsimp only [clampedSpeed]
  split <;> split <;> omega

theorem clampedSpeed_mono {lower : Int} (le : lower ≤ vs) :
    clampedSpeed lower vmax ≤ clampedSpeed vs vmax := by
  dsimp only [clampedSpeed]
  split_ifs <;> omega

variable (positive : 0 < vmax) (steps : 1 ≤ nFs ∧ nFs ≤ 128)
  (small : 2 * clampedSpeed vs vmax * nFs + vmax < 2 ^ 31)

include positive steps small in
/-- The results grow from 0 up to the one before the division. -/
theorem calcspeedResults_range : ∀ result ∈ calcspeedResults vs vmax nFs,
    0 ≤ result ∧ result < 2 ^ 31 := by
  have clamped : 0 ≤ clampedSpeed vs vmax := (clampedSpeed_range positive).1
  have product : 0 ≤ clampedSpeed vs vmax * nFs := Int.mul_nonneg clamped (by omega)
  have double : clampedSpeed vs vmax * nFs * 2 = 2 * clampedSpeed vs vmax * nFs := by ring
  have quotient : 0 ≤ (clampedSpeed vs vmax * nFs * 2 + vmax).tdiv vmax :=
    Int.tdiv_nonneg (by omega) (by omega)
  have less : (clampedSpeed vs vmax * nFs * 2 + vmax).tdiv vmax ≤
      clampedSpeed vs vmax * nFs * 2 + vmax := by
    rw [Int.tdiv_eq_ediv_of_nonneg (by omega)]
    exact Int.ediv_le_self _ (by omega)
  intro result mem
  rw [calcspeedResults, if_neg (by omega)] at mem
  simp only [List.mem_cons, List.not_mem_nil, or_false] at mem
  rcases mem with rfl | rfl | rfl | rfl
  all_goals omega

include positive steps small in
/-- Without overflow the steps are rounded to the nearest one, and no speed but 0
is rounded to 0. -/
theorem calcspeed_eq_rounded : calcspeed vs vmax nFs =
    if clampedSpeed vs vmax = 0 then 0
    else max 1 ((2 * clampedSpeed vs vmax * nFs + vmax) / (2 * vmax)) := by
  have results := calcspeedResults_range positive steps small
  rw [calcspeedResults, if_neg (by omega)] at results
  simp only [List.forall_mem_cons] at results
  obtain ⟨product, double, sum, quotient, -⟩ := results
  have sum' : 0 ≤ 2 * clampedSpeed vs vmax * nFs + vmax := by linarith [sum.1]
  have rounded : (clampedSpeed vs vmax * nFs * 2 + vmax).tdiv vmax >>> (1 : Nat) =
      (2 * clampedSpeed vs vmax * nFs + vmax) / (2 * vmax) := by
    rw [Int.shiftRight_eq_div_pow, Int.tdiv_eq_ediv_of_nonneg (by omega), pow_one,
      Nat.cast_ofNat, Int.ediv_ediv_of_nonneg (by omega)]
    congr 1 <;> ring
  have nonneg : 0 ≤ (2 * clampedSpeed vs vmax * nFs + vmax) / (2 * vmax) :=
    Int.ediv_nonneg sum' (by omega)
  have computed : calcspeed vs vmax nFs =
      if (clampedSpeed vs vmax * nFs * 2 + vmax).tdiv vmax >>> (1 : Nat) = 0 ∧
          clampedSpeed vs vmax ≠ 0 then 1
      else (clampedSpeed vs vmax * nFs * 2 + vmax).tdiv vmax >>> (1 : Nat) := by
    rw [calcspeed, if_neg (by omega)]
    dsimp only
    rw [show (if vmax < (if vs < 0 then 0 else vs) then vmax else if vs < 0 then 0 else vs) =
      clampedSpeed vs vmax from rfl]
    rw [int32_of_fits (by omega) product.2, int32_of_fits (by omega) double.2,
      int32_of_fits (by omega) sum.2, int32_of_fits (by omega) quotient.2]
  rw [computed, rounded]
  by_cases zero : clampedSpeed vs vmax = 0
  · rw [if_pos zero, if_neg (fun both => both.2 zero), zero]
    exact Int.ediv_eq_zero_of_lt (by omega) (by omega)
  · rw [if_neg zero]
    by_cases none : (2 * clampedSpeed vs vmax * nFs + vmax) / (2 * vmax) = 0
    · rw [if_pos ⟨none, zero⟩, none]
      rfl
    · rw [if_neg (fun both => none both.1)]
      omega

include positive steps in
/-- Full speed is the last step, and no speed is above it. -/
theorem rounded_le :
    (2 * clampedSpeed vs vmax * nFs + vmax) / (2 * vmax) ≤ nFs := by
  have most : clampedSpeed vs vmax * nFs ≤ vmax * nFs :=
    Int.mul_le_mul_of_nonneg_right (clampedSpeed_range positive).2 (by omega)
  have below : 2 * clampedSpeed vs vmax * nFs + vmax < (nFs + 1) * (2 * vmax) := by
    calc 2 * clampedSpeed vs vmax * nFs + vmax
        = 2 * (clampedSpeed vs vmax * nFs) + vmax := by ring
      _ < 2 * (vmax * nFs) + 2 * vmax := by omega
      _ = (nFs + 1) * (2 * vmax) := by ring
  exact Int.lt_add_one_iff.mp (Int.ediv_lt_of_lt_mul (by omega) below)

include positive steps small in
theorem lawful : Lawful vs vmax nFs := by
  have results := calcspeedResults_range positive steps small
  have value := calcspeed_eq_rounded positive steps small
  have most : (2 * clampedSpeed vs vmax * nFs + vmax) / (2 * vmax) ≤ nFs :=
    rounded_le positive steps
  constructor
  · intro result mem
    obtain ⟨lower, upper⟩ := results result mem
    exact ⟨by omega, upper⟩
  · rw [calcspeedDivisors, if_neg (by omega)]
    intro divisor mem
    rw [List.mem_singleton.mp mem]
    omega
  · rw [value]
    split <;> omega
  · rw [value, ← clampedSpeed_eq_zero_iff positive]
    split <;> omega
  · intro above
    have whole : (2 * vmax * nFs + vmax) / (2 * vmax) = nFs := by
      have less : vmax / (2 * vmax) = 0 := Int.ediv_eq_zero_of_lt (by omega) (by omega)
      rw [Int.add_comm, Int.add_mul_ediv_left _ _ (by omega), less, Int.zero_add]
    rw [value, clampedSpeed_of_le positive above, whole, if_neg (by omega)]
    omega
  · intro lower le
    have clamped : clampedSpeed lower vmax ≤ clampedSpeed vs vmax := clampedSpeed_mono le
    have fewer : clampedSpeed lower vmax * nFs ≤ clampedSpeed vs vmax * nFs :=
      Int.mul_le_mul_of_nonneg_right clamped (by omega)
    have numerators : 2 * clampedSpeed lower vmax * nFs + vmax ≤
        2 * clampedSpeed vs vmax * nFs + vmax := by
      linarith
    have rounds := Int.ediv_le_ediv (show 0 < 2 * vmax by omega) numerators
    have positive' : 0 ≤ clampedSpeed lower vmax := (clampedSpeed_range positive).1
    rw [value, calcspeed_eq_rounded positive steps (by omega)]
    split <;> split <;> omega

end Positive

/-- A maximal speed of 0 leaves the speed as it is; otherwise the steps are a scale
as long as nothing overflows. -/
theorem calcspeed_lawful (vs vmax : Int) {nFs : Int} (steps : 1 ≤ nFs ∧ nFs ≤ 128) :
    (vmax = 0 → calcspeed vs vmax nFs = vs ∧ calcspeedResults vs vmax nFs = []) ∧
      (0 < vmax → 2 * clampedSpeed vs vmax * nFs + vmax < 2 ^ 31 → Lawful vs vmax nFs) := by
  constructor
  · rintro rfl
    exact ⟨if_pos rfl, if_pos rfl⟩
  · intro positive small
    exact lawful positive steps small

/-- Speed 7 of 10 with 28 steps. -/
theorem calcspeed_lawful_steps28 : Lawful 7 10 28 ∧ calcspeed 7 10 28 = 20 :=
  ⟨(calcspeed_lawful 7 10 (show (1 : Int) ≤ 28 ∧ (28 : Int) ≤ 128 by decide)).2
      (by decide) (by decide),
    by decide⟩

/-- A speed that is a step already is not bounded by the number of steps. -/
theorem not_lawful_raw : ¬ Lawful 200 0 14 := by
  intro lawful
  exact absurd lawful.range.2 (by decide)

end Srcpd.Command
