import Mathlib.Data.Nat.Digits.Defs

/-!
# The low digits of a number

A loop that takes remainders and quotients yields a fixed count of digits, the
least significant one first.  They are the number again when it is small enough.
-/

namespace Srcpd.Bits

/-- The remainders of `count` divisions. -/
def lowDigits (base : Nat) : Nat → Nat → List Nat
  | 0, _ => []
  | count + 1, number => number % base :: lowDigits base count (number / base)

theorem length_lowDigits (base count number : Nat) :
    (lowDigits base count number).length = count := by
  induction count generalizing number with
  | zero => rfl
  | succ count ih => rw [lowDigits, List.length_cons, ih]

theorem lt_of_mem_lowDigits {base count number digit : Nat} (positive : 0 < base)
    (mem : digit ∈ lowDigits base count number) : digit < base := by
  induction count generalizing number with
  | zero => exact absurd mem List.not_mem_nil
  | succ count ih =>
      rcases List.mem_cons.mp mem with rfl | later
      · exact Nat.mod_lt _ positive
      · exact ih later

theorem ofDigits_lowDigits {base count number : Nat} (positive : 0 < base)
    (small : number < base ^ count) :
    Nat.ofDigits base (lowDigits base count number) = number := by
  induction count generalizing number with
  | zero =>
      rw [pow_zero] at small
      rw [lowDigits, Nat.ofDigits_nil]
      omega
  | succ count ih =>
      have quotient : number / base < base ^ count := by
        rw [Nat.div_lt_iff_lt_mul positive, ← pow_succ]
        exact small
      rw [lowDigits, Nat.ofDigits_cons, ih quotient]
      exact Nat.mod_add_div number base

end Srcpd.Bits
