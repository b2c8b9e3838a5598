import Mathlib.Data.BitVec

/-!
# Addresses for DCC accessories

A Lenz address is the number of a pair of outputs, counted over all decoders from one
on; the NMRA scheme has the decoder and the pair in it.  Both are taken with the port
of the pair as well.  All four conversions are in 32-bit unsigned arithmetic.

`number` is what a Lenz address stands for; the conversions compute it and its inverse.
-/

namespace Srcpd.Driver.DccAddress

/-! ## The conversions -/

/-- The decoder address and the pair of a Lenz number. -/
def lenzToNmra (lenz : BitVec 32) : BitVec 32 × BitVec 8 :=
  if 0 < lenz then ((lenz + 3) >>> 2, ((lenz - 1) % 4).setWidth 8) else (0, 0)

/-- The Lenz number of a decoder address and a pair. -/
def nmraToLenz (nmra : BitVec 32) (sub : BitVec 8) : BitVec 32 :=
  if nmra = 0 then 0 else ((nmra - 1) <<< 2) + (sub.setWidth 32 + 1)

/-- The decoder address of a Lenz number, with the output beside the pair. -/
def lenz2ToNmra2 (lenz : BitVec 32) (port : BitVec 8) : BitVec 32 × BitVec 8 :=
  if 0 < lenz then
    ((lenz + 3) >>> 2, (((lenz - 1) % 4) <<< 1).setWidth 8 ||| (port &&& 0x01))
  else (0, 0)

/-- The Lenz number of a decoder address, with the output. -/
def nmra2ToLenz2 (nmraA : BitVec 32) (nmraP : BitVec 8) : BitVec 32 × BitVec 8 :=
  if nmraA = 0 then (0, 0)
  else (((nmraA - 1) <<< 2) + ((nmraP >>> 1).setWidth 32 + 1), nmraP &&& 0x01)

/-! ## Numbers of pairs -/

/-- The pair with this place at this decoder; four pairs are at a decoder, and both
decoders and pairs are counted from one on. -/
def number (nmra sub : Nat) : Nat :=
  4 * (nmra - 1) + sub + 1

/-- The Lenz addresses whose conversion does not wrap. -/
def IsLenz (lenz : BitVec 32) : Prop :=
  1 ≤ lenz.toNat ∧ lenz.toNat ≤ 2 ^ 32 - 4

/-- The decoders whose pairs have a Lenz address. -/
def IsNmra (nmra : BitVec 32) : Prop :=
  1 ≤ nmra.toNat ∧ nmra.toNat ≤ 2 ^ 30 - 1

variable {lenz nmra : BitVec 32} {sub port : BitVec 8}

theorem number_lenz {lenz : Nat} (positive : 1 ≤ lenz) :
    number ((lenz + 3) / 4) ((lenz - 1) % 4) = lenz := by
  rw [number]
  omega

theorem number_div {nmra sub : Nat} (positive : 1 ≤ nmra) (place : sub < 4) :
    (number nmra sub + 3) / 4 = nmra ∧ (number nmra sub - 1) % 4 = sub := by
  rw [number]
  omega

/-! ## What the conversions compute -/

theorem IsLenz.toNat_decoder (range : IsLenz lenz) :
    ((lenz + 3) >>> 2).toNat = (lenz.toNat + 3) / 4 := by
  have whole : (lenz + 3).toNat = lenz.toNat + 3 := by
    rw [BitVec.toNat_add]
    exact Nat.mod_eq_of_lt (Nat.lt_of_le_of_lt (Nat.add_le_add_right range.2 3) (by decide))
  rw [BitVec.toNat_ushiftRight, whole, Nat.shiftRight_eq_div_pow]

theorem IsLenz.toNat_place (range : IsLenz lenz) :
    ((lenz - 1) % 4).toNat = (lenz.toNat - 1) % 4 := by
  have below : (1 : BitVec 32) ≤ lenz := by
    rw [BitVec.le_def]
    exact range.1
  rw [BitVec.toNat_umod, BitVec.toNat_sub_of_le below]
  rfl

theorem IsLenz.pos (range : IsLenz lenz) : 0 < lenz := by
  rw [BitVec.lt_def]
  exact range.1

theorem IsLenz.lenzToNmra_toNat (range : IsLenz lenz) :
    (lenzToNmra lenz).1.toNat = (lenz.toNat + 3) / 4 ∧
      (lenzToNmra lenz).2.toNat = (lenz.toNat - 1) % 4 := by
  rw [lenzToNmra, if_pos range.pos]
  refine ⟨range.toNat_decoder, ?_⟩
  rw [BitVec.toNat_setWidth, range.toNat_place]
  omega

theorem IsNmra.ne_zero (range : IsNmra nmra) : nmra ≠ 0 := by
  rintro rfl
  exact absurd range.1 (by decide)

theorem IsNmra.toNat_first (range : IsNmra nmra) :
    ((nmra - 1) <<< 2).toNat = 4 * (nmra.toNat - 1) := by
  have below : (1 : BitVec 32) ≤ nmra := by
    rw [BitVec.le_def]
    exact range.1
  have small := range.2
  rw [BitVec.toNat_shiftLeft, BitVec.toNat_sub_of_le below, Nat.shiftLeft_eq]
  change (nmra.toNat - 1) * 4 % 2 ^ 32 = 4 * (nmra.toNat - 1)
  omega

theorem IsNmra.toNat_pair {place : BitVec 32} (range : IsNmra nmra) (bound : place.toNat < 4) :
    (((nmra - 1) <<< 2) + (place + 1)).toNat = number nmra.toNat place.toNat := by
  have small := range.2
  have next : (place + 1).toNat = place.toNat + 1 := by
    rw [BitVec.toNat_add]
    change (place.toNat + 1) % 2 ^ 32 = place.toNat + 1
    omega
  rw [BitVec.toNat_add, range.toNat_first, next, number]
  omega

theorem IsNmra.nmraToLenz_toNat (range : IsNmra nmra) (place : sub.toNat < 4) :
    (nmraToLenz nmra sub).toNat = number nmra.toNat sub.toNat := by
  have wide : (sub.setWidth 32).toNat = sub.toNat :=
    BitVec.toNat_setWidth_of_le (by decide)
  rw [nmraToLenz, if_neg range.ne_zero, range.toNat_pair (by omega), wide]

theorem toNat_portBit (port : BitVec 8) : (port &&& 0x01).toNat = port.toNat % 2 := by
  rw [BitVec.toNat_and]
  exact Nat.and_one_is_mod _

/-- The place of a pair and the port in it, in one byte. -/
theorem toNat_pairPort {place : BitVec 32} (bound : place.toNat < 4) (output : port.toNat < 2) :
    ((place <<< 1).setWidth 8 ||| (port &&& 0x01)).toNat = 2 * place.toNat + port.toNat := by
  have place_eq : place = BitVec.ofNat 32 place.toNat := by
    rw [BitVec.ofNat_toNat, BitVec.setWidth_eq]
  have port_eq : port = BitVec.ofNat 8 port.toNat := by
    rw [BitVec.ofNat_toNat, BitVec.setWidth_eq]
  have table : ∀ place < 4, ∀ port < 2,
      ((BitVec.ofNat 32 place <<< 1).setWidth 8 ||| (BitVec.ofNat 8 port &&& 0x01)).toNat =
        2 * place + port := by
    decide
  have entry := table place.toNat bound port.toNat output
  rwa [← place_eq, ← port_eq] at entry

theorem IsLenz.lenz2ToNmra2_toNat (range : IsLenz lenz) (output : port.toNat < 2) :
    (lenz2ToNmra2 lenz port).1 = (lenzToNmra lenz).1 ∧
      (lenz2ToNmra2 lenz port).2.toNat = 2 * (lenzToNmra lenz).2.toNat + port.toNat := by
  have bound : ((lenz - 1) % 4).toNat < 4 := by
    rw [range.toNat_place]
    omega
  rw [range.lenzToNmra_toNat.2, lenz2ToNmra2, if_pos range.pos, lenzToNmra, if_pos range.pos]
  refine ⟨rfl, ?_⟩
  rw [toNat_pairPort bound output, range.toNat_place]

theorem IsNmra.nmra2ToLenz2_toNat (range : IsNmra nmra) (byte : port.toNat < 8) :
    (nmra2ToLenz2 nmra port).1.toNat = number nmra.toNat (port.toNat / 2) ∧
      (nmra2ToLenz2 nmra port).2.toNat = port.toNat % 2 := by
  have place : ((port >>> 1).setWidth 32).toNat = port.toNat / 2 := by
    rw [BitVec.toNat_setWidth_of_le (by decide), BitVec.toNat_ushiftRight,
      Nat.shiftRight_eq_div_pow]
  rw [nmra2ToLenz2, if_neg range.ne_zero]
  refine ⟨?_, toNat_portBit port⟩
  dsimp only
  rw [range.toNat_pair (by omega), place]

theorem IsNmra.isLenz {lenz : BitVec 32} {place : Nat} (range : IsNmra nmra) (bound : place < 4)
    (same : lenz.toNat = number nmra.toNat place) : IsLenz lenz := by
  have small := range.2
  rw [number] at same
  constructor
  · omega
  · rw [same]
    omega

theorem IsLenz.isNmra (range : IsLenz lenz) : IsNmra (lenzToNmra lenz).1 := by
  have small := range.2
  have positive := range.1
  have decoder := range.lenzToNmra_toNat.1
  constructor
  · omega
  · rw [decoder]
    omega

/-! ## The conversions together -/

/-- The next pair of outputs. -/
def Follows (next before : BitVec 32 × BitVec 8) : Prop :=
  (next.1 = before.1 ∧ next.2.toNat = before.2.toNat + 1) ∨
    (next.1.toNat = before.1.toNat + 1 ∧ before.2.toNat = 3 ∧ next.2 = 0)

theorem nmraToLenz_lenzToNmra (range : IsLenz lenz) :
    nmraToLenz (lenzToNmra lenz).1 (lenzToNmra lenz).2 = lenz := by
  rcases range.lenzToNmra_toNat with ⟨decoder, place⟩
  apply BitVec.eq_of_toNat_eq
  rw [range.isNmra.nmraToLenz_toNat (by omega), decoder, place, number_lenz range.1]

theorem lenzToNmra_nmraToLenz (range : IsNmra nmra) (bound : sub.toNat < 4) :
    lenzToNmra (nmraToLenz nmra sub) = (nmra, sub) := by
  have same := range.nmraToLenz_toNat bound
  rcases (range.isLenz bound same).lenzToNmra_toNat with ⟨decoder, place⟩
  rcases number_div range.1 bound with ⟨first, second⟩
  apply Prod.ext
  · apply BitVec.eq_of_toNat_eq
    rw [decoder, same, first]
  · apply BitVec.eq_of_toNat_eq
    rw [place, same, second]

theorem nmra2ToLenz2_lenz2ToNmra2 (range : IsLenz lenz) (output : port.toNat < 2) :
    nmra2ToLenz2 (lenz2ToNmra2 lenz port).1 (lenz2ToNmra2 lenz port).2 = (lenz, port) := by
  rcases range.lenz2ToNmra2_toNat output with ⟨decoder, both⟩
  rcases range.lenzToNmra_toNat with ⟨decoder', place⟩
  have range' := range.isNmra
  rw [← decoder] at range'
  have byte : (lenz2ToNmra2 lenz port).2.toNat < 8 := by omega
  rcases range'.nmra2ToLenz2_toNat byte with ⟨first, second⟩
  apply Prod.ext
  · apply BitVec.eq_of_toNat_eq
    have half : (lenz2ToNmra2 lenz port).2.toNat / 2 = (lenz.toNat - 1) % 4 := by omega
    rw [first, half, decoder, decoder', number_lenz range.1]
  · apply BitVec.eq_of_toNat_eq
    rw [second, both, Nat.mul_add_mod, Nat.mod_eq_of_lt output]

theorem lenz2ToNmra2_nmra2ToLenz2 (range : IsNmra nmra) (byte : port.toNat < 8) :
    lenz2ToNmra2 (nmra2ToLenz2 nmra port).1 (nmra2ToLenz2 nmra port).2 = (nmra, port) := by
  rcases range.nmra2ToLenz2_toNat byte with ⟨same, output⟩
  have bound : port.toNat / 2 < 4 := by omega
  have range' := range.isLenz bound same
  have output' : (nmra2ToLenz2 nmra port).2.toNat < 2 := by omega
  rcases range'.lenz2ToNmra2_toNat output' with ⟨decoder, both⟩
  rcases range'.lenzToNmra_toNat with ⟨decoder', place⟩
  rcases number_div range.1 bound with ⟨first, second⟩
  apply Prod.ext
  · apply BitVec.eq_of_toNat_eq
    rw [decoder, decoder', same, first]
  · apply BitVec.eq_of_toNat_eq
    rw [both, place, same, second, output]
    exact Nat.div_add_mod _ _

theorem lenzToNmra_follows (range : IsLenz lenz) (next : IsLenz (lenz + 1)) :
    Follows (lenzToNmra (lenz + 1)) (lenzToNmra lenz) := by
  rcases range.lenzToNmra_toNat with ⟨decoder, place⟩
  rcases next.lenzToNmra_toNat with ⟨decoder', place'⟩
  have small := range.2
  have positive := range.1
  have successor : (lenz + 1).toNat = lenz.toNat + 1 := by
    rw [BitVec.toNat_add]
    change (lenz.toNat + 1) % 2 ^ 32 = lenz.toNat + 1
    omega
  rw [successor] at decoder' place'
  by_cases last : (lenz.toNat - 1) % 4 = 3
  · right
    refine ⟨by omega, by omega, ?_⟩
    apply BitVec.eq_of_toNat_eq
    change (lenzToNmra (lenz + 1)).2.toNat = 0
    omega
  · left
    refine ⟨?_, by omega⟩
    apply BitVec.eq_of_toNat_eq
    omega

/-- Both pairs of conversions are inverse to each other and agree, and the Lenz
addresses go through the pairs of the decoders one by one. -/
theorem conversions (lenz nmra : BitVec 32) (sub output port : BitVec 8) (lenzRange : IsLenz lenz)
    (nmraRange : IsNmra nmra) (place : sub.toNat < 4) (pair : output.toNat < 2)
    (byte : port.toNat < 8) :
    nmraToLenz (lenzToNmra lenz).1 (lenzToNmra lenz).2 = lenz ∧
      lenzToNmra (nmraToLenz nmra sub) = (nmra, sub) ∧
      nmra2ToLenz2 (lenz2ToNmra2 lenz output).1 (lenz2ToNmra2 lenz output).2 = (lenz, output) ∧
      lenz2ToNmra2 (nmra2ToLenz2 nmra port).1 (nmra2ToLenz2 nmra port).2 = (nmra, port) ∧
      (lenz2ToNmra2 lenz output).1 = (lenzToNmra lenz).1 ∧
      (lenz2ToNmra2 lenz output).2.toNat = 2 * (lenzToNmra lenz).2.toNat + output.toNat ∧
      lenzToNmra 1 = (1, 0) ∧
      (IsLenz (lenz + 1) → Follows (lenzToNmra (lenz + 1)) (lenzToNmra lenz)) := by
  rcases lenzRange.lenz2ToNmra2_toNat pair with ⟨decoder, both⟩
  exact ⟨nmraToLenz_lenzToNmra lenzRange, lenzToNmra_nmraToLenz nmraRange place,
    nmra2ToLenz2_lenz2ToNmra2 lenzRange pair, lenz2ToNmra2_nmra2ToLenz2 nmraRange byte, decoder,
    both, by decide, lenzToNmra_follows lenzRange⟩

/-- At the last pair of the last decoder. -/
theorem conversions_last :
    IsLenz 0xfffffffc ∧ IsNmra 0x3fffffff ∧
      lenzToNmra (nmraToLenz 0x3fffffff 3) = (0x3fffffff, 3) ∧
      nmra2ToLenz2 (lenz2ToNmra2 0xfffffffc 1).1 (lenz2ToNmra2 0xfffffffc 1).2 =
        (0xfffffffc, 1) := by
  have lenzRange : IsLenz 0xfffffffc := ⟨by decide, by decide⟩
  have nmraRange : IsNmra 0x3fffffff := ⟨by decide, by decide⟩
  rcases conversions 0xfffffffc 0x3fffffff 3 1 7 lenzRange nmraRange (by decide) (by decide)
    (by decide) with ⟨_, sub, pair, _⟩
  exact ⟨lenzRange, nmraRange, sub, pair⟩

end Srcpd.Driver.DccAddress
