import Mathlib.Tactic

/-!
# Words made of two parts

A word is written by masks: some of its bits are taken from one word and the others
from another.  The lemmas read such a word back through a mask and say when two of
them are the same.
-/

namespace Srcpd.Bits

variable {w : Nat} {x a b f g m n h : BitVec w}

/-- Two masks that differ in some bits keep the same of a word exactly when it has none of
these bits. -/
theorem or_and_eq_iff (disjoint : m &&& h = 0) (clear : x &&& h = 0) :
    x ||| (a &&& m) = x ||| (a &&& (m ||| h)) ↔ a &&& h = 0 := by
  have disjointBit := fun i => congrArg (fun word => BitVec.getLsbD word i) disjoint
  have clearBit := fun i => congrArg (fun word => BitVec.getLsbD word i) clear
  simp only [BitVec.getLsbD_and] at disjointBit clearBit
  constructor
  · intro same
    apply BitVec.eq_of_getLsbD_eq
    intro i _
    have sameBit := congrArg (fun word => BitVec.getLsbD word i) same
    have first := disjointBit i
    have second := clearBit i
    simp only [BitVec.getLsbD_or, BitVec.getLsbD_and] at sameBit ⊢
    revert sameBit first second
    cases x.getLsbD i <;> cases a.getLsbD i <;> cases m.getLsbD i <;> cases h.getLsbD i <;> simp
  · intro none
    apply BitVec.eq_of_getLsbD_eq
    intro i _
    have noneBit := congrArg (fun word => BitVec.getLsbD word i) none
    simp only [BitVec.getLsbD_or, BitVec.getLsbD_and] at noneBit ⊢
    revert noneBit
    cases x.getLsbD i <;> cases a.getLsbD i <;> cases m.getLsbD i <;> cases h.getLsbD i <;> simp

theorem or_left_inj_of_disjoint (first : x &&& a = 0) (second : x &&& b = 0) :
    x ||| a = x ||| b ↔ a = b := by
  constructor
  · intro same
    apply BitVec.eq_of_getLsbD_eq
    intro i _
    have firstBit := congrArg (fun word => BitVec.getLsbD word i) first
    have secondBit := congrArg (fun word => BitVec.getLsbD word i) second
    have sameBit := congrArg (fun word => BitVec.getLsbD word i) same
    simp only [BitVec.getLsbD_or, BitVec.getLsbD_and] at firstBit secondBit sameBit
    revert firstBit secondBit sameBit
    cases x.getLsbD i <;> cases a.getLsbD i <;> cases b.getLsbD i <;> simp
  · rintro rfl
    rfl

theorem and_eq_zero_of_and_eq_zero (within : x &&& m = x)
    (outside : a &&& m = 0) : x &&& a = 0 := by
  rw [← within, BitVec.and_assoc, BitVec.and_comm m a, outside]
  exact BitVec.and_zero

theorem merge_and_self : ((f &&& m) ||| (g &&& ~~~ m)) &&& m = f &&& m := by
  apply BitVec.eq_of_getLsbD_eq
  intro i inside
  simp only [BitVec.getLsbD_and, BitVec.getLsbD_or, BitVec.getLsbD_not]
  cases f.getLsbD i <;> cases g.getLsbD i <;> cases m.getLsbD i <;> simp

theorem merge_and_other (disjoint : m &&& n = 0) :
    ((f &&& m) ||| (g &&& ~~~ m)) &&& n = g &&& n := by
  apply BitVec.eq_of_getLsbD_eq
  intro i inside
  have disjointBit := congrArg (fun word => BitVec.getLsbD word i) disjoint
  simp only [BitVec.getLsbD_and, BitVec.getLsbD_or, BitVec.getLsbD_not] at disjointBit ⊢
  revert disjointBit
  cases f.getLsbD i <;> cases g.getLsbD i <;> cases m.getLsbD i <;> cases n.getLsbD i <;>
    simp [inside]

/-- The bits of a mask are those that the other part has. -/
theorem eq_or_and_not_iff (within : b &&& m = b) : x = b ||| (x &&& ~~~ m) ↔ x &&& m = b := by
  have withinBit := fun i => congrArg (fun word => BitVec.getLsbD word i) within
  simp only [BitVec.getLsbD_and] at withinBit
  constructor
  · intro same
    apply BitVec.eq_of_getLsbD_eq
    intro i inside
    have sameBit := congrArg (fun word => BitVec.getLsbD word i) same
    have bit := withinBit i
    simp only [BitVec.getLsbD_or, BitVec.getLsbD_and, BitVec.getLsbD_not] at sameBit ⊢
    revert sameBit bit
    cases x.getLsbD i <;> cases b.getLsbD i <;> cases m.getLsbD i <;> simp [inside]
  · rintro rfl
    apply BitVec.eq_of_getLsbD_eq
    intro i inside
    simp only [BitVec.getLsbD_or, BitVec.getLsbD_and, BitVec.getLsbD_not]
    cases x.getLsbD i <;> cases m.getLsbD i <;> simp [inside]

/-- A part that is added changes nothing exactly when it is empty. -/
theorem eq_or_self_iff (disjoint : a &&& b = 0) : a = a ||| b ↔ b = 0 := by
  constructor
  · intro same
    rw [same] at disjoint
    apply BitVec.eq_of_getLsbD_eq
    intro i inside
    have bit := congrArg (fun word => BitVec.getLsbD word i) disjoint
    simp only [BitVec.getLsbD_or, BitVec.getLsbD_and] at bit ⊢
    revert bit
    cases a.getLsbD i <;> cases b.getLsbD i <;> simp
  · rintro rfl
    simp

theorem and_not_and_self : (a &&& ~~~ m) &&& m = 0 := by
  apply BitVec.eq_of_getLsbD_eq
  intro i inside
  simp only [BitVec.getLsbD_and, BitVec.getLsbD_not]
  cases a.getLsbD i <;> cases m.getLsbD i <;> simp

end Srcpd.Bits
