import Mathlib.Tactic

/-!
# Motorola packets and what a decoder reads from them

A packet is nine pairs of halves: four pairs for the address, one for F0, four
for the speed.  The first halves of the last four pairs are the speed.  In the
old format the second halves repeat them; in the new one they say the direction
of the locomotive or one of its functions F1 to F4.

A code for a function that would repeat the speed is replaced: a function that is
off takes the code of the reverse direction at high speeds, one that is on the
code of the forward direction at low speeds, and the speed tells which function
it is.  `receive` is the rule of a decoder with half steps.
-/

namespace Srcpd.Motorola

/-- What the second halves say. -/
inductive Part
  | direction (forward : Bool)
  | function (number : Nat) (on : Bool)
  deriving DecidableEq, Repr

/-- What a decoder reads in a packet. -/
structure Message where
  /-- The pairs of the address. -/
  code : List (Bool × Bool)
  f0 : Bool
  speed : Nat
  /-- `none` in the old format. -/
  part : Option Part
  deriving DecidableEq, Repr

/-- The value of bits, the least significant one first. -/
def speedOf (bits : List Bool) : Nat :=
  bits.foldr (fun bit speed => bit.toNat + 2 * speed) 0

/-- The number of a function from a speed at which its code was replaced. -/
def replacedFunction (speeds : List Nat) (speed : Nat) (on : Bool) : Option Part :=
  (speeds.idxOf? speed).map fun i => .function (i + 1) on

/-- What the second halves of the speed trits say at a speed. -/
def readPart (speed : Nat) : List Bool → Option Part
  | [true, false, true, true] => if speed < 8 then some (.direction false) else none
  | [true, false, true, false] =>
      if 8 ≤ speed then some (.direction false) else replacedFunction [3, 4, 6, 7] speed false
  | [false, true, false, true] =>
      if speed < 8 then some (.direction true)
      else replacedFunction [11, 12, 14, 15] speed true
  | [false, true, false, false] => if 8 ≤ speed then some (.direction true) else none
  | [true, true, false, on] => some (.function 1 on)
  | [false, false, true, on] => some (.function 2 on)
  | [false, true, true, on] => some (.function 3 on)
  | [true, true, true, on] => some (.function 4 on)
  | _ => none

/-- F0, speed and part from the pairs behind the address. -/
def readTail : List (Bool × Bool) → Option (Bool × Nat × Option Part)
  | [f0, first, second, third, fourth] =>
      let speed := [first.1, second.1, third.1, fourth.1]
      let part := [first.2, second.2, third.2, fourth.2]
      if f0.1 ≠ f0.2 then none
      else if part = speed then some (f0.1, speedOf speed, none)
      else (readPart (speedOf speed) part).map fun part => (f0.1, speedOf speed, some part)
  | _ => none

/-- A packet of nine pairs. -/
def readMessage (pairs : List (Bool × Bool)) : Option Message :=
  (readTail (pairs.drop 4)).map fun tail =>
    { code := pairs.take 4, f0 := tail.1, speed := tail.2.1, part := tail.2.2 }

theorem readMessage_append {code : List (Bool × Bool)} (four : code.length = 4)
    (tail : List (Bool × Bool)) :
    readMessage (code ++ tail) =
      (readTail tail).map fun tail => ⟨code, tail.1, tail.2.1, tail.2.2⟩ := by
  rw [readMessage, List.drop_left' four, List.take_left' four]

/-! ## Half steps -/

/-- Twice the step at which a decoder runs once it has received a speed: one that
is approached from above is left half a step higher. -/
def receive (double speed : Nat) : Nat :=
  if speed = 0 then 0 else if double ≤ 2 * speed then 2 * speed else 2 * speed + 1

theorem receive_of_le {double speed : Nat} (positive : 0 < speed) (below : double ≤ 2 * speed) :
    receive double speed = 2 * speed := by
  rw [receive, if_neg (Nat.ne_of_gt positive), if_pos below]

theorem receive_of_lt {double speed : Nat} (positive : 0 < speed) (above : 2 * speed < double) :
    receive double speed = 2 * speed + 1 := by
  rw [receive, if_neg (Nat.ne_of_gt positive), if_neg (Nat.not_le.mpr above)]

theorem receive_le (double speed : Nat) : receive double speed ≤ 2 * speed + 1 := by
  rw [receive]
  split_ifs <;> omega

end Srcpd.Motorola
