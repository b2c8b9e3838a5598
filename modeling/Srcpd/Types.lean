import Mathlib.Data.BitVec

/-!
# Types of several drivers

Bytes on a line, their digits, and the time that `gettimeofday` stores.
-/

namespace Srcpd

/-- A byte on a line or in a buffer. -/
abbrev Byte := BitVec 8

/-- The value of a hexadecimal digit. -/
def hexValue (c : Byte) : Option Nat :=
  if 0x30 ≤ c ∧ c ≤ 0x39 then some (c.toNat - 0x30)
  else if 0x41 ≤ c ∧ c ≤ 0x46 then some (c.toNat - 0x37)
  else if 0x61 ≤ c ∧ c ≤ 0x66 then some (c.toNat - 0x57)
  else none

/-- `struct timeval`. -/
structure Timeval where
  sec : Int
  usec : Int
  deriving DecidableEq, Repr

/-- In microseconds. -/
def Timeval.micros (time : Timeval) : Int :=
  time.sec * 1000000 + time.usec

/-- The clock counts microseconds. -/
def gettimeofday (now : Nat) : Timeval :=
  { sec := now / 1000000, usec := now % 1000000 }

end Srcpd
