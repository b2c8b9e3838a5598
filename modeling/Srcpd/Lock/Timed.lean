import Srcpd.Transition.Core

/-!
# Timed locks

What a lock is for: a session holds it, nobody else can take it or give it back, and
it ends with the tick that its duration says.  The messages about locks tell who holds
it.
-/

namespace Srcpd.Lock

/-- Bus and address. -/
abbrev Place := Nat × Int

/-- The messages about locks: 100 names the holder, 102 says that there is none. -/
inductive LockMessage
  | held (place : Place) (sessionid : Nat)
  | free (place : Place)

/-! ## Messages -/

/-- What one message tells about the holder. -/
def tell (place : Place) (holder : Nat) : LockMessage → Nat
  | .held place' sessionid => if place' = place then sessionid else holder
  | .free place' => if place' = place then 0 else holder

/-- The holder that the messages tell. -/
def replay (messages : List LockMessage) (place : Place) : Nat :=
  messages.foldl (tell place) 0

section Messages

variable {place : Place} {sessionid : Nat}

theorem tell_held_other {other : Place} {holder : Nat} (differ : other ≠ place) :
    tell other holder (.held place sessionid) = holder := by
  rw [tell, if_neg fun same => differ same.symm]

theorem tell_free_other {other : Place} {holder : Nat} (differ : other ≠ place) :
    tell other holder (.free place) = holder := by
  rw [tell, if_neg fun same => differ same.symm]

end Messages

/-! ## A timed lock -/

/-- A lock that is held: by whom, for how many ticks, and how many have passed. -/
structure Held where
  sessionid : Nat
  duration : Int
  ticks : Nat

/-- The ticks that are left; without an end, the duration as it was. -/
def Held.remaining (held : Held) : Int :=
  if 0 < held.duration then held.duration - held.ticks else held.duration

/-- A lock as it should be: free, or held for some more seconds. -/
abbrev TimedLock := Option Held

namespace TimedLock

/-- The holder, or 0. -/
def holder (lock : TimedLock) : Nat :=
  lock.elim 0 Held.sessionid

/-- Only who holds the lock can take it again. -/
def take (sessionid : Nat) (duration : Int) (lock : TimedLock) : TimedLock :=
  if lock.holder = 0 ∨ lock.holder = sessionid then some ⟨sessionid, duration, 0⟩ else lock

/-- Only the holder gives a lock back. -/
def release (sessionid : Nat) (lock : TimedLock) : TimedLock :=
  if lock.holder = sessionid then none else lock

/-- A duration that is not positive does not end. -/
def tick : TimedLock → TimedLock
  | none => none
  | some held =>
      if held.duration = held.ticks + 1 then none
      else some { held with ticks := held.ticks + 1 }

end TimedLock

namespace TimedLock

variable {lock : TimedLock} {sessionid other : Nat} {duration : Int}

theorem take_other (held : lock.holder ≠ 0) (foreign : lock.holder ≠ sessionid) :
    lock.take sessionid duration = lock := by
  rw [take, if_neg]
  rintro (free | own)
  · exact held free
  · exact foreign own

theorem release_other (foreign : lock.holder ≠ sessionid) : lock.release sessionid = lock := by
  rw [release, if_neg foreign]

/-- The lock ends with the tick that its duration says, and without one never. -/
theorem ticks_eq (sessionid : Nat) (duration : Int) (count : Nat) :
    tick^[count] (some ⟨sessionid, duration, 0⟩) =
      if 0 < duration ∧ duration ≤ count then none else some ⟨sessionid, duration, count⟩ := by
  induction count with
  | zero => rw [if_neg (by omega), Function.iterate_zero, id]
  | succ count ih =>
      rw [Function.iterate_succ_apply', ih]
      by_cases past : 0 < duration ∧ duration ≤ count
      · rw [if_pos past, if_pos ⟨past.1, by omega⟩, tick]
      · rw [if_neg past, tick]
        by_cases last : duration = count + 1
        · rw [if_pos last, if_pos ⟨by omega, by omega⟩]
        · rw [if_neg last, if_neg (by omega)]

theorem holder_release : (lock.release sessionid).holder = 0 ∨
    (lock.release sessionid).holder = lock.holder := by
  rw [release]
  split
  · exact Or.inl rfl
  · exact Or.inr rfl

theorem holder_tick : lock.tick.holder = 0 ∨ lock.tick.holder = lock.holder := by
  cases lock with
  | none => exact Or.inl rfl
  | some held =>
      rw [tick]
      split
      · exact Or.inl rfl
      · exact Or.inr rfl

theorem holder_take : (lock.take sessionid duration).holder = sessionid ∨
    (lock.take sessionid duration).holder = lock.holder := by
  rw [take]
  split
  · exact Or.inl rfl
  · exact Or.inr rfl

theorem release_ne (named : sessionid ≠ 0) : (lock.release sessionid).holder ≠ sessionid := by
  rw [release]
  split
  · exact fun zero => named zero.symm
  · assumption

end TimedLock

end Srcpd.Lock
