import Srcpd.Lock.Timed
import Srcpd.Transition.Sweep

/-!
# Locks of accessories

A lock has a holder and a counter, which every tick of the server counts down, also
when nobody holds the lock and also below zero.  Holder and counter are compared with
a timed lock that says what they are for.

`lawful_of_fewTicks`: they agree in every run of fewer than `2 ^ 63` ticks.  A counter that
was not positive comes around to positive values with the ticks, and what is left of it is
1 only behind `2 ^ 63` of them.
-/

namespace Srcpd.Lock

open Srcpd.Transition

/-! ## The record of an accessory -/

/-- What `gastate` keeps of an accessory about its lock. -/
structure GaLock where
  lockedBy : Nat
  lockduration : BitVec 64
  isInitialized : Bool

/-- What an operation does to one record, and what it announces. -/
abbrev Operation := Place → GaLock → GaLock × List LockMessage

/-- Takes or refreshes the lock; the message names the holder. -/
def lockGA (duration : BitVec 64) (sessionid : Nat) : Operation := fun place lock =>
  if lock.lockedBy = sessionid ∨ lock.lockedBy = 0 then
    ({ lock with lockedBy := sessionid, lockduration := duration }, [.held place sessionid])
  else (lock, [])

/-- Gives the lock back; a free one is announced as free again. -/
def unlockGA (sessionid : Nat) : Operation := fun place lock =>
  if lock.lockedBy = 0 ∨ lock.lockedBy = sessionid then
    ({ lock with lockedBy := 0 }, [.free place])
  else (lock, [])

/-- The record is cleared; the message about it is none about a lock. -/
def termGA (lock : GaLock) : GaLock :=
  if lock.isInitialized then ⟨0, 0, false⟩ else lock

/-- `TERM GA` tests the lock, and the holder unlocks before. -/
def handleTermGA (sessionid : Nat) : Operation := fun place lock =>
  if lock.lockedBy = 0 then (termGA lock, [])
  else if lock.lockedBy = sessionid then
    let unlocked := unlockGA sessionid place lock
    (termGA unlocked.1, unlocked.2)
  else (lock, [])

/-- The body of the loop of `unlock_ga_bysessionid`. -/
def unlockGaBysessionid (sessionid : Nat) : Operation := fun place lock =>
  if lock.lockedBy = sessionid then unlockGA sessionid place lock else (lock, [])

/-- The body of the loop of `unlock_ga_bytime`. -/
def unlockGaBytime : Operation := fun place lock =>
  let counted := { lock with lockduration := lock.lockduration - 1 }
  if lock.lockduration = 1 then unlockGA counted.lockedBy place counted else (counted, [])

/-- An `INIT GA` leaves the lock as it is. -/
def initGA : Operation := fun _ lock =>
  ({ lock with isInitialized := true }, [])

/-! ## All accessories -/

/-- The records, the sessions that have ended, and all messages so far. -/
structure GaLocks where
  numBuses : Nat
  numberOfGa : Nat → Nat
  gastate : Place → GaLock
  ended : Nat → Bool
  messages : List LockMessage

/-- The accessories in the order of the loops; buses start with 1. -/
def GaLocks.places (locks : GaLocks) : List Place :=
  (List.range' 1 locks.numBuses).flatMap fun bus =>
    (List.range' 1 (locks.numberOfGa bus)).map fun (addr : Nat) => (bus, (addr : Int))

/-- An operation on one record. -/
def GaLocks.apply (operation : Operation) (locks : GaLocks) (place : Place) : GaLocks :=
  let result := operation place (locks.gastate place)
  { locks with
    gastate := Function.update locks.gastate place result.1
    messages := locks.messages ++ result.2 }

/-- An operation on one record behind the other. -/
def GaLocks.sweep (operation : Operation) (locks : GaLocks) : GaLocks :=
  let result := Transition.sweep operation locks.places locks.gastate
  { locks with
    gastate := result.1
    messages := locks.messages ++ result.2 }

/-- What the sessions and the clock do to the locks. -/
inductive LockAction
  | setLock (place : Place) (sessionid : Nat) (duration : BitVec 64)
  | termLock (place : Place) (sessionid : Nat)
  | termGA (place : Place) (sessionid : Nat)
  | initGA (place : Place)
  | stopSession (sessionid : Nat)
  | tick

/-- The session of an action. -/
def LockAction.session : LockAction → Option Nat
  | .setLock _ sessionid _ => some sessionid
  | .termLock _ sessionid => some sessionid
  | .termGA _ sessionid => some sessionid
  | .initGA _ => none
  | .stopSession sessionid => some sessionid
  | .tick => none

/-- Sessions are counted from 1, and one that has ended does nothing more. -/
def GaLocks.speaks (locks : GaLocks) (action : LockAction) : Bool :=
  action.session.all fun sessionid => sessionid != 0 && !locks.ended sessionid

/-- What an action does to the records. -/
def GaLocks.act (locks : GaLocks) : LockAction → GaLocks
  | .setLock place sessionid duration => locks.apply (lockGA duration sessionid) place
  | .termLock place sessionid => locks.apply (unlockGA sessionid) place
  | .termGA place sessionid => locks.apply (handleTermGA sessionid) place
  | .initGA place => locks.apply Lock.initGA place
  | .stopSession sessionid =>
      let swept := locks.sweep (unlockGaBysessionid sessionid)
      { swept with ended := Function.update swept.ended sessionid true }
  | .tick => locks.sweep unlockGaBytime

/-! ## What has to hold -/

/-- The records and the timed locks beside them. -/
structure Watched where
  locks : GaLocks
  timed : Place → TimedLock

/-- What an action does to the timed locks. -/
def Watched.next (watched : Watched) : LockAction → Place → TimedLock
  | .setLock place sessionid duration =>
      Function.update watched.timed place
        ((watched.timed place).take sessionid duration.toInt)
  | .termLock place sessionid =>
      Function.update watched.timed place ((watched.timed place).release sessionid)
  | .termGA place sessionid =>
      Function.update watched.timed place ((watched.timed place).release sessionid)
  | .initGA _ => watched.timed
  | .stopSession sessionid => fun place =>
      if place ∈ watched.locks.places then (watched.timed place).release sessionid
      else watched.timed place
  | .tick => fun place =>
      if place ∈ watched.locks.places then (watched.timed place).tick else watched.timed place

/-- An action of a session that is not there is none. -/
def watchedStep : Step Watched LockAction := fun watched action =>
  if watched.locks.speaks action then some ⟨watched.locks.act action, watched.next action⟩
  else none

/-- The holder is the holder of the timed lock, the messages tell it, it is no session
that has ended, and no action of another session changes it. -/
structure Lawful (watched : Watched) : Prop where
  timed : ∀ place ∈ watched.locks.places,
    (watched.locks.gastate place).lockedBy = (watched.timed place).holder
  told : ∀ place ∈ watched.locks.places,
    replay watched.locks.messages place = (watched.locks.gastate place).lockedBy
  living : ∀ place ∈ watched.locks.places, ∀ sessionid, watched.locks.ended sessionid = true →
    (watched.locks.gastate place).lockedBy ≠ sessionid
  kept : ∀ place ∈ watched.locks.places, (watched.locks.gastate place).lockedBy ≠ 0 →
    ∀ action sessionid next, action.session = some sessionid →
      (watched.locks.gastate place).lockedBy ≠ sessionid →
        watchedStep watched action = some next →
          (next.locks.gastate place).lockedBy = (watched.locks.gastate place).lockedBy

/-- A tick does not find a lock that has been held for `2 ^ 63 - 1` of them. -/
def Early (watched : Watched) (action : LockAction) : Prop :=
  action = .tick → ∀ place held, watched.timed place = some held → held.ticks + 1 < 2 ^ 63

/-- Nothing is locked, and nothing was announced. -/
structure Initial (watched : Watched) : Prop where
  free : ∀ place, (watched.locks.gastate place).lockedBy = 0
  untimed : ∀ place, watched.timed place = none
  silent : watched.locks.messages = []
  living : ∀ sessionid, watched.locks.ended sessionid = false

/-! ## One record -/

/-- The counter is what is left of a duration, in 64 bits. -/
structure Counts (counter : BitVec 64) (held : Held) : Prop where
  low : -2 ^ 63 ≤ held.duration
  high : held.duration < 2 ^ 63
  counted : counter = BitVec.ofInt 64 (held.duration - held.ticks)
  before : 0 < held.duration → held.ticks < held.duration

/-- The record of an accessory is what the timed lock says. -/
structure Agrees (lock : GaLock) (timed : TimedLock) : Prop where
  holder : lock.lockedBy = timed.holder
  counter : ∀ held, timed = some held → held.sessionid ≠ 0 ∧ Counts lock.lockduration held

section Counters

variable {counter : BitVec 64} {held : Held}

theorem counts_taken (duration : BitVec 64) (sessionid : Nat) :
    Counts duration ⟨sessionid, duration.toInt, 0⟩ := by
  constructor
  · exact BitVec.le_toInt duration
  · exact BitVec.toInt_lt
  · rw [Nat.cast_zero, sub_zero, BitVec.ofInt_toInt]
  · exact id

/-- The counter is 1 at the last tick, and, for want of ticks, only there. -/
theorem Counts.one_iff (counts : Counts counter held) (early : held.ticks + 1 < 2 ^ 63) :
    counter = 1 ↔ held.duration = held.ticks + 1 := by
  have low := counts.low
  have high := counts.high
  rw [counts.counted]
  constructor
  · intro same
    have value : (held.duration - held.ticks).bmod (2 ^ 64) = 1 := by
      rw [← BitVec.toInt_ofInt, same]
      rfl
    rw [Int.bmod_eq_emod] at value
    split at value <;> omega
  · intro last
    have left : held.duration - held.ticks = 1 := by omega
    rw [left]
    rfl

theorem Counts.tick (counts : Counts counter held)
    (goesOn : held.duration ≠ held.ticks + 1) :
    Counts (counter - 1) { held with ticks := held.ticks + 1 } := by
  constructor
  · exact counts.low
  · exact counts.high
  · have left : held.duration - (held.ticks + 1 : Nat) = held.duration - held.ticks + -1 := by
      omega
    rw [counts.counted, left, BitVec.ofInt_add, BitVec.sub_eq_add_neg]
    rfl
  · intro positive
    have before := counts.before positive
    change ((held.ticks + 1 : Nat) : Int) < held.duration
    omega

end Counters

section Records

variable {lock : GaLock} {timed : TimedLock} {place : Place} {sessionid : Nat}
  {duration : BitVec 64}

theorem Agrees.free (agrees : Agrees lock timed) (zero : lock.lockedBy = 0) : timed = none := by
  cases timed with
  | none => rfl
  | some held => exact absurd (agrees.holder.symm.trans zero) (agrees.counter held rfl).1

theorem Agrees.of_free (zero : lock.lockedBy = 0) : Agrees lock none := by
  constructor
  · exact zero
  · intro held same
    cases same

theorem Agrees.lockGA (agrees : Agrees lock timed) (named : sessionid ≠ 0) :
    Agrees (lockGA duration sessionid place lock).1 (timed.take sessionid duration.toInt) := by
  rw [Lock.lockGA, TimedLock.take]
  by_cases isOpen : lock.lockedBy = sessionid ∨ lock.lockedBy = 0
  · rw [if_pos isOpen, if_pos (agrees.holder ▸ isOpen.symm)]
    constructor
    · rfl
    · intro held same
      cases same
      exact ⟨named, counts_taken duration sessionid⟩
  · rw [if_neg isOpen, if_neg fun isOpen' => isOpen (agrees.holder ▸ isOpen'.symm)]
    exact agrees

theorem Agrees.unlockGA (agrees : Agrees lock timed) :
    Agrees (unlockGA sessionid place lock).1 (timed.release sessionid) := by
  rw [Lock.unlockGA, TimedLock.release, ← agrees.holder]
  by_cases zero : lock.lockedBy = 0
  · rw [if_pos (Or.inl zero), agrees.free zero, ite_self]
    exact Agrees.of_free rfl
  · by_cases own : lock.lockedBy = sessionid
    · rw [if_pos (Or.inr own), if_pos own]
      exact Agrees.of_free rfl
    · rw [if_neg (not_or.mpr ⟨zero, own⟩), if_neg own]
      exact agrees

theorem termGA_lockedBy (zero : lock.lockedBy = 0) : (termGA lock).lockedBy = 0 := by
  rw [termGA]
  split
  · rfl
  · exact zero

theorem Agrees.handleTermGA (agrees : Agrees lock timed) :
    Agrees (handleTermGA sessionid place lock).1 (timed.release sessionid) := by
  rw [Lock.handleTermGA, TimedLock.release, ← agrees.holder]
  by_cases zero : lock.lockedBy = 0
  · rw [if_pos zero, agrees.free zero, ite_self]
    exact Agrees.of_free (termGA_lockedBy zero)
  · rw [if_neg zero]
    by_cases own : lock.lockedBy = sessionid
    · rw [if_pos own, if_pos own]
      apply Agrees.of_free
      apply termGA_lockedBy
      rw [Lock.unlockGA, if_pos (Or.inr own)]
    · rw [if_neg own, if_neg own]
      exact agrees

theorem Agrees.unlockGaBysessionid (agrees : Agrees lock timed) :
    Agrees (unlockGaBysessionid sessionid place lock).1 (timed.release sessionid) := by
  rw [Lock.unlockGaBysessionid]
  split
  · exact agrees.unlockGA
  · rename_i other
    rw [TimedLock.release_other (agrees.holder ▸ other)]
    exact agrees

theorem Agrees.unlockGaBytime (agrees : Agrees lock timed)
    (early : ∀ held, timed = some held → held.ticks + 1 < 2 ^ 63) :
    Agrees (unlockGaBytime place lock).1 timed.tick := by
  rw [Lock.unlockGaBytime]
  cases timed with
  | none =>
      have zero : lock.lockedBy = 0 := agrees.holder
      split
      · rw [Lock.unlockGA, if_pos (Or.inl zero)]
        exact Agrees.of_free rfl
      · exact Agrees.of_free zero
  | some held =>
      rcases agrees.counter held rfl with ⟨named, counts⟩
      have one := counts.one_iff (early held rfl)
      rw [TimedLock.tick]
      by_cases last : held.duration = held.ticks + 1
      · rw [if_pos (one.mpr last), if_pos last, Lock.unlockGA, if_pos (Or.inr rfl)]
        exact Agrees.of_free rfl
      · rw [if_neg fun same => last (one.mp same), if_neg last]
        constructor
        · exact agrees.holder
        · intro held' same
          cases same
          exact ⟨named, counts.tick last⟩

end Records

/-! ## What the messages tell -/

/-- The messages of an operation are about its record and tell what it does. -/
structure Tells (operation : Operation) : Prop where
  own : ∀ place lock, ((operation place lock).2).foldl (tell place) lock.lockedBy =
    (operation place lock).1.lockedBy
  others : ∀ place lock other holder, other ≠ place →
    ((operation place lock).2).foldl (tell other) holder = holder

section Messages

variable {place : Place} {sessionid : Nat} {duration : BitVec 64}

theorem tells_lockGA : Tells (lockGA duration sessionid) := by
  constructor
  · intro place lock
    rw [lockGA]
    split
    · exact if_pos rfl
    · rfl
  · intro place lock other holder differ
    rw [lockGA]
    split
    · exact tell_held_other differ
    · rfl

theorem tells_unlockGA : Tells (unlockGA sessionid) := by
  constructor
  · intro place lock
    rw [unlockGA]
    split
    · exact if_pos rfl
    · rfl
  · intro place lock other holder differ
    rw [unlockGA]
    split
    · exact tell_free_other differ
    · rfl

theorem tells_handleTermGA : Tells (handleTermGA sessionid) := by
  constructor
  · intro place lock
    rw [handleTermGA]
    split
    · rename_i zero
      exact zero.trans (termGA_lockedBy zero).symm
    · split
      · rename_i own
        have told : ((unlockGA sessionid place lock).2).foldl (tell place) lock.lockedBy =
            (unlockGA sessionid place lock).1.lockedBy := tells_unlockGA.own place lock
        have freed : (unlockGA sessionid place lock).1.lockedBy = 0 := by
          rw [unlockGA, if_pos (Or.inr own)]
        exact (told.trans freed).trans (termGA_lockedBy freed).symm
      · rfl
  · intro place lock other holder differ
    rw [handleTermGA]
    split
    · rfl
    · split
      · exact tells_unlockGA.others place lock other holder differ
      · rfl

theorem tells_unlockGaBysessionid : Tells (unlockGaBysessionid sessionid) := by
  constructor
  · intro place lock
    rw [unlockGaBysessionid]
    split
    · exact tells_unlockGA.own place lock
    · rfl
  · intro place lock other holder differ
    rw [unlockGaBysessionid]
    split
    · exact tells_unlockGA.others place lock other holder differ
    · rfl

theorem tells_unlockGaBytime : Tells unlockGaBytime := by
  constructor
  · intro place lock
    rw [unlockGaBytime]
    split
    · exact tells_unlockGA.own place { lock with lockduration := lock.lockduration - 1 }
    · rfl
  · intro place lock other holder differ
    rw [unlockGaBytime]
    split
    · exact tells_unlockGA.others place _ other holder differ
    · rfl

theorem tells_initGA : Tells initGA := by
  constructor
  · intro place lock
    rfl
  · intro place lock other holder differ
    rfl

end Messages

/-! ## All records -/

section Tables

variable {locks : GaLocks} {place : Place} {operation : Operation}

theorem places_nodup : locks.places.Nodup := by
  rw [GaLocks.places, List.nodup_flatMap]
  constructor
  · intro bus _
    refine List.Nodup.map ?_ (List.nodup_range' 1)
    intro first second same
    exact Int.ofNat_inj.mp (congrArg Prod.snd same)
  · refine (List.nodup_range' 1).imp ?_
    intro first second differ
    rw [Function.onFun, List.disjoint_left]
    rintro place mem mem'
    rcases List.mem_map.mp mem with ⟨addr, -, rfl⟩
    rcases List.mem_map.mp mem' with ⟨addr', -, same⟩
    exact differ (congrArg Prod.fst same).symm

theorem sweep_gastate : (locks.sweep operation).gastate place =
    if place ∈ locks.places then (operation place (locks.gastate place)).1
    else locks.gastate place :=
  sweep_table places_nodup

/-- The messages so far tell the holder of every record. -/
def GaLocks.Told (locks : GaLocks) : Prop :=
  ∀ place, replay locks.messages place = (locks.gastate place).lockedBy

theorem GaLocks.Told.apply (told : locks.Told) (tells : Tells operation) :
    (locks.apply operation place).Told := by
  intro other
  rw [replay, GaLocks.apply, List.foldl_append]
  change ((operation place (locks.gastate place)).2).foldl (tell other)
    (replay locks.messages other) = _
  rw [told other]
  by_cases same : other = place
  · subst same
    simp only [tells.own, Function.update_self]
  · simp only [tells.others place _ other _ same, Function.update_of_ne same]

theorem GaLocks.Told.sweep (told : locks.Told) (tells : Tells operation) :
    (locks.sweep operation).Told := by
  intro other
  rw [replay, GaLocks.sweep, List.foldl_append]
  change List.foldl (tell other) (replay locks.messages other) _ = _
  rw [told other]
  exact sweep_reads GaLock.lockedBy places_nodup (tells.own other _)
    fun place differ lock holder => tells.others place lock other holder differ.symm

end Tables

/-! ## Runs -/

/-- The records agree with the timed locks. -/
structure Watched.Inv (watched : Watched) : Prop where
  agrees : ∀ place ∈ watched.locks.places,
    Agrees (watched.locks.gastate place) (watched.timed place)
  told : watched.locks.Told
  named : watched.locks.ended 0 = false
  living : ∀ place ∈ watched.locks.places, ∀ sessionid, watched.locks.ended sessionid = true →
    (watched.locks.gastate place).lockedBy ≠ sessionid

section Steps

variable {watched next : Watched} {action : LockAction} {place : Place} {operation : Operation}
  {sessionid : Nat}

theorem Initial.inv (initial : Initial watched) : watched.Inv := by
  constructor
  · intro place _
    rw [initial.untimed]
    exact Agrees.of_free (initial.free place)
  · intro place
    rw [initial.silent, initial.free]
    rfl
  · exact initial.living 0
  · intro place _ sessionid ended
    rw [initial.living] at ended
    cases ended

/-- Nobody who has ended holds what becomes free, stays as it is, or is taken by a
living session. -/
theorem living_of_holder {lock next : GaLock} {ended : Nat → Bool} (named : ended 0 = false)
    (living : ∀ other, ended other = true → lock.lockedBy ≠ other)
    (holder : next.lockedBy = 0 ∨ next.lockedBy = lock.lockedBy ∨ ended next.lockedBy = false) :
    ∀ other, ended other = true → next.lockedBy ≠ other := by
  rintro other isEnded rfl
  rcases holder with zero | same | alive
  · rw [zero, named] at isEnded
    cases isEnded
  · exact living next.lockedBy isEnded same.symm
  · rw [alive] at isEnded
    cases isEnded

/-- An operation on one record. -/
theorem Watched.Inv.apply {timed : TimedLock} (inv : watched.Inv) (tells : Tells operation)
    (agrees : Agrees (watched.locks.gastate place) (watched.timed place) →
      Agrees (operation place (watched.locks.gastate place)).1 timed)
    (holder : timed.holder = 0 ∨ timed.holder = (watched.timed place).holder ∨
      watched.locks.ended timed.holder = false) :
    Watched.Inv ⟨watched.locks.apply operation place,
      Function.update watched.timed place timed⟩ := by
  constructor
  · intro other mem
    by_cases same : other = place
    · subst same
      simp only [GaLocks.apply, Function.update_self]
      exact agrees (inv.agrees other mem)
    · simp only [GaLocks.apply, Function.update_of_ne same]
      exact inv.agrees other mem
  · exact inv.told.apply tells
  · exact inv.named
  · intro other mem
    by_cases same : other = place
    · subst same
      have before := inv.agrees other mem
      simp only [GaLocks.apply, Function.update_self]
      refine living_of_holder inv.named (inv.living other mem) ?_
      rw [(agrees before).holder, before.holder]
      exact holder
    · simp only [GaLocks.apply, Function.update_of_ne same]
      exact inv.living other mem

/-- The loop over all records. -/
theorem Watched.Inv.sweep {change : TimedLock → TimedLock} (inv : watched.Inv)
    (tells : Tells operation)
    (agrees : ∀ place ∈ watched.locks.places,
      Agrees (watched.locks.gastate place) (watched.timed place) →
        Agrees (operation place (watched.locks.gastate place)).1 (change (watched.timed place)))
    (holder : ∀ timed, (change timed).holder = 0 ∨ (change timed).holder = timed.holder) :
    Watched.Inv ⟨watched.locks.sweep operation, fun place =>
      if place ∈ watched.locks.places then change (watched.timed place)
      else watched.timed place⟩ := by
  have places : (watched.locks.sweep operation).places = watched.locks.places :=
    rfl
  have ended : (watched.locks.sweep operation).ended = watched.locks.ended :=
    rfl
  constructor
  · intro place mem
    rw [places] at mem
    dsimp only
    rw [sweep_gastate, if_pos mem, if_pos mem]
    exact agrees place mem (inv.agrees place mem)
  · exact inv.told.sweep tells
  · dsimp only
    rw [ended]
    exact inv.named
  · intro place mem
    rw [places] at mem
    have before := inv.agrees place mem
    dsimp only
    rw [ended, sweep_gastate, if_pos mem]
    refine living_of_holder inv.named (inv.living place mem) ?_
    rw [(agrees place mem before).holder, before.holder]
    rcases holder (watched.timed place) with zero | same
    · exact Or.inl zero
    · exact Or.inr (Or.inl same)

theorem speaks_session (speaks : watched.locks.speaks action = true)
    (session : action.session = some sessionid) :
    sessionid ≠ 0 ∧ watched.locks.ended sessionid = false := by
  rw [GaLocks.speaks, session] at speaks
  simpa using speaks

/-- A session that ends holds nothing behind the loop. -/
theorem Watched.Inv.stopSession (inv : watched.Inv) (named : sessionid ≠ 0) :
    Watched.Inv ⟨watched.locks.act (.stopSession sessionid),
      watched.next (.stopSession sessionid)⟩ := by
  have swept : Watched.Inv ⟨watched.locks.sweep (unlockGaBysessionid sessionid),
      watched.next (.stopSession sessionid)⟩ :=
    inv.sweep tells_unlockGaBysessionid (fun place _ agrees => agrees.unlockGaBysessionid)
      fun timed => TimedLock.holder_release
  have places : (watched.locks.sweep (unlockGaBysessionid sessionid)).places =
      watched.locks.places := rfl
  constructor
  · exact swept.agrees
  · exact swept.told
  · change Function.update (watched.locks.sweep (unlockGaBysessionid sessionid)).ended
      sessionid true 0 = false
    rw [Function.update_of_ne named.symm]
    exact swept.named
  · intro place mem other isEnded
    by_cases own : other = sessionid
    · subst own
      have mem' : place ∈ watched.locks.places := by rwa [← places]
      have released : watched.next (.stopSession other) place =
          (watched.timed place).release other := if_pos mem'
      have holder : ((watched.locks.act (.stopSession other)).gastate place).lockedBy =
          (watched.next (.stopSession other) place).holder := (swept.agrees place mem).holder
      rw [holder, released]
      exact TimedLock.release_ne named
    · refine swept.living place mem other ?_
      have before : Function.update (watched.locks.sweep (unlockGaBysessionid sessionid)).ended
        sessionid true other = true := isEnded
      rwa [Function.update_of_ne own] at before

theorem Watched.Inv.step (inv : watched.Inv) (early : Early watched action)
    (taken : watchedStep watched action = some next) : next.Inv := by
  rw [watchedStep] at taken
  split at taken
  · rename_i speaks
    cases taken
    cases action with
    | setLock place sessionid duration =>
        have alive := speaks_session speaks rfl
        refine inv.apply tells_lockGA (fun agrees => agrees.lockGA alive.1) ?_
        have holder : ((watched.timed place).take sessionid duration.toInt).holder = sessionid ∨
            ((watched.timed place).take sessionid duration.toInt).holder =
              (watched.timed place).holder := TimedLock.holder_take
        rcases holder with own | same
        · right
          right
          rw [own]
          exact alive.2
        · exact Or.inr (Or.inl same)
    | termLock place sessionid =>
        refine inv.apply tells_unlockGA (fun agrees => agrees.unlockGA) ?_
        exact TimedLock.holder_release.imp id Or.inl
    | termGA place sessionid =>
        refine inv.apply tells_handleTermGA (fun agrees => agrees.handleTermGA) ?_
        exact TimedLock.holder_release.imp id Or.inl
    | initGA place =>
        have applied : Watched.Inv ⟨watched.locks.apply Lock.initGA place,
            Function.update watched.timed place (watched.timed place)⟩ :=
          inv.apply tells_initGA (fun agrees => ⟨agrees.holder, agrees.counter⟩)
            (Or.inr (Or.inl rfl))
        rw [Function.update_eq_self] at applied
        exact applied
    | stopSession sessionid => exact inv.stopSession (speaks_session speaks rfl).1
    | tick =>
        refine inv.sweep tells_unlockGaBytime ?_ fun timed => TimedLock.holder_tick
        intro place mem agrees
        exact agrees.unlockGaBytime (early rfl place)
  · cases taken

/-- An action of another session. -/
theorem next_other {holder : Nat} (session : action.session = some sessionid)
    (held : (watched.timed place).holder = holder) (some : holder ≠ 0)
    (foreign : holder ≠ sessionid) : watched.next action place = watched.timed place := by
  subst held
  cases action with
  | setLock place' other duration =>
      cases session
      by_cases same : place = place'
      · subst same
        exact (Function.update_self _ _ _).trans (TimedLock.take_other some foreign)
      · exact Function.update_of_ne same _ _
  | termLock place' other =>
      cases session
      by_cases same : place = place'
      · subst same
        exact (Function.update_self _ _ _).trans (TimedLock.release_other foreign)
      · exact Function.update_of_ne same _ _
  | termGA place' other =>
      cases session
      by_cases same : place = place'
      · subst same
        exact (Function.update_self _ _ _).trans (TimedLock.release_other foreign)
      · exact Function.update_of_ne same _ _
  | initGA place' => cases session
  | stopSession other =>
      cases session
      change (if place ∈ watched.locks.places then (watched.timed place).release sessionid
        else watched.timed place) = watched.timed place
      rw [TimedLock.release_other foreign, ite_self]
  | tick => cases session

theorem act_places : (watched.locks.act action).places = watched.locks.places := by
  cases action with
  | stopSession sessionid => exact rfl
  | tick => exact rfl
  | _ => rfl

theorem Watched.Inv.lawful (inv : watched.Inv) : Lawful watched := by
  refine ⟨fun place mem => (inv.agrees place mem).holder, fun place _ => inv.told place,
    inv.living, ?_⟩
  intro place mem held action sessionid next session foreign taken
  have early : Early watched action := by
    rintro rfl
    cases session
  have after := inv.step early taken
  have holder := (inv.agrees place mem).holder
  rw [watchedStep] at taken
  split at taken
  · cases taken
    have mem' : place ∈ (watched.locks.act action).places := by rwa [act_places]
    have agrees := (after.agrees place mem').holder
    have same := next_other session holder.symm held foreign
    exact (agrees.trans (congrArg TimedLock.holder same)).trans holder.symm
  · cases taken

end Steps

/-! ## Ticks -/

/-- Whether an action is a tick. -/
def LockAction.isTick : LockAction → Bool
  | .tick => true
  | _ => false

/-- No lock has been held for more than so many ticks. -/
def Watched.Young (watched : Watched) (ticks : Nat) : Prop :=
  ∀ place held, watched.timed place = some held → held.ticks ≤ ticks

section Ticks

variable {watched next : Watched} {action : LockAction} {timed : TimedLock} {held : Held}
  {sessionid ticks : Nat} {duration : Int}

theorem ticks_take (young : ∀ held, timed = some held → held.ticks ≤ ticks)
    (same : timed.take sessionid duration = some held) : held.ticks ≤ ticks := by
  rw [TimedLock.take] at same
  split at same
  · cases same
    exact Nat.zero_le ticks
  · exact young held same

theorem ticks_release (young : ∀ held, timed = some held → held.ticks ≤ ticks)
    (same : timed.release sessionid = some held) : held.ticks ≤ ticks := by
  rw [TimedLock.release] at same
  split at same
  · cases same
  · exact young held same

theorem ticks_tick (young : ∀ held, timed = some held → held.ticks ≤ ticks)
    (same : timed.tick = some held) : held.ticks ≤ ticks + 1 := by
  cases timed with
  | none => cases same
  | some before =>
      have before := young before rfl
      rw [TimedLock.tick] at same
      split at same
      · cases same
      · cases same
        exact Nat.succ_le_succ before

/-- Only a tick makes the locks older. -/
theorem Watched.Young.step (young : watched.Young ticks)
    (taken : watchedStep watched action = some next) :
    next.Young (ticks + if action.isTick then 1 else 0) := by
  rw [watchedStep] at taken
  split at taken
  · cases taken
    intro place held same
    change watched.next action place = some held at same
    have update : ∀ {place' : Place} {timed : TimedLock},
        (∀ held, timed = some held → held.ticks ≤ ticks) →
          Function.update watched.timed place' timed place = some held → held.ticks ≤ ticks := by
      intro place' timed young' same
      by_cases here : place = place'
      · subst here
        rw [Function.update_self] at same
        exact young' held same
      · rw [Function.update_of_ne here] at same
        exact young place held same
    cases action with
    | setLock place' sessionid duration =>
        exact update (fun _ same => ticks_take (young place') same) same
    | termLock place' sessionid =>
        exact update (fun _ same => ticks_release (young place') same) same
    | termGA place' sessionid =>
        exact update (fun _ same => ticks_release (young place') same) same
    | initGA place' => exact young place held same
    | stopSession sessionid =>
        dsimp only [Watched.next] at same
        split at same
        · exact ticks_release (young place) same
        · exact young place held same
    | tick =>
        dsimp only [Watched.next] at same
        split at same
        · exact ticks_tick (young place) same
        · exact Nat.le_succ_of_le (young place held same)
  · cases taken

/-- A run of fewer than `2 ^ 63` ticks never finds an older lock. -/
theorem meetsAlong_early {actions : List LockAction} (young : watched.Young ticks)
    (few : ticks + actions.countP LockAction.isTick < 2 ^ 63) :
    MeetsAlong watchedStep Early watched actions := by
  induction actions generalizing watched ticks with
  | nil => trivial
  | cons action actions ih =>
      intro next taken
      rw [List.countP_cons] at few
      constructor
      · rintro rfl place held same
        have before := young place held same
        change ticks + (actions.countP LockAction.isTick + 1) < 2 ^ 63 at few
        omega
      · apply ih (young.step taken)
        omega

theorem Initial.young (initial : Initial watched) : watched.Young 0 := by
  intro place held same
  rw [initial.untimed] at same
  cases same

end Ticks

/-- Holder and counter do what the timed lock does. -/
theorem lawful_of_fewTicks (start : Watched) (initial : Initial start)
    (actions : List LockAction) (few : actions.countP LockAction.isTick < 2 ^ 63) :
    HoldsAlong watchedStep Lawful start actions := by
  apply holdsAlong_of_meets (fun _ inv => inv.lawful)
    (fun _ _ _ inv early taken => inv.step early taken) initial.inv
  apply meetsAlong_early initial.young
  rwa [Nat.zero_add]

/-! ## One accessory -/

/-- One bus with one accessory that nobody has locked. -/
def oneAccessory : Watched where
  locks :=
    { numBuses := 1
      numberOfGa := fun _ => 1
      gastate := fun _ => ⟨0, 0, true⟩
      ended := fun _ => false
      messages := [] }
  timed := fun _ => none

theorem oneAccessory_initial : Initial oneAccessory :=
  ⟨fun _ => rfl, fun _ => rfl, rfl, fun _ => rfl⟩

/-- A lock for two ticks. -/
theorem lawful_of_fewTicks_twoTicks :
    HoldsAlong watchedStep Lawful oneAccessory [.setLock (1, 1) 1 2, .tick, .tick] :=
  lawful_of_fewTicks oneAccessory oneAccessory_initial _ (by decide)

end Srcpd.Lock
