import Srcpd.Lock.Timed
import Srcpd.Transition.Sweep

/-!
# Locks of locomotives

Holder and counter of a lock are fields of the bus, not of the locomotive, and a tick
counts down once for every address.  Both are compared with a timed lock for each
locomotive.

`glLawful_of_meets`: they agree in every run in which a locomotive is only locked while
it is the only one of its bus, and for a time that one tick cannot cut short.
-/

namespace Srcpd.Lock

open Srcpd.Transition

/-! ## The record of a bus -/

/-- What a bus keeps about its locomotives and their one lock. -/
structure GlBus where
  numberOfGl : Nat
  living : Int → Bool
  lockedBy : Nat
  lockduration : Int

/-- `isInitializedGL`, which is false for an address out of range. -/
def GlBus.isInitializedGL (gl : GlBus) (addr : Int) : Bool :=
  (0 < addr && addr ≤ gl.numberOfGl) && gl.living addr

/-- What an operation does to one bus, and what it announces. -/
abbrev GlOperation := Nat → GlBus → GlBus × List LockMessage

/-- Takes or refreshes the lock of the bus. -/
def cacheLockGL (addr duration : Int) (sessionid : Nat) : GlOperation := fun bus gl =>
  if gl.isInitializedGL addr ∧ (gl.lockedBy = sessionid ∨ gl.lockedBy = 0) then
    ({ gl with lockedBy := sessionid, lockduration := duration }, [.held (bus, addr) sessionid])
  else (gl, [])

/-- Gives the lock of the bus back. -/
def cacheUnlockGL (addr : Int) (sessionid : Nat) : GlOperation := fun bus gl =>
  if gl.isInitializedGL addr ∧ (gl.lockedBy = 0 ∨ gl.lockedBy = sessionid) then
    ({ gl with lockedBy := 0 }, [.free (bus, addr)])
  else (gl, [])

/-- The locomotive is no longer initialised; the lock of the bus stays. -/
def cacheTermGL (addr : Int) (gl : GlBus) : GlBus :=
  if gl.isInitializedGL addr then { gl with living := Function.update gl.living addr false }
  else gl

/-- `garbage` is what `lockid` contains when nothing is stored in it. -/
def handleTermGL (addr : Int) (sessionid garbage : Nat) : GlOperation := fun bus gl =>
  let lockid := if gl.isInitializedGL addr then gl.lockedBy else garbage
  if lockid = 0 then (cacheTermGL addr gl, [])
  else if lockid = sessionid then
    -- an unlock that is refused is the end of the command
    if gl.isInitializedGL addr then
      let unlocked := cacheUnlockGL addr sessionid bus gl
      (cacheTermGL addr unlocked.1, unlocked.2)
    else (gl, [])
  else (gl, [])

/-- The locomotive is initialised. -/
def cacheInitGL (addr : Int) : GlOperation := fun _ gl =>
  ({ gl with living := Function.update gl.living addr true }, [])

/-- A loop over addresses. -/
def glLoop (body : Int → GlOperation) : List Int → GlOperation
  | [], _, gl => (gl, [])
  | addr :: addrs, bus, gl =>
      let result := body addr bus gl
      let rest := glLoop body addrs bus result.1
      (rest.1, result.2 ++ rest.2)

/-- The addresses in the order of the loops. -/
def GlBus.addresses (gl : GlBus) : List Int :=
  (List.range' 1 gl.numberOfGl).map fun (addr : Nat) => (addr : Int)

/-- The body of the loop of `unlock_gl_bysessionid`. -/
def sessionBody (sessionid : Nat) (addr : Int) : GlOperation := fun bus gl =>
  if gl.lockedBy = sessionid then cacheUnlockGL addr sessionid bus gl else (gl, [])

/-- `unlock_gl_bysessionid` at one bus. -/
def unlockGlBysessionid (sessionid : Nat) : GlOperation := fun bus gl =>
  glLoop (sessionBody sessionid) gl.addresses bus gl

/-- The body of the loop of `unlock_gl_bytime`, which counts down the counter of the bus. -/
def timeBody (addr : Int) : GlOperation := fun bus gl =>
  if 0 < gl.lockduration then
    let counted := { gl with lockduration := gl.lockduration - 1 }
    if gl.lockduration = 1 then cacheUnlockGL addr counted.lockedBy bus counted
    else (counted, [])
  else (gl, [])

/-- `unlock_gl_bytime` at one bus. -/
def unlockGlBytime : GlOperation := fun bus gl =>
  glLoop timeBody gl.addresses bus gl

/-! ## All buses -/

/-- All buses, and all messages so far. -/
structure GlLocks where
  numBuses : Nat
  gl : Nat → GlBus
  messages : List LockMessage

/-- An operation on one bus. -/
def GlLocks.apply (operation : GlOperation) (locks : GlLocks) (bus : Nat) : GlLocks :=
  let result := operation bus (locks.gl bus)
  { locks with
    gl := Function.update locks.gl bus result.1
    messages := locks.messages ++ result.2 }

/-- The loops start with bus 0. -/
def GlLocks.buses (locks : GlLocks) : List Nat :=
  List.range (locks.numBuses + 1)

/-- An operation on one bus behind the other. -/
def GlLocks.sweep (operation : GlOperation) (locks : GlLocks) : GlLocks :=
  let result := Transition.sweep operation locks.buses locks.gl
  { locks with
    gl := result.1
    messages := locks.messages ++ result.2 }

/-- What the sessions and the clock do to the locks. -/
inductive GlAction
  | setLock (place : Place) (sessionid : Nat) (duration : Int)
  | termLock (place : Place) (sessionid : Nat)
  | termGL (place : Place) (sessionid garbage : Nat)
  | initGL (place : Place)
  | stopSession (sessionid : Nat)
  | tick

/-- The session of an action. -/
def GlAction.session : GlAction → Option Nat
  | .setLock _ sessionid _ => some sessionid
  | .termLock _ sessionid => some sessionid
  | .termGL _ sessionid _ => some sessionid
  | .stopSession sessionid => some sessionid
  | _ => none

/-- What an action does to the buses. -/
def GlLocks.act (locks : GlLocks) : GlAction → GlLocks
  | .setLock place sessionid duration =>
      locks.apply (cacheLockGL place.2 duration sessionid) place.1
  | .termLock place sessionid => locks.apply (cacheUnlockGL place.2 sessionid) place.1
  | .termGL place sessionid garbage =>
      locks.apply (handleTermGL place.2 sessionid garbage) place.1
  | .initGL place => locks.apply (cacheInitGL place.2) place.1
  | .stopSession sessionid => locks.sweep (unlockGlBysessionid sessionid)
  | .tick => locks.sweep unlockGlBytime

/-- The holder that is reported for a locomotive, or 0. -/
def GlBus.holder (gl : GlBus) (addr : Int) : Nat :=
  if gl.isInitializedGL addr then gl.lockedBy else 0

/-! ## What has to hold -/

/-- The buses with a timed lock for each locomotive. -/
structure GlWatched where
  locks : GlLocks
  timed : Place → TimedLock

/-- What an action does to the timed locks. -/
def GlWatched.next (watched : GlWatched) : GlAction → Place → TimedLock
  | .setLock place sessionid duration =>
      if (watched.locks.gl place.1).isInitializedGL place.2 then
        Function.update watched.timed place ((watched.timed place).take sessionid duration)
      else watched.timed
  | .termLock place sessionid =>
      Function.update watched.timed place ((watched.timed place).release sessionid)
  | .termGL place sessionid _ =>
      Function.update watched.timed place ((watched.timed place).release sessionid)
  | .initGL _ => watched.timed
  | .stopSession sessionid => fun place =>
      if place.1 ∈ watched.locks.buses then (watched.timed place).release sessionid
      else watched.timed place
  | .tick => fun place =>
      if place.1 ∈ watched.locks.buses then (watched.timed place).tick else watched.timed place

/-- Sessions are counted from 1. -/
def glStep : Step GlWatched GlAction := fun watched action =>
  if action.session = some 0 then none else some ⟨watched.locks.act action, watched.next action⟩

/-- Holder and remaining time of every locomotive are those of its timed lock, and the
messages tell the holder. -/
structure GlLawful (watched : GlWatched) : Prop where
  timed : ∀ place, (watched.locks.gl place.1).holder place.2 = (watched.timed place).holder
  remaining : ∀ place held, watched.timed place = some held →
    (watched.locks.gl place.1).lockduration = held.remaining
  told : ∀ place, replay watched.locks.messages place =
    (watched.locks.gl place.1).holder place.2

/-- A locomotive is locked as the only one of its bus, without an end, or on a bus with
one address, or for one tick under the first address; and none is initialised beside
one that is locked. -/
def LocksAlone (watched : GlWatched) : GlAction → Prop
  | .setLock place sessionid duration =>
      let gl := watched.locks.gl place.1
      gl.isInitializedGL place.2 = true → gl.lockedBy = sessionid ∨ gl.lockedBy = 0 →
        (∀ other, gl.isInitializedGL other = true → other = place.2) ∧
          (duration ≤ 0 ∨ gl.numberOfGl = 1 ∨ duration = 1 ∧ place.2 = 1)
  | .initGL place =>
      let gl := watched.locks.gl place.1
      gl.isInitializedGL place.2 = true ∨ gl.lockedBy = 0
  | _ => True

/-- Nothing is locked, and nothing was announced. -/
structure GlInitial (watched : GlWatched) : Prop where
  free : ∀ bus, (watched.locks.gl bus).lockedBy = 0
  untimed : ∀ place, watched.timed place = none
  silent : watched.locks.messages = []

/-! ## One bus -/

/-- Nobody holds the lock of the bus. -/
structure Free (gl : GlBus) (timed : Int → TimedLock) : Prop where
  lockedBy : gl.lockedBy = 0
  timed : ∀ addr, timed addr = none

/-- The only locomotive of the bus is locked. -/
structure HeldAlone (gl : GlBus) (timed : Int → TimedLock) (addr : Int) (held : Held) :
    Prop where
  lockedBy : gl.lockedBy = held.sessionid
  named : held.sessionid ≠ 0
  initialized : gl.isInitializedGL addr = true
  alone : ∀ other, gl.isInitializedGL other = true → other = addr
  own : timed addr = some held
  others : ∀ other, other ≠ addr → timed other = none
  remaining : gl.lockduration = held.remaining
  kind : held.duration ≤ 0 ∨
    (0 < held.duration ∧ held.ticks < held.duration ∧ gl.numberOfGl = 1) ∨
    (held.duration = 1 ∧ addr = 1 ∧ held.ticks = 0)

/-- The lock of a bus is free, or it is the lock of the only locomotive. -/
inductive BusInv (gl : GlBus) (timed : Int → TimedLock) : Prop
  | free (free : Free gl timed)
  | held (addr : Int) (held : Held) (alone : HeldAlone gl timed addr held)

/-- What the operation announces, read for one address. -/
def Reads (bus : Nat) (gl : GlBus) (result : GlBus × List LockMessage) : Prop :=
  ∀ addr, result.2.foldl (tell (bus, addr)) (gl.holder addr) = result.1.holder addr

section Buses

variable {gl : GlBus} {timed : Int → TimedLock} {bus : Nat} {addr other : Int} {held : Held}
  {sessionid : Nat} {duration : Int}

theorem Free.holder (free : Free gl timed) : gl.holder addr = 0 := by
  rw [GlBus.holder, free.lockedBy, ite_self]

theorem HeldAlone.holder_own (alone : HeldAlone gl timed addr held) :
    gl.holder addr = held.sessionid := by
  rw [GlBus.holder, if_pos alone.initialized, alone.lockedBy]

theorem HeldAlone.holder_other (alone : HeldAlone gl timed addr held) (differ : other ≠ addr) :
    gl.holder other = 0 := by
  rw [GlBus.holder, if_neg fun initialized => differ (alone.alone other initialized)]

theorem BusInv.timed_holder (inv : BusInv gl timed) : gl.holder addr = (timed addr).holder := by
  cases inv with
  | free free => rw [free.holder, free.timed]; rfl
  | held addr' held alone =>
      by_cases same : addr = addr'
      · subst same
        rw [alone.holder_own, alone.own]
        rfl
      · rw [alone.holder_other same, alone.others addr same]
        rfl

theorem BusInv.remaining (inv : BusInv gl timed) (addr : Int) (some : timed addr = some held) :
    gl.lockduration = held.remaining := by
  cases inv with
  | free free =>
      rw [free.timed] at some
      cases some
  | held addr' held' alone =>
      by_cases same : addr = addr'
      · subst same
        rw [alone.own] at some
        cases some
        exact alone.remaining
      · rw [alone.others addr same] at some
        cases some

theorem reads_nothing : Reads bus gl (gl, []) := fun _ => rfl

/-- The only initialised locomotive is freed. -/
theorem reads_free (alone : ∀ other, other ≠ addr → gl.holder other = 0) {next : GlBus}
    (free : next.lockedBy = 0) : Reads bus gl (next, [.free (bus, addr)]) := by
  intro other
  have after : next.holder other = 0 := by
    rw [GlBus.holder, free, ite_self]
  rw [after]
  by_cases same : other = addr
  · subst same
    exact if_pos rfl
  · change tell (bus, other) (gl.holder other) (.free (bus, addr)) = 0
    rw [tell_free_other fun equal => same (congrArg Prod.snd equal)]
    exact alone other same

/-! ## The commands -/

theorem BusInv.lock (inv : BusInv gl timed) (bus : Nat) (named : sessionid ≠ 0)
    (alone : gl.isInitializedGL addr = true → gl.lockedBy = sessionid ∨ gl.lockedBy = 0 →
      (∀ other, gl.isInitializedGL other = true → other = addr) ∧
        (duration ≤ 0 ∨ gl.numberOfGl = 1 ∨ duration = 1 ∧ addr = 1)) :
    BusInv (cacheLockGL addr duration sessionid bus gl).1
        (if gl.isInitializedGL addr then
          Function.update timed addr ((timed addr).take sessionid duration) else timed) ∧
      Reads bus gl (cacheLockGL addr duration sessionid bus gl) := by
  rw [cacheLockGL]
  by_cases initialized : gl.isInitializedGL addr = true
  · rw [if_pos initialized]
    have holder : (timed addr).holder = gl.lockedBy := by
      rw [← inv.timed_holder, GlBus.holder, if_pos initialized]
    by_cases isOpen : gl.lockedBy = sessionid ∨ gl.lockedBy = 0
    · rcases alone initialized isOpen with ⟨only, kind⟩
      have taken : (timed addr).take sessionid duration = some ⟨sessionid, duration, 0⟩ := by
        rw [TimedLock.take, holder, if_pos isOpen.symm]
      have others : ∀ other, other ≠ addr → timed other = none := by
        intro other differ
        cases inv with
        | free free => exact free.timed other
        | held addr' held alone' =>
            have same : addr = addr' := alone'.alone addr initialized
            subst same
            exact alone'.others other differ
      rw [if_pos ⟨initialized, isOpen⟩, taken]
      constructor
      · refine .held addr ⟨sessionid, duration, 0⟩
          { lockedBy := rfl
            named := named
            initialized := initialized
            alone := only
            own := Function.update_self _ _ _
            others := ?_
            remaining := ?_
            kind := ?_ }
        · intro other differ
          rw [Function.update_of_ne differ]
          exact others other differ
        · simp [Held.remaining]
        · by_cases positive : 0 < duration
          · rcases kind with never | one | first
            · exact absurd positive (Int.not_lt.mpr never)
            · exact Or.inr (Or.inl ⟨positive, positive, one⟩)
            · exact Or.inr (Or.inr ⟨first.1, first.2, rfl⟩)
          · exact Or.inl (Int.not_lt.mp positive)
      · intro other
        by_cases same : other = addr
        · subst same
          change tell (bus, other) (gl.holder other) (.held (bus, other) sessionid) = _
          rw [tell, if_pos rfl, GlBus.holder]
          exact (if_pos initialized).symm
        · have dead : ¬ gl.isInitializedGL other = true := fun living => same (only other living)
          change tell (bus, other) (gl.holder other) (.held (bus, addr) sessionid) = _
          rw [tell_held_other fun equal => same (congrArg Prod.snd equal), GlBus.holder,
            if_neg dead, GlBus.holder]
          exact (if_neg dead).symm
    · have refused : (timed addr).take sessionid duration = timed addr := by
        rw [TimedLock.take, holder, if_neg fun isOpen' => isOpen isOpen'.symm]
      rw [if_neg fun both => isOpen both.2, refused, Function.update_eq_self]
      exact ⟨inv, reads_nothing⟩
  · rw [if_neg fun both => initialized both.1, if_neg initialized]
    exact ⟨inv, reads_nothing⟩

/-- Nothing is given back by a session that holds no lock of the locomotive. -/
theorem BusInv.release_other (inv : BusInv gl timed) (other : gl.holder addr ≠ sessionid) :
    Function.update timed addr ((timed addr).release sessionid) = timed := by
  rw [TimedLock.release_other (inv.timed_holder ▸ other), Function.update_eq_self]

/-- A lock that is free, or held by the session, is free when it is given back. -/
theorem BusInv.release (inv : BusInv gl timed) (initialized : gl.isInitializedGL addr = true)
    (isOpen : gl.lockedBy = 0 ∨ gl.lockedBy = sessionid) {next : GlBus} (free : next.lockedBy = 0) :
    BusInv next (Function.update timed addr ((timed addr).release sessionid)) ∧
      ∀ other, other ≠ addr → gl.holder other = 0 := by
  cases inv with
  | free untaken =>
      refine ⟨.free ⟨free, ?_⟩, fun other _ => untaken.holder⟩
      intro other
      by_cases same : other = addr
      · subst same
        rw [Function.update_self, untaken.timed, TimedLock.release, ite_self]
      · rw [Function.update_of_ne same]
        exact untaken.timed other
  | held addr' held alone =>
      have same : addr = addr' := alone.alone addr initialized
      subst same
      have own : held.sessionid = sessionid := by
        rcases isOpen with zero | own
        · exact absurd (alone.lockedBy.symm.trans zero) alone.named
        · exact alone.lockedBy.symm.trans own
      refine ⟨.free ⟨free, ?_⟩, fun other => alone.holder_other⟩
      intro other
      by_cases same : other = addr
      · subst same
        rw [Function.update_self, alone.own]
        exact if_pos own
      · rw [Function.update_of_ne same]
        exact alone.others other same

theorem BusInv.unlock (inv : BusInv gl timed) (bus : Nat) (addr : Int) (named : sessionid ≠ 0) :
    BusInv (cacheUnlockGL addr sessionid bus gl).1
        (Function.update timed addr ((timed addr).release sessionid)) ∧
      Reads bus gl (cacheUnlockGL addr sessionid bus gl) := by
  rw [cacheUnlockGL]
  by_cases effective : gl.isInitializedGL addr = true ∧
      (gl.lockedBy = 0 ∨ gl.lockedBy = sessionid)
  · rw [if_pos effective]
    have free : ({ gl with lockedBy := 0 } : GlBus).lockedBy = 0 := rfl
    have released := inv.release effective.1 effective.2 free
    exact ⟨released.1, reads_free released.2 free⟩
  · rw [if_neg effective, inv.release_other]
    · exact ⟨inv, reads_nothing⟩
    · rw [GlBus.holder]
      split
      · rename_i initialized
        intro own
        exact effective ⟨initialized, Or.inr own⟩
      · exact named.symm

theorem cacheTermGL_lockedBy : (cacheTermGL addr gl).lockedBy = gl.lockedBy := by
  rw [cacheTermGL]
  split <;> rfl

theorem BusInv.term (inv : BusInv gl timed) (bus : Nat) (addr : Int) (garbage : Nat)
    (named : sessionid ≠ 0) :
    BusInv (handleTermGL addr sessionid garbage bus gl).1
        (Function.update timed addr ((timed addr).release sessionid)) ∧
      Reads bus gl (handleTermGL addr sessionid garbage bus gl) := by
  rw [handleTermGL]
  by_cases initialized : gl.isInitializedGL addr = true
  · simp only [if_pos initialized]
    by_cases zero : gl.lockedBy = 0
    · rw [if_pos zero]
      have free : (cacheTermGL addr gl).lockedBy = 0 := cacheTermGL_lockedBy.trans zero
      refine ⟨(inv.release initialized (Or.inl zero) free).1, ?_⟩
      intro other
      change gl.holder other = (cacheTermGL addr gl).holder other
      rw [GlBus.holder, GlBus.holder, zero, free, ite_self, ite_self]
    · rw [if_neg zero]
      by_cases own : gl.lockedBy = sessionid
      · have effective : gl.isInitializedGL addr = true ∧
            (gl.lockedBy = 0 ∨ gl.lockedBy = sessionid) := ⟨initialized, Or.inr own⟩
        rw [if_pos own, cacheUnlockGL, if_pos effective]
        have free : (cacheTermGL addr { gl with lockedBy := 0 }).lockedBy = 0 :=
          cacheTermGL_lockedBy
        have released := inv.release initialized effective.2 free
        exact ⟨released.1, reads_free released.2 free⟩
      · rw [if_neg own, inv.release_other]
        · exact ⟨inv, reads_nothing⟩
        · rwa [GlBus.holder, if_pos initialized]
  · simp only [if_neg initialized]
    have dead : cacheTermGL addr gl = gl := by
      rw [cacheTermGL, if_neg initialized]
    rw [dead, ite_self, ite_self, inv.release_other]
    · exact ⟨inv, reads_nothing⟩
    · rw [GlBus.holder, if_neg initialized]
      exact named.symm

theorem BusInv.init (inv : BusInv gl timed)
    (alone : gl.isInitializedGL addr = true ∨ gl.lockedBy = 0) :
    BusInv (cacheInitGL addr bus gl).1 timed ∧ Reads bus gl (cacheInitGL addr bus gl) := by
  rw [cacheInitGL]
  cases inv with
  | free free =>
      refine ⟨.free ⟨free.lockedBy, free.timed⟩, ?_⟩
      intro other
      have after : Free { gl with living := Function.update gl.living addr true } timed :=
        ⟨free.lockedBy, free.timed⟩
      exact free.holder.trans after.holder.symm
  | held addr' held alone' =>
      have initialized : gl.isInitializedGL addr = true := by
        rcases alone with initialized | zero
        · exact initialized
        · exact absurd (alone'.lockedBy.symm.trans zero) alone'.named
      have living : gl.living addr = true := by
        rw [GlBus.isInitializedGL, Bool.and_eq_true] at initialized
        exact initialized.2
      have same : Function.update gl.living addr true = gl.living := by
        rw [← living, Function.update_eq_self]
      rw [same]
      exact ⟨.held addr' held alone', reads_nothing⟩

/-! ## The loops -/

theorem glLoop_idle {body : Int → GlOperation} (idle : ∀ addr, body addr bus gl = (gl, [])) :
    ∀ addrs, glLoop body addrs bus gl = (gl, []) := by
  intro addrs
  induction addrs with
  | nil => rfl
  | cons addr addrs ih => rw [glLoop, idle, ih, List.nil_append]

theorem mem_addresses (initialized : gl.isInitializedGL addr = true) : addr ∈ gl.addresses := by
  rw [GlBus.isInitializedGL, Bool.and_eq_true, Bool.and_eq_true, decide_eq_true_eq,
    decide_eq_true_eq] at initialized
  rw [GlBus.addresses, List.mem_map]
  refine ⟨addr.toNat, ?_, by omega⟩
  rw [List.mem_range'_1]
  omega

theorem HeldAlone.sessionLoop (alone : HeldAlone gl timed addr held) :
    ∀ addrs, addr ∈ addrs → glLoop (sessionBody held.sessionid) addrs bus gl =
      ({ gl with lockedBy := 0 }, [.free (bus, addr)]) := by
  intro addrs mem
  induction addrs with
  | nil => cases mem
  | cons first addrs ih =>
      rw [glLoop, sessionBody, if_pos alone.lockedBy, cacheUnlockGL]
      by_cases same : first = addr
      · subst same
        have idle : ∀ addrs, glLoop (sessionBody held.sessionid) addrs bus
            { gl with lockedBy := 0 } = ({ gl with lockedBy := 0 }, []) := by
          apply glLoop_idle
          intro addr
          rw [sessionBody, if_neg alone.named.symm]
        rw [if_pos ⟨alone.initialized, Or.inr alone.lockedBy⟩, idle]
        rfl
      · have dead : ¬ gl.isInitializedGL first = true := fun living => same (alone.alone _ living)
        rw [if_neg fun both => dead both.1]
        rcases List.mem_cons.mp mem with equal | behind
        · exact absurd equal.symm same
        · rw [ih behind, List.nil_append]

theorem BusInv.endSession (inv : BusInv gl timed) (named : sessionid ≠ 0) :
    BusInv (unlockGlBysessionid sessionid bus gl).1
        (fun addr => (timed addr).release sessionid) ∧
      Reads bus gl (unlockGlBysessionid sessionid bus gl) := by
  by_cases own : gl.lockedBy = sessionid
  · cases inv with
    | free free => exact absurd (own.symm.trans free.lockedBy) named
    | held addr held alone =>
        have same : held.sessionid = sessionid := alone.lockedBy.symm.trans own
        rw [unlockGlBysessionid, ← same, alone.sessionLoop _ (mem_addresses alone.initialized)]
        refine ⟨.free ⟨rfl, ?_⟩, reads_free (fun other => alone.holder_other) rfl⟩
        intro other
        by_cases equal : other = addr
        · subst equal
          rw [alone.own]
          exact if_pos rfl
        · rw [alone.others other equal, TimedLock.release, ite_self]
  · have idle : unlockGlBysessionid sessionid bus gl = (gl, []) := by
      apply glLoop_idle
      intro addr
      rw [sessionBody, if_neg own]
    have same : (fun addr => (timed addr).release sessionid) = timed := by
      funext addr
      apply TimedLock.release_other
      rw [← inv.timed_holder, GlBus.holder]
      split
      · exact own
      · exact named.symm
    rw [idle, same]
    exact ⟨inv, reads_nothing⟩

/-- A bus that nobody has locked counts down, and tells no more than that. -/
theorem timeLoop_free (free : gl.lockedBy = 0) :
    ∀ addrs, (glLoop timeBody addrs bus gl).1.lockedBy = 0 ∧
      ∀ addr, (glLoop timeBody addrs bus gl).2.foldl (tell (bus, addr)) 0 = 0 := by
  intro addrs
  induction addrs generalizing gl with
  | nil => exact ⟨free, fun _ => rfl⟩
  | cons first addrs ih =>
      have body : (timeBody first bus gl).1.lockedBy = 0 ∧
          ∀ addr, (timeBody first bus gl).2.foldl (tell (bus, addr)) 0 = 0 := by
        rw [timeBody]
        split
        · dsimp only
          split
          · rw [cacheUnlockGL]
            split
            · refine ⟨rfl, fun addr => ?_⟩
              change tell (bus, addr) 0 (.free (bus, first)) = 0
              rw [tell, ite_self]
            · exact ⟨free, fun _ => rfl⟩
          · exact ⟨free, fun _ => rfl⟩
        · exact ⟨free, fun _ => rfl⟩
      rcases ih body.1 with ⟨after, told⟩
      refine ⟨after, fun addr => ?_⟩
      rw [glLoop, List.foldl_append, body.2, told]

/-- The last tick of a lock under an address that the loop comes to first. -/
theorem HeldAlone.lastTick (alone : HeldAlone gl timed addr held) (one : gl.lockduration = 1)
    (addrs : List Int) : glLoop timeBody (addr :: addrs) bus gl =
      ({ gl with lockduration := 0, lockedBy := 0 }, [.free (bus, addr)]) := by
  have body : timeBody addr bus gl =
      ({ gl with lockduration := 0, lockedBy := 0 }, [.free (bus, addr)]) := by
    have positive : 0 < gl.lockduration := by omega
    have zero : gl.lockduration - 1 = 0 := by omega
    simp only [timeBody, if_pos positive, if_pos one, zero, cacheUnlockGL]
    exact if_pos ⟨alone.initialized, Or.inr trivial⟩
  have idle : ∀ addrs, glLoop timeBody addrs bus { gl with lockduration := 0, lockedBy := 0 } =
      ({ gl with lockduration := 0, lockedBy := 0 }, []) :=
    glLoop_idle fun addr => rfl
  rw [glLoop, body, idle]
  rfl

theorem HeldAlone.ended (alone : HeldAlone gl timed addr held)
    (last : held.duration = held.ticks + 1) (addrs : List Int)
    (first : gl.addresses = addr :: addrs)
    (one : gl.lockduration = 1) :
    BusInv (unlockGlBytime bus gl).1 (fun addr => (timed addr).tick) ∧
      Reads bus gl (unlockGlBytime bus gl) := by
  rw [unlockGlBytime, first, alone.lastTick one]
  refine ⟨.free ⟨rfl, ?_⟩, reads_free (fun other => alone.holder_other) rfl⟩
  intro other
  by_cases same : other = addr
  · subst same
    rw [alone.own]
    exact if_pos last
  · rw [alone.others other same]
    rfl

/-- A tick that is not the last one. -/
theorem HeldAlone.goesOn (alone : HeldAlone gl timed addr held)
    (more : held.duration ≠ held.ticks + 1) {counter : Int}
    (remaining : counter = ({ held with ticks := held.ticks + 1 } : Held).remaining)
    (kind : held.duration ≤ 0 ∨ (0 < held.duration ∧ gl.numberOfGl = 1 ∧
      ((held.ticks + 1 : Nat) : Int) < held.duration)) :
    BusInv { gl with lockduration := counter } (fun addr => (timed addr).tick) ∧
      Reads bus gl ({ gl with lockduration := counter }, []) := by
  refine ⟨.held addr { held with ticks := held.ticks + 1 }
    { lockedBy := alone.lockedBy
      named := alone.named
      initialized := alone.initialized
      alone := alone.alone
      own := ?_
      others := ?_
      remaining := remaining
      kind := ?_ }, fun _ => rfl⟩
  · rw [alone.own]
    exact if_neg more
  · intro other differ
    rw [alone.others other differ]
    rfl
  · rcases kind with never | ⟨positive, one, before⟩
    · exact Or.inl never
    · exact Or.inr (Or.inl ⟨positive, before, one⟩)

theorem addresses_one (one : gl.numberOfGl = 1) : gl.addresses = [1] := by
  rw [GlBus.addresses, one]
  rfl

theorem initialized_range (initialized : gl.isInitializedGL addr = true) :
    0 < addr ∧ addr ≤ gl.numberOfGl := by
  rw [GlBus.isInitializedGL, Bool.and_eq_true, Bool.and_eq_true, decide_eq_true_eq,
    decide_eq_true_eq] at initialized
  exact initialized.1

theorem addresses_first (initialized : gl.isInitializedGL 1 = true) :
    ∃ addrs, gl.addresses = 1 :: addrs := by
  rcases number : gl.numberOfGl with _ | count
  · have range := (initialized_range initialized).2
    rw [number] at range
    omega
  · rw [GlBus.addresses, number, List.range'_succ]
    exact ⟨_, rfl⟩

theorem BusInv.tick (inv : BusInv gl timed) :
    BusInv (unlockGlBytime bus gl).1 (fun addr => (timed addr).tick) ∧
      Reads bus gl (unlockGlBytime bus gl) := by
  cases inv with
  | free free =>
      have counted : (unlockGlBytime bus gl).1.lockedBy = 0 ∧
          ∀ addr, (unlockGlBytime bus gl).2.foldl (tell (bus, addr)) 0 = 0 :=
        timeLoop_free free.lockedBy gl.addresses
      have after : Free (unlockGlBytime bus gl).1 fun addr => (timed addr).tick := by
        refine ⟨counted.1, fun addr => ?_⟩
        rw [free.timed]
        rfl
      refine ⟨.free after, fun addr => ?_⟩
      rw [free.holder, after.holder]
      exact counted.2 addr
  | held addr held alone =>
      have counter := alone.remaining
      rw [Held.remaining] at counter
      rcases alone.kind with never | ⟨positive, before, one⟩ | ⟨duration, rfl, ticks⟩
      · -- the counter is not positive and stays as it is
        rw [if_neg (Int.not_lt.mpr never)] at counter
        have idle : unlockGlBytime bus gl = (gl, []) := by
          apply glLoop_idle
          intro addr
          rw [timeBody, if_neg (by omega)]
        rw [idle]
        refine alone.goesOn (by omega) ?_ (Or.inl never)
        rw [Held.remaining, if_neg (Int.not_lt.mpr never)]
        exact counter
      · -- one address, so one turn of the loop
        rw [if_pos positive] at counter
        have range := initialized_range alone.initialized
        have first : addr = 1 := by
          rw [one] at range
          omega
        have addresses := addresses_one one
        by_cases last : held.duration = held.ticks + 1
        · exact alone.ended last [] (first ▸ addresses) (by omega)
        · have counted : unlockGlBytime bus gl =
              ({ gl with lockduration := gl.lockduration - 1 }, []) := by
            rw [unlockGlBytime, addresses, glLoop, glLoop, timeBody, if_pos (by omega)]
            dsimp only
            rw [if_neg (by omega)]
            rfl
          rw [counted]
          refine alone.goesOn last ?_ (Or.inr ⟨positive, one, by omega⟩)
          rw [Held.remaining, if_pos positive]
          dsimp only
          omega
      · -- one tick under the first address, so the first turn of the loop
        rcases addresses_first alone.initialized with ⟨addrs, first⟩
        rw [if_pos (by omega)] at counter
        exact alone.ended (by omega) addrs first (by omega)

end Buses

/-! ## Messages about other buses -/

/-- The messages of an operation are about its bus. -/
def Local (operation : GlOperation) : Prop :=
  ∀ bus gl (place : Place) holder, place.1 ≠ bus →
    (operation bus gl).2.foldl (tell place) holder = holder

section Messages

variable {addr duration : Int} {sessionid : Nat}

theorem local_cacheLockGL : Local (cacheLockGL addr duration sessionid) := by
  intro bus gl place holder differ
  rw [cacheLockGL]
  split
  · exact tell_held_other fun same => differ (congrArg Prod.fst same)
  · rfl

theorem local_cacheUnlockGL : Local (cacheUnlockGL addr sessionid) := by
  intro bus gl place holder differ
  rw [cacheUnlockGL]
  split
  · exact tell_free_other fun same => differ (congrArg Prod.fst same)
  · rfl

theorem local_handleTermGL {garbage : Nat} : Local (handleTermGL addr sessionid garbage) := by
  intro bus gl place holder differ
  rw [handleTermGL]
  dsimp only
  repeat' split
  all_goals first
    | rfl
    | exact local_cacheUnlockGL bus gl place holder differ

theorem local_cacheInitGL : Local (cacheInitGL addr) := fun _ _ _ _ _ => rfl

theorem local_glLoop {body : Int → GlOperation} (each : ∀ addr, Local (body addr))
    (addrs : List Int) : Local (glLoop body addrs) := by
  induction addrs with
  | nil => exact fun _ _ _ _ _ => rfl
  | cons addr addrs ih =>
      intro bus gl place holder differ
      rw [glLoop, List.foldl_append, each addr bus gl place holder differ]
      exact ih bus _ place holder differ

theorem local_unlockGlBysessionid : Local (unlockGlBysessionid sessionid) := by
  intro bus gl place holder differ
  refine local_glLoop ?_ gl.addresses bus gl place holder differ
  intro addr bus gl place holder differ
  rw [sessionBody]
  split
  · exact local_cacheUnlockGL bus gl place holder differ
  · rfl

theorem local_unlockGlBytime : Local unlockGlBytime := by
  intro bus gl place holder differ
  refine local_glLoop ?_ gl.addresses bus gl place holder differ
  intro addr bus gl place holder differ
  rw [timeBody]
  split
  · dsimp only
    split
    · exact local_cacheUnlockGL bus _ place holder differ
    · rfl
  · rfl

end Messages

/-! ## Runs -/

/-- Each bus keeps its invariant, and the messages tell who holds each lock. -/
structure GlWatched.Inv (watched : GlWatched) : Prop where
  buses : ∀ bus, BusInv (watched.locks.gl bus) fun addr => watched.timed (bus, addr)
  told : ∀ place, replay watched.locks.messages place =
    (watched.locks.gl place.1).holder place.2

section Steps

variable {watched next : GlWatched} {action : GlAction} {place : Place} {operation : GlOperation}
  {sessionid : Nat}

theorem GlInitial.inv (initial : GlInitial watched) : watched.Inv := by
  constructor
  · intro bus
    exact .free ⟨initial.free bus, fun addr => initial.untimed (bus, addr)⟩
  · intro place
    rw [initial.silent, GlBus.holder, initial.free, ite_self]
    rfl

theorem GlWatched.Inv.lawful (inv : watched.Inv) : GlLawful watched := by
  refine ⟨?_, ?_, inv.told⟩
  · intro place
    exact (inv.buses place.1).timed_holder
  · intro place held some
    exact (inv.buses place.1).remaining place.2 some

theorem update_own {lock : TimedLock} {timed : Place → TimedLock} :
    (fun addr => Function.update timed place lock (place.1, addr)) =
      Function.update (fun addr => timed (place.1, addr)) place.2 lock := by
  funext addr
  by_cases same : addr = place.2
  · subst same
    have here : Function.update timed place lock (place.1, place.2) = lock :=
      Function.update_self place lock timed
    rw [here, Function.update_self]
  · rw [Function.update_of_ne same]
    exact Function.update_of_ne (fun equal => same (congrArg Prod.snd equal)) _ _

theorem update_elsewhere {lock : TimedLock} {timed : Place → TimedLock} {bus : Nat} {addr : Int}
    (differ : bus ≠ place.1) : Function.update timed place lock (bus, addr) = timed (bus, addr) :=
  Function.update_of_ne (fun equal => differ (congrArg Prod.fst equal)) _ _

/-- An operation on one bus. -/
theorem GlWatched.Inv.apply {timed : Place → TimedLock} (inv : watched.Inv)
    (elsewhere : Local operation)
    (one : BusInv (operation place.1 (watched.locks.gl place.1)).1
        (fun addr => timed (place.1, addr)) ∧
      Reads place.1 (watched.locks.gl place.1) (operation place.1 (watched.locks.gl place.1)))
    (others : ∀ bus addr, bus ≠ place.1 → timed (bus, addr) = watched.timed (bus, addr)) :
    GlWatched.Inv ⟨watched.locks.apply operation place.1, timed⟩ := by
  constructor
  · intro bus
    by_cases same : bus = place.1
    · subst same
      simp only [GlLocks.apply, Function.update_self]
      exact one.1
    · simp only [GlLocks.apply, Function.update_of_ne same, others bus _ same]
      exact inv.buses bus
  · intro other
    rw [replay, GlLocks.apply, List.foldl_append]
    change List.foldl (tell other) (replay watched.locks.messages other) _ = _
    rw [inv.told other]
    by_cases same : other.1 = place.1
    · rw [same]
      simp only [Function.update_self]
      have read := one.2 other.2
      rwa [← same] at read ⊢
    · simp only [Function.update_of_ne same]
      exact elsewhere place.1 _ other _ same

/-- The loop over all buses. -/
theorem GlWatched.Inv.sweep {change : TimedLock → TimedLock} (inv : watched.Inv)
    (elsewhere : Local operation)
    (each : ∀ bus, BusInv (operation bus (watched.locks.gl bus)).1
        (fun addr => change (watched.timed (bus, addr))) ∧
      Reads bus (watched.locks.gl bus) (operation bus (watched.locks.gl bus))) :
    GlWatched.Inv ⟨watched.locks.sweep operation, fun place =>
      if place.1 ∈ watched.locks.buses then change (watched.timed place)
      else watched.timed place⟩ := by
  have distinct : watched.locks.buses.Nodup := List.nodup_range
  constructor
  · intro bus
    dsimp only [GlLocks.sweep]
    by_cases mem : bus ∈ watched.locks.buses
    · rw [sweep_of_mem distinct mem]
      simp only [if_pos mem]
      exact (each bus).1
    · rw [sweep_of_not_mem mem]
      simp only [if_neg mem]
      exact inv.buses bus
  · intro other
    rw [replay, GlLocks.sweep, List.foldl_append]
    change List.foldl (tell other) (replay watched.locks.messages other) _ = _
    rw [inv.told other]
    exact sweep_reads (fun gl => gl.holder other.2) distinct ((each other.1).2 other.2)
      fun bus differ gl holder => elsewhere bus gl other holder differ.symm

theorem GlWatched.Inv.step (inv : watched.Inv) (alone : LocksAlone watched action)
    (taken : glStep watched action = some next) : next.Inv := by
  rw [glStep] at taken
  split at taken
  · cases taken
  · rename_i speaks
    cases taken
    cases action with
    | setLock place sessionid duration =>
        have named : sessionid ≠ 0 := fun zero => speaks (congrArg some zero)
        have one := (inv.buses place.1).lock place.1 named alone
        refine inv.apply local_cacheLockGL ⟨?_, one.2⟩ ?_
        · have taken := one.1
          rw [GlWatched.next]
          split
          · rename_i initialized
            rw [if_pos initialized] at taken
            rw [update_own]
            exact taken
          · rename_i dead
            rw [if_neg dead] at taken
            exact taken
        · intro bus addr differ
          rw [GlWatched.next]
          split
          · exact update_elsewhere differ
          · rfl
    | termLock place sessionid =>
        have named : sessionid ≠ 0 := fun zero => speaks (congrArg some zero)
        have one := (inv.buses place.1).unlock place.1 place.2 named
        refine inv.apply local_cacheUnlockGL ⟨?_, one.2⟩ fun bus addr => update_elsewhere
        rw [GlWatched.next, update_own]
        exact one.1
    | termGL place sessionid garbage =>
        have named : sessionid ≠ 0 := fun zero => speaks (congrArg some zero)
        have one := (inv.buses place.1).term place.1 place.2 garbage named
        refine inv.apply local_handleTermGL ⟨?_, one.2⟩ fun bus addr => update_elsewhere
        rw [GlWatched.next, update_own]
        exact one.1
    | initGL place =>
        exact inv.apply local_cacheInitGL ((inv.buses place.1).init alone) fun _ _ _ => rfl
    | stopSession sessionid =>
        have named : sessionid ≠ 0 := fun zero => speaks (congrArg some zero)
        exact inv.sweep local_unlockGlBysessionid fun bus => (inv.buses bus).endSession named
    | tick => exact inv.sweep local_unlockGlBytime fun bus => (inv.buses bus).tick

end Steps

/-- Holder and counter of a bus do what the timed locks of its locomotives do. -/
theorem glLawful_of_meets (start : GlWatched) (initial : GlInitial start)
    (actions : List GlAction) (meets : MeetsAlong glStep LocksAlone start actions) :
    HoldsAlong glStep GlLawful start actions :=
  holdsAlong_of_meets (fun _ inv => inv.lawful)
    (fun _ _ _ inv alone taken => inv.step alone taken) initial.inv meets

/-- Bus 1 with two locomotives, of which `count` are initialised. -/
def locomotives (count : Int) : GlWatched where
  locks :=
    { numBuses := 1
      gl := fun _ =>
        { numberOfGl := 2
          living := fun addr => decide (addr ≤ count)
          lockedBy := 0
          lockduration := 0 }
      messages := [] }
  timed := fun _ => none

theorem locomotives_initial (count : Int) : GlInitial (locomotives count) :=
  ⟨fun _ => rfl, fun _ => rfl, rfl⟩

/-- A lock of one locomotive is reported for the other one, and a lock for two ticks
outlives them. -/
theorem bus_is_locked :
    ¬ HoldsAlong glStep GlLawful (locomotives 2) [.setLock (1, 1) 1 0] ∧
      ¬ HoldsAlong glStep GlLawful (locomotives 1) [.setLock (1, 1) 1 2, .tick, .tick] := by
  constructor
  · intro holds
    have lawful := (holds.2 _ rfl).head
    exact absurd (lawful.timed (1, 2)) (by decide)
  · intro holds
    have lawful := (((holds.2 _ rfl).2 _ rfl).2 _ rfl).head
    exact absurd (lawful.timed (1, 1)) (by decide)

/-- A lock without an end, while the other locomotive is not initialised. -/
theorem glLawful_of_meets_single :
    HoldsAlong glStep GlLawful (locomotives 1)
      [.setLock (1, 1) 1 0, .tick, .stopSession 1] := by
  refine glLawful_of_meets (locomotives 1) (locomotives_initial 1) _ ?_
  intro next taken
  cases taken
  constructor
  · intro _ _
    refine ⟨?_, Or.inl (Int.le_refl 0)⟩
    intro other initialized
    have range := initialized_range initialized
    have living : (decide (other ≤ 1)) = true := by
      have both := initialized
      rw [GlBus.isInitializedGL, Bool.and_eq_true] at both
      exact both.2
    have least := of_decide_eq_true living
    change other = 1
    omega
  · intro next taken
    cases taken
    constructor
    · trivial
    · intro next taken
      cases taken
      exact ⟨trivial, trivial⟩

end Srcpd.Lock
