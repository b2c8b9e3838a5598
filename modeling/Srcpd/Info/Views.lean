import Srcpd.Command.Handlers
import Srcpd.Ddl.DelayedGa
import Srcpd.Driver.Inits
import Srcpd.Lock.Ga
import Srcpd.Lock.Gl

/-!
# Views of the tables

Some modules look at a part of the tables only: at the locks of the accessories, at the lock
of each bus, at one bus with its queue, or at the accessories that a DDL bus knows.  Each of
these views has its own version of the functions that change it.  The theorems of this module
say that a view of the tables behind an operation is the view before it, changed by that
version.
-/

namespace Srcpd.Info

open Srcpd.Command
open Srcpd.Lock (Place GaLock GlBus)

variable {tables next : Tables} {texts : List Announcement} {now bus : Nat} {addr : Int}

/-! ## What an operation is about -/

/-- The operations on an accessory. -/
def OfGa : Operation → Prop
  | .initGA .. | .setGA .. | .termGA .. | .lockGA .. | .unlockGA .. | .countGA .. => True
  | _ => False

/-- The operations on a locomotive or on the lock of its bus. -/
def OfGl : Operation → Prop
  | .cacheInitGL .. | .enqueueGL .. | .cacheSetGL .. | .clearGL .. | .cacheLockGL ..
  | .cacheUnlockGL .. | .countGL .. => True
  | _ => False

/-- An operation leaves the accessories alone if it is about none of them, and the same for
the locomotives and their locks. -/
theorem operate_frame {drivers : Drivers} {operation : Operation}
    (taken : operate drivers tables now operation = some (next, texts)) :
    (¬ OfGa operation → next.ga = tables.ga) ∧
      (¬ OfGl operation → next.gl = tables.gl ∧ next.glLock = tables.glLock) := by
  cases operation with
  | initGA | setGA | termGA | lockGA | unlockGA | countGA =>
      refine ⟨fun other => absurd trivial other, fun _ => ?_⟩
      simp only [operate, Tables.initGA, Tables.setGA, Tables.termGA, Tables.lockGA,
        Tables.unlockGA] at taken
      repeat' split at taken
      all_goals
        cases taken
        exact ⟨rfl, rfl⟩
  | cacheInitGL | enqueueGL | cacheSetGL | clearGL | cacheLockGL | cacheUnlockGL | countGL =>
      refine ⟨fun _ => ?_, fun other => absurd trivial other⟩
      simp only [operate, Tables.cacheLockGL, Tables.cacheUnlockGL] at taken
      repeat' split at taken
      all_goals
        cases taken
        rfl
  | clock action =>
      obtain ⟨clock, -, result⟩ := Option.map_eq_some_iff.mp taken
      cases action <;> simp only at result <;> repeat' split at result
      all_goals
        cases result
        exact ⟨fun _ => rfl, fun _ => ⟨rfl, rfl⟩⟩
  | fb bus action =>
      obtain ⟨fb, -, result⟩ := Option.map_eq_some_iff.mp taken
      cases result
      exact ⟨fun _ => rfl, fun _ => ⟨rfl, rfl⟩⟩
  | setGM | startSession | stopSession | serverReset | serverShutdown =>
      simp only [operate, Tables.setGM] at taken
      repeat' split at taken
      all_goals
        cases taken
        exact ⟨fun _ => rfl, fun _ => ⟨rfl, rfl⟩⟩

/-! ## Locks of accessories -/

/-- The lock of a record. -/
def GaDevice.gaLock (device : GaDevice) : GaLock :=
  ⟨device.lock.lockedBy, BitVec.ofInt 64 device.lock.lockduration, device.isInitialized⟩

/-- The locks of all accessories. -/
def Tables.gaLocks (tables : Tables) (place : Place) : GaLock :=
  ((tables.ga place.1).gastate place.2).gaLock

theorem gaLocks_setGa {device : GaDevice} :
    (tables.setGa bus addr device).gaLocks =
      Function.update tables.gaLocks (bus, addr) device.gaLock := by
  funext place
  rcases place with ⟨other, addr'⟩
  by_cases sameBus : other = bus
  · subst sameBus
    by_cases sameAddr : addr' = addr
    · subst sameAddr
      rw [Function.update_self]
      simp only [Tables.gaLocks, Tables.setGa, Function.update_self]
    · have apart : (other, addr') ≠ (other, addr) := fun same => sameAddr (Prod.mk.inj same).2
      rw [Function.update_of_ne apart]
      simp only [Tables.gaLocks, Tables.setGa, Function.update_self,
        Function.update_of_ne sameAddr]
  · have apart : (other, addr') ≠ (bus, addr) := fun same => sameBus (Prod.mk.inj same).1
    rw [Function.update_of_ne apart]
    simp only [Tables.gaLocks, Tables.setGa, Function.update_of_ne sameBus]

/-- What an operation does to the locks of the accessories. -/
def gaEffect (locks : Place → GaLock) : Operation → Place → GaLock
  | .lockGA bus addr duration sessionid =>
      Function.update locks (bus, addr)
        (Lock.lockGA (BitVec.ofInt 64 duration) sessionid (bus, addr) (locks (bus, addr))).1
  | .unlockGA bus addr sessionid =>
      Function.update locks (bus, addr)
        (Lock.unlockGA sessionid (bus, addr) (locks (bus, addr))).1
  | .termGA bus addr =>
      Function.update locks (bus, addr) (Lock.termGA (locks (bus, addr)))
  | .countGA bus addr =>
      Function.update locks (bus, addr)
        { locks (bus, addr) with lockduration := (locks (bus, addr)).lockduration - 1 }
  | _ => locks

section Accessories

variable {duration : Int} {sessionid : Nat}

theorem gaLocks_lockGA
    (taken : tables.lockGA now bus addr duration sessionid = some (next, texts)) :
    next.gaLocks = gaEffect tables.gaLocks (.lockGA bus addr duration sessionid) := by
  have same : (tables.gaLocks (bus, addr)).lockedBy =
      ((tables.ga bus).gastate addr).lock.lockedBy := rfl
  rw [Tables.lockGA] at taken
  rw [gaEffect, Lock.lockGA, same]
  split at taken
  · rename_i isOpen
    have test : ((tables.ga bus).gastate addr).lock.lockedBy = sessionid ∨
        ((tables.ga bus).gastate addr).lock.lockedBy = 0 := isOpen
    cases taken
    rw [gaLocks_setGa, if_pos test]
    rfl
  · rename_i closed
    have test : ¬ (((tables.ga bus).gastate addr).lock.lockedBy = sessionid ∨
        ((tables.ga bus).gastate addr).lock.lockedBy = 0) := closed
    cases taken
    rw [if_neg test, Function.update_eq_self]

theorem gaLocks_unlockGA (taken : tables.unlockGA now bus addr sessionid = some (next, texts)) :
    next.gaLocks = gaEffect tables.gaLocks (.unlockGA bus addr sessionid) := by
  have same : (tables.gaLocks (bus, addr)).lockedBy =
      ((tables.ga bus).gastate addr).lock.lockedBy := rfl
  rw [Tables.unlockGA] at taken
  rw [gaEffect, Lock.unlockGA, same]
  split at taken
  · rename_i isOpen
    have test : ((tables.ga bus).gastate addr).lock.lockedBy = 0 ∨
        ((tables.ga bus).gastate addr).lock.lockedBy = sessionid := Or.symm isOpen
    cases taken
    rw [gaLocks_setGa, if_pos test]
    rfl
  · rename_i closed
    have test : ¬ (((tables.ga bus).gastate addr).lock.lockedBy = 0 ∨
        ((tables.ga bus).gastate addr).lock.lockedBy = sessionid) :=
      fun isOpen => closed (Or.symm isOpen)
    cases taken
    rw [if_neg test, Function.update_eq_self]

theorem gaLocks_termGA (taken : tables.termGA now bus addr = some (next, texts)) :
    next.gaLocks = gaEffect tables.gaLocks (.termGA bus addr) := by
  have same : (tables.gaLocks (bus, addr)).isInitialized =
      ((tables.ga bus).gastate addr).isInitialized := rfl
  rw [Tables.termGA] at taken
  rw [gaEffect, Lock.termGA, same]
  split at taken
  · rename_i initialized
    cases taken
    rw [gaLocks_setGa, if_pos initialized]
    rfl
  · rename_i dead
    cases taken
    rw [if_neg dead, Function.update_eq_self]

/-- A driver stores what it has dequeued beside the lock. -/
theorem gaLocks_setGA {a : GaState} (taken : tables.setGA now bus addr a = some (next, texts)) :
    next.gaLocks = tables.gaLocks := by
  rw [Tables.setGA] at taken
  dsimp only at taken
  split at taken
  · cases taken
    rw [gaLocks_setGa]
    exact Function.update_eq_self (bus, addr) tables.gaLocks
  · cases taken
    rfl

/-- An `INIT GA` leaves the lock to the driver, which may change the record.  Every other
operation does to the locks what it does to a single one, and nothing to the others. -/
theorem gaLocks_operate {drivers : Drivers} {operation : Operation}
    (taken : operate drivers tables now operation = some (next, texts))
    (noInit : ∀ bus addr protocol, operation ≠ .initGA bus addr protocol) :
    next.gaLocks = gaEffect tables.gaLocks operation := by
  cases operation with
  | lockGA bus addr duration sessionid => exact gaLocks_lockGA taken
  | unlockGA bus addr sessionid => exact gaLocks_unlockGA taken
  | termGA bus addr => exact gaLocks_termGA taken
  | setGA bus addr a => exact gaLocks_setGA taken
  | initGA bus addr protocol => exact absurd rfl (noInit bus addr protocol)
  | countGA bus addr =>
      have counted (left : Int) : BitVec.ofInt 64 (left - 1) = BitVec.ofInt 64 left - 1 := by
        rw [Int.sub_eq_add_neg, BitVec.ofInt_add, BitVec.ofInt_neg, ← BitVec.sub_eq_add_neg]
        rfl
      cases taken
      rw [gaLocks_setGa, gaEffect, GaDevice.gaLock]
      dsimp only
      rw [counted]
      rfl
  | _ =>
      have same := (operate_frame taken).1 id
      funext place
      simp only [Tables.gaLocks, same, gaEffect]

end Accessories

/-! ## Locks of locomotives -/

/-- The lock of a bus with the locomotives that are initialised. -/
def glBus (gl : Gl) (lock : LockState) : GlBus :=
  { numberOfGl := gl.numberOfGl.toNat
    living := gl.isInitialized
    lockedBy := lock.lockedBy
    lockduration := lock.lockduration }

/-- The locks of all buses. -/
def Tables.glBuses (tables : Tables) (bus : Nat) : GlBus :=
  glBus (tables.gl bus) (tables.glLock bus)

/-- Only valid addresses are initialised. -/
theorem glBus_isInitializedGL {gl : Gl} {lock : LockState} :
    (glBus gl lock).isInitializedGL addr = gl.isInitialized addr := by
  rw [GlBus.isInitializedGL, glBus]
  by_cases initialized : gl.isInitialized addr = true
  · have valid : gl.isValid addr = true := (Gl.isInitialized_iff.mp initialized).1
    rw [Gl.isValid] at valid
    simp only [Bool.and_eq_true, decide_eq_true_eq] at valid
    simp only [initialized, Bool.and_true, Bool.and_eq_true, decide_eq_true_eq]
    omega
  · simp only [Bool.eq_false_iff.mpr initialized, Bool.and_false]

theorem glBuses_setGlLock {state : LockState} :
    (tables.setGlLock bus state).glBuses =
      Function.update tables.glBuses bus (glBus (tables.gl bus) state) := by
  funext other
  by_cases same : other = bus
  · subst same
    rw [Function.update_self]
    simp only [Tables.glBuses, Tables.setGlLock, Function.update_self]
  · rw [Function.update_of_ne same]
    simp only [Tables.glBuses, Tables.setGlLock, Function.update_of_ne same]

/-- What the operations on the locks do to the locks of the buses. -/
def glEffect (buses : Nat → GlBus) : Operation → Nat → GlBus
  | .cacheLockGL bus addr duration sessionid =>
      Function.update buses bus (Lock.cacheLockGL addr duration sessionid bus (buses bus)).1
  | .cacheUnlockGL bus addr sessionid =>
      Function.update buses bus (Lock.cacheUnlockGL addr sessionid bus (buses bus)).1
  | .countGL bus =>
      Function.update buses bus
        (if 0 < (buses bus).lockduration then
          { buses bus with lockduration := (buses bus).lockduration - 1 }
        else buses bus)
  | .clearGL bus addr =>
      Function.update buses bus (Lock.cacheTermGL addr (buses bus))
  | _ => buses

section Locomotives

variable {duration : Int} {sessionid : Nat}

theorem glBuses_cacheLockGL
    (taken : tables.cacheLockGL now bus addr duration sessionid = some (next, texts)) :
    next.glBuses = glEffect tables.glBuses (.cacheLockGL bus addr duration sessionid) := by
  have same : (tables.glBuses bus).lockedBy = (tables.glLock bus).lockedBy := rfl
  have initialized : (tables.glBuses bus).isInitializedGL addr =
      (tables.gl bus).isInitialized addr := glBus_isInitializedGL
  rw [Tables.cacheLockGL] at taken
  rw [glEffect, Lock.cacheLockGL, initialized, same]
  split at taken
  · rename_i accepted
    have test : (tables.gl bus).isInitialized addr = true ∧
        ((tables.glLock bus).lockedBy = sessionid ∨ (tables.glLock bus).lockedBy = 0) := accepted
    cases taken
    rw [glBuses_setGlLock, if_pos test]
    rfl
  · rename_i refused
    have test : ¬ ((tables.gl bus).isInitialized addr = true ∧
        ((tables.glLock bus).lockedBy = sessionid ∨ (tables.glLock bus).lockedBy = 0)) := refused
    cases taken
    rw [if_neg test, Function.update_eq_self]

theorem glBuses_cacheUnlockGL
    (taken : tables.cacheUnlockGL now bus addr sessionid = some (next, texts)) :
    next.glBuses = glEffect tables.glBuses (.cacheUnlockGL bus addr sessionid) := by
  have same : (tables.glBuses bus).lockedBy = (tables.glLock bus).lockedBy := rfl
  have initialized : (tables.glBuses bus).isInitializedGL addr =
      (tables.gl bus).isInitialized addr := glBus_isInitializedGL
  rw [Tables.cacheUnlockGL] at taken
  rw [glEffect, Lock.cacheUnlockGL, initialized, same]
  split at taken
  · rename_i accepted
    have test : (tables.gl bus).isInitialized addr = true ∧
        ((tables.glLock bus).lockedBy = 0 ∨ (tables.glLock bus).lockedBy = sessionid) :=
      ⟨accepted.1, Or.symm accepted.2⟩
    cases taken
    rw [glBuses_setGlLock, if_pos test]
    rfl
  · rename_i refused
    have test : ¬ ((tables.gl bus).isInitialized addr = true ∧
        ((tables.glLock bus).lockedBy = 0 ∨ (tables.glLock bus).lockedBy = sessionid)) :=
      fun accepted => refused ⟨accepted.1, Or.symm accepted.2⟩
    cases taken
    rw [if_neg test, Function.update_eq_self]

theorem glBuses_countGL {drivers : Drivers}
    (taken : operate drivers tables now (.countGL bus) = some (next, texts)) :
    next.glBuses = glEffect tables.glBuses (.countGL bus) := by
  have same : (tables.glBuses bus).lockduration = (tables.glLock bus).lockduration := rfl
  rw [operate] at taken
  rw [glEffect, same]
  split at taken
  · rename_i positive
    cases taken
    rw [glBuses_setGlLock, if_pos positive]
    rfl
  · rename_i done
    cases taken
    rw [if_neg done, Function.update_eq_self]

theorem glBus_setState_zero (gl : Gl) (lock : LockState) (addr : Int) :
    glBus (gl.setState addr .zero) lock = Lock.cacheTermGL addr (glBus gl lock) := by
  have living : (gl.setState addr .zero).isInitialized =
      Function.update gl.isInitialized addr false := by
    funext other
    by_cases same : other = addr
    · subst same
      rw [Function.update_self, Gl.isInitialized]
      simp [Gl.setState, GlState.zero]
    · rw [Function.update_of_ne same, Gl.isInitialized, Gl.isValid_setState,
        Gl.setState_of_ne gl same]
      rfl
  rw [Lock.cacheTermGL, glBus_isInitializedGL, glBus, living]
  split
  · rfl
  · rename_i dead
    rw [glBus, ← Bool.eq_false_iff.mpr dead, Function.update_eq_self]
    rfl

theorem glBuses_clearGL (taken : tables.clearGL now bus addr = some (next, texts)) :
    next.glBuses = glEffect tables.glBuses (.clearGL bus addr) := by
  rw [Tables.clearGL] at taken
  cases taken
  rw [glEffect]
  funext other
  by_cases same : other = bus
  · subst same
    have before : tables.glBuses other = glBus (tables.gl other) (tables.glLock other) := rfl
    rw [Function.update_self, before, ← glBus_setState_zero]
    simp only [Tables.glBuses, Tables.setGl, Function.update_self]
    rfl
  · rw [Function.update_of_ne same]
    simp only [Tables.glBuses, Tables.setGl, Function.update_of_ne same]

/-- The operations that may initialise a locomotive or store a record. -/
def StoresGl : Operation → Prop
  | .cacheInitGL .. | .enqueueGL .. | .cacheSetGL .. => True
  | _ => False

/-- Every other operation does to the lock of a bus what it does to a single one, and
nothing to the others. -/
theorem glBuses_operate {drivers : Drivers} {operation : Operation}
    (taken : operate drivers tables now operation = some (next, texts))
    (stores : ¬ StoresGl operation) :
    next.glBuses = glEffect tables.glBuses operation := by
  cases operation with
  | cacheLockGL bus addr duration sessionid => exact glBuses_cacheLockGL taken
  | cacheUnlockGL bus addr sessionid => exact glBuses_cacheUnlockGL taken
  | countGL bus => exact glBuses_countGL taken
  | clearGL bus addr => exact glBuses_clearGL taken
  | cacheInitGL | enqueueGL | cacheSetGL => exact absurd trivial stores
  | _ =>
      obtain ⟨sameGl, sameLock⟩ := (operate_frame taken).2 id
      funext other
      simp only [Tables.glBuses, sameGl, sameLock, glEffect]

end Locomotives

/-! ## The end of a locomotive -/

/-- One bus of the tables with its queue, at a time. -/
def Tables.busAt (tables : Tables) (bus now : Nat) : Inits.Bus :=
  ⟨tables.glAt bus now, tables.queue bus⟩

theorem cacheInitGL_clock (driver : GlDriver) (gl : Gl) (queue : Queue.Log GlState)
    (protocol : Char) (protoversion nFs nFunc : Int) :
    (cacheInitGL driver gl queue addr protocol protoversion nFs nFunc).2.1.clock = gl.clock := by
  rcases cacheInitGL_cases driver gl queue addr protocol protoversion nFs nFunc with
    ⟨-, -, -, accepted⟩ | ⟨-, -, unchanged⟩
  · rw [accepted]
    rfl
  · rw [unchanged]

theorem enqueueGL_clock (driver : GlDriver) (gl : Gl) (queue : Queue.Log GlState)
    (command : GlCommand) : (enqueueGL driver gl queue command).2.1.clock = gl.clock := by
  rw [enqueueGL]
  split
  · dsimp only
    split
    · rfl
    · exact cacheInitGL_clock driver gl queue 'P' 1 14 1
  · rfl

theorem cacheSetGL_clock (gl : Gl) (addr : Int) (l : GlState) :
    (cacheSetGL gl addr l).2.clock = gl.clock := by
  rw [cacheSetGL]
  split <;> rfl

theorem glAt_setGl {gl : Gl} (clock : gl.clock = now) :
    (tables.setGl bus gl).glAt bus now = gl := by
  subst clock
  simp only [Tables.glAt, Tables.setGl, Function.update_self]

theorem busAt_enqueueGL {drivers : Drivers} {command : GlCommand}
    (taken : tables.enqueueGL drivers now bus command = some (next, texts)) :
    next.busAt bus now =
      ⟨(enqueueGL (drivers.gl bus) (tables.glAt bus now) (tables.queue bus) command).2.1,
        (enqueueGL (drivers.gl bus) (tables.glAt bus now) (tables.queue bus) command).2.2⟩ := by
  rw [Tables.enqueueGL] at taken
  cases taken
  rw [Tables.busAt]
  congr 1
  · exact glAt_setGl (enqueueGL_clock _ _ _ _)
  · exact Function.update_self ..

theorem busAt_cacheSetGL {l : GlState}
    (taken : tables.cacheSetGL now bus addr l = some (next, texts)) :
    next.busAt bus now = ⟨(cacheSetGL (tables.glAt bus now) addr l).2, tables.queue bus⟩ := by
  rw [Tables.cacheSetGL] at taken
  cases taken
  have clock : (cacheSetGL (tables.glAt bus now) addr l).2.clock = now := cacheSetGL_clock _ _ _
  rw [Tables.busAt, glAt_setGl clock]
  rfl

theorem busAt_clearGL (taken : tables.clearGL now bus addr = some (next, texts)) :
    next.busAt bus now = ⟨(tables.glAt bus now).setState addr .zero, tables.queue bus⟩ := by
  rw [Tables.clearGL] at taken
  cases taken
  have clock : ((tables.glAt bus now).setState addr .zero).clock = now := rfl
  rw [Tables.busAt, glAt_setGl clock]
  rfl

/-- `cacheTermGL` of the handlers does to its bus what the function without messages does. -/
theorem busAt_cacheTermGL {drivers : Drivers} {server : Handlers.Server}
    {answer : Handlers.Answer}
    (handled : Handlers.cacheTermGL drivers server now bus addr = some answer) :
    answer.server.tables.busAt bus now =
      Inits.cacheTermGL (drivers.gl bus) (server.tables.busAt bus now) addr := by
  have same : (server.tables.busAt bus now).gl.isInitialized addr =
      (server.tables.gl bus).isInitialized addr := rfl
  have record : (server.tables.busAt bus now).gl.glstate addr =
      (server.tables.gl bus).glstate addr := rfl
  rw [Handlers.cacheTermGL] at handled
  rw [Inits.cacheTermGL, same, record]
  dsimp only at handled ⊢
  split at handled
  · rename_i initialized
    rw [if_pos initialized]
    obtain ⟨result, chained, rfl⟩ := Option.map_eq_some_iff.mp handled
    obtain ⟨braked, brake, ending⟩ := Option.bind_eq_some_iff.mp chained
    obtain ⟨cleared, clear, rfl⟩ := Option.map_eq_some_iff.mp ending
    have last := busAt_clearGL clear
    split at brake
    · rename_i runs
      obtain ⟨stopped, enqueued, storing⟩ := Option.bind_eq_some_iff.mp brake
      obtain ⟨stored, store, rfl⟩ := Option.map_eq_some_iff.mp storing
      have second := busAt_cacheSetGL store
      have first := busAt_enqueueGL enqueued
      rw [Tables.busAt, Inits.Bus.mk.injEq] at first second
      rw [last, if_pos runs]
      dsimp only
      rw [second.1, second.2, first.1, first.2]
      rfl
    · rename_i stands
      cases brake
      rw [last, if_neg stands]
      rfl
  · rename_i dead
    cases handled
    rw [if_neg dead]
    rfl

theorem cacheSetGL_setState (gl : Gl) (addr : Int) (l state : GlState) :
    (cacheSetGL gl addr l).2.setState addr state = gl.setState addr state := by
  rw [cacheSetGL]
  split
  · simp only [Gl.setState, Function.update_idem]
  · rfl

/-- The brake changes nothing of what is cleared behind it, and no other record. -/
theorem cacheTermGL_gl {driver : GlDriver} {terminated : Inits.Bus}
    (initialized : terminated.gl.isInitialized addr = true) :
    (Inits.cacheTermGL driver terminated addr).gl = terminated.gl.setState addr .zero := by
  rw [Inits.cacheTermGL, if_pos initialized]
  dsimp only
  split
  · have valid := (Gl.isInitialized_iff.mp initialized).1
    rw [cacheSetGL_setState, enqueueGL, if_pos valid]
    dsimp only
    rw [if_pos initialized]
  · rfl

/-- Of the bus, its locks see the end of the locomotive only. -/
theorem glBus_cacheTermGL (driver : GlDriver) (terminated : Inits.Bus) (lock : LockState)
    (addr : Int) :
    glBus (Inits.cacheTermGL driver terminated addr).gl lock =
      Lock.cacheTermGL addr (glBus terminated.gl lock) := by
  by_cases initialized : terminated.gl.isInitialized addr = true
  · rw [cacheTermGL_gl initialized, glBus_setState_zero]
  · rw [Inits.cacheTermGL, if_neg initialized, Lock.cacheTermGL, glBus_isInitializedGL,
      if_neg initialized]

/-! ## Accessories of a DDL bus -/

/-- The accessories that are initialised, with their last action. -/
def GaBus.cache (ga : GaBus) : Ddl.DelayedGa.Cache := fun addr =>
  if 0 < addr ∧ addr ≤ ga.numberOfGa ∧ (ga.gastate addr).isInitialized then
    some ⟨(ga.gastate addr).port, (ga.gastate addr).action⟩
  else none

theorem cache_setGA {a : GaState} (taken : tables.setGA now bus addr a = some (next, texts)) :
    (next.ga bus).cache = Ddl.DelayedGa.setGA (tables.ga bus).cache addr a := by
  rw [Tables.setGA] at taken
  rw [Ddl.DelayedGa.setGA]
  dsimp only at taken
  split at taken
  · rename_i known
    cases taken
    funext other
    by_cases same : other = addr
    · subst same
      have before : (tables.ga bus).cache other = some _ := if_pos known
      rw [Function.update_self, before, Option.map_some]
      simp only [GaBus.cache, Tables.setGa, Function.update_self]
      exact if_pos known
    · rw [Function.update_of_ne same]
      simp only [GaBus.cache, Tables.setGa, Function.update_self, Function.update_of_ne same]
  · rename_i unknown
    cases taken
    have before : (tables.ga bus).cache addr = none := if_neg unknown
    rw [before, Option.map_none, ← before, Function.update_eq_self]

end Srcpd.Info
