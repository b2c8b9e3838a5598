import Srcpd.Queue.Producers

/-!
# Locomotives: the state table and the command queue

The functions of `srcp-gl.c` on the table and the command queue of one bus.
What the hardware driver of the bus supplies, its protocols and its
`init_gl_func`, is a parameter.  Messages to the info port are not modelled
here.
-/

namespace Srcpd.Command

open Srcpd.Queue Srcpd.Transition

/-- Answers to a command. -/
inductive SrcpCode
  | info
  | ok
  | wrongValue
  | temporarilyProhibited
  | noData
  | unsupportedDeviceProtocol
  deriving DecidableEq, Repr

/-- The number of a code in an answer. -/
def SrcpCode.number : SrcpCode → Nat
  | .info => 100
  | .ok => 200
  | .wrongValue => 412
  | .temporarilyProhibited => 413
  | .noData => 416
  | .unsupportedDeviceProtocol => 420

/-- Locomotive decoder. -/
structure GlState where
  /-- 0 is dead, 1 living, 2 terminating. -/
  state : Nat
  protocol : Char
  protocolversion : Int
  nFunc : Int
  nFs : Int
  id : Int
  speed : Int
  direction : Int
  funcs : BitVec 32
  tv : Nat
  inittime : Nat
  deriving DecidableEq, Repr

/-- `bzero(&glstate, sizeof(gl_state_t))`. -/
def GlState.zero : GlState :=
  { state := 0, protocol := Char.ofNat 0, protocolversion := 0, nFunc := 0, nFs := 0, id := 0,
    speed := 0, direction := 0, funcs := 0, tv := 0, inittime := 0 }

/-- The locomotives of one bus, and the clock. -/
structure Gl where
  /-- `busnumber <= num_buses`. -/
  configured : Bool
  numberOfGl : Int
  glstate : Int → GlState
  clock : Nat

/-- What the driver of the bus supplies. -/
structure GlDriver where
  protocols : List Char
  initGlFunc : Option (GlState → SrcpCode × GlState)

/-- The protocols that the driver has in its list. -/
def GlDriver.supportsProtocol (driver : GlDriver) (protocol : Char) : SrcpCode :=
  if protocol ∈ driver.protocols then .ok else .unsupportedDeviceProtocol

/-- The check of an init by the driver, which may change it. -/
def GlDriver.initGl (driver : GlDriver) (tgl : GlState) : SrcpCode × GlState :=
  match driver.initGlFunc with
  | none => (.ok, tgl)
  | some initGlFunc => initGlFunc tgl

/-- The bus is there and has a record for the address. -/
def Gl.isValid (gl : Gl) (addr : Int) : Bool :=
  gl.configured && 0 < gl.numberOfGl && 0 < addr && addr ≤ gl.numberOfGl

/-- Returns false even if it is an invalid address. -/
def Gl.isInitialized (gl : Gl) (addr : Int) : Bool :=
  if gl.isValid addr then (gl.glstate addr).state == 1 else false

theorem Gl.isInitialized_iff {gl : Gl} {addr : Int} :
    gl.isInitialized addr = true ↔ gl.isValid addr = true ∧ (gl.glstate addr).state = 1 := by
  simp [Gl.isInitialized]

/-- The table with one record replaced. -/
def Gl.setState (gl : Gl) (addr : Int) (state : GlState) : Gl :=
  { gl with glstate := Function.update gl.glstate addr state }

/-- A sum or product as a C `int`. -/
def int32 (value : Int) : Int :=
  value.bmod (2 ^ 32)

/-- There are decoders for 14, 27, 28 and 128 speed steps. -/
def calcspeed (vs vmax nFs : Int) : Int :=
  if vmax = 0 then vs
  else
    let vs := if vs < 0 then 0 else vs
    let vs := if vmax < vs then vmax else vs
    let rs := int32 (vs * nFs)
    let rs := int32 (rs * 2)
    let rs := int32 (rs + vmax)
    let rs := int32 (rs.tdiv vmax)
    let rs := rs >>> (1 : Nat)
    if rs = 0 ∧ vs ≠ 0 then 1 else rs

/-! ## The command queue -/

/-- The parameters of `SET GL`, as they are handed to the queue. -/
structure GlCommand where
  addr : Int
  dir : Int
  speed : Int
  maxspeed : Int
  f : BitVec 32
  deriving DecidableEq, Repr

/-- The slot at the write position after an append.  The protocol and the other
values of the initialisation are copied into the queue. -/
def glEntry (gl : Gl) (command : GlCommand) (slot : GlState) : GlState :=
  let state := gl.glstate command.addr
  { slot with
    protocol := state.protocol
    protocolversion := state.protocolversion
    speed := calcspeed command.speed command.maxspeed state.nFs
    nFs := state.nFs
    nFunc := state.nFunc
    direction := command.dir
    funcs := command.f
    tv := gl.clock
    id := command.addr }

/-- `GL_QUEUELEN`, the length of the queue of each bus. -/
def glQueuelen : Nat := 50

/-- The queue of the locomotive commands: an entry is accepted for a valid address. -/
def glQueue : Kind GlState Gl GlCommand where
  capacity := glQueuelen
  accepts gl command := gl.isValid command.addr
  fill := glEntry

/-- `enqueueGL` behind the test for an initialised decoder. -/
def enqueueInitializedGL (gl : Gl) (queue : Log GlState) (command : GlCommand) :
    SrcpCode × Log GlState :=
  if glQueue.isFull queue.ring then (.temporarilyProhibited, queue)
  else
    (.ok, queue.put glQueuelen (glEntry gl command (queue.ring.slots queue.ring.inIndex)))

/-- `INIT GL`: the driver checks a fresh record, and the decoder is told to stop. -/
def cacheInitGL (driver : GlDriver) (gl : Gl) (queue : Log GlState) (addr : Int)
    (protocol : Char) (protoversion nFs nFunc : Int) : SrcpCode × Gl × Log GlState :=
  if gl.isValid addr then
    if driver.supportsProtocol protocol ≠ .ok then (driver.supportsProtocol protocol, gl, queue)
    else
      let tgl := { GlState.zero with
        inittime := gl.clock
        tv := gl.clock
        nFs := nFs
        nFunc := nFunc
        protocolversion := protoversion
        protocol := protocol
        id := addr }
      let init := driver.initGl tgl
      if init.1 = .ok then
        let gl := gl.setState addr { init.2 with state := 1 }
        -- The decoder is initialised now, so this call does not come back here.
        (init.1, gl, (enqueueInitializedGL gl queue ⟨addr, 0, 0, 1, 0⟩).2)
      else (init.1, gl, queue)
  else (.wrongValue, gl, queue)

/-- Take new locomotive data and make some checks; the lock is ignored. -/
def enqueueGL (driver : GlDriver) (gl : Gl) (queue : Log GlState) (command : GlCommand) :
    SrcpCode × Gl × Log GlState :=
  if gl.isValid command.addr then
    let bus :=
      if gl.isInitialized command.addr then (gl, queue)
      else (cacheInitGL driver gl queue command.addr 'P' 1 14 1).2
    let result := enqueueInitializedGL bus.1 bus.2 command
    (result.1, bus.1, result.2)
  else (.wrongValue, gl, queue)

theorem enqueueInitializedGL_log {gl : Gl} {command : GlCommand}
    (valid : gl.isValid command.addr = true) (queue : Log GlState) :
    (enqueueInitializedGL gl queue command).2 = glQueue.enqueue gl queue command := by
  have accepted : glQueue.accepts gl command = true := valid
  by_cases full : glQueue.isFull queue.ring = true
  · simp [enqueueInitializedGL, Kind.enqueue, full]
  · simp [enqueueInitializedGL, Kind.enqueue, full, accepted]
    rfl

@[simp]
theorem Gl.isValid_setState (gl : Gl) (addr other : Int) (state : GlState) :
    (gl.setState addr state).isValid other = gl.isValid other :=
  rfl

/-! ### Inits -/

/-- The record that an init hands to the driver. -/
def newGl (gl : Gl) (addr : Int) (protocol : Char) (protoversion nFs nFunc : Int) : GlState :=
  { GlState.zero with
    inittime := gl.clock
    tv := gl.clock
    nFs := nFs
    nFunc := nFunc
    protocolversion := protoversion
    protocol := protocol
    id := addr }

/-- An init that the driver accepts installs what the driver made of the record and queues a
stop command; any other changes nothing. -/
theorem cacheInitGL_cases (driver : GlDriver) (gl : Gl) (queue : Log GlState) (addr : Int)
    (protocol : Char) (protoversion nFs nFunc : Int) :
    let result := cacheInitGL driver gl queue addr protocol protoversion nFs nFunc
    let init := driver.initGl (newGl gl addr protocol protoversion nFs nFunc)
    let next := gl.setState addr { init.2 with state := 1 }
    (gl.isValid addr = true ∧ driver.supportsProtocol protocol = .ok ∧ init.1 = .ok ∧
      result = (.ok, next, (enqueueInitializedGL next queue ⟨addr, 0, 0, 1, 0⟩).2)) ∨
    (¬ (gl.isValid addr = true ∧ driver.supportsProtocol protocol = .ok ∧ init.1 = .ok) ∧
      result.1 ≠ .ok ∧ result.2 = (gl, queue)) := by
  intro result init next
  have body : result =
      if gl.isValid addr = true then
        if driver.supportsProtocol protocol ≠ .ok then
          (driver.supportsProtocol protocol, gl, queue)
        else if init.1 = .ok then
          (init.1, next, (enqueueInitializedGL next queue ⟨addr, 0, 0, 1, 0⟩).2)
        else (init.1, gl, queue)
      else (.wrongValue, gl, queue) := rfl
  rw [body]
  by_cases valid : gl.isValid addr = true
  · by_cases supported : driver.supportsProtocol protocol = .ok
    · rw [if_pos valid, if_neg (not_not.mpr supported)]
      by_cases accepted : init.1 = .ok
      · rw [if_pos accepted, accepted]
        exact .inl ⟨valid, supported, rfl, rfl⟩
      · rw [if_neg accepted]
        exact .inr ⟨fun admitted => accepted admitted.2.2, accepted, rfl⟩
    · rw [if_pos valid, if_pos supported]
      exact .inr ⟨fun admitted => supported admitted.2.1, supported, rfl⟩
  · rw [if_neg valid]
    exact .inr ⟨fun admitted => valid admitted.1, nofun, rfl⟩

section Inits

variable {driver : GlDriver} {gl : Gl} {queue : Log GlState} {addr : Int} {protocol : Char}
  {protoversion nFs nFunc : Int}

/-- An init that is refused changes nothing. -/
theorem cacheInitGL_refused
    (refused : (cacheInitGL driver gl queue addr protocol protoversion nFs nFunc).1 ≠ .ok) :
    (cacheInitGL driver gl queue addr protocol protoversion nFs nFunc).2 = (gl, queue) := by
  rcases cacheInitGL_cases driver gl queue addr protocol protoversion nFs nFunc with
    ⟨-, -, -, result⟩ | ⟨-, -, unchanged⟩
  · exact absurd (congrArg Prod.fst result) refused
  · exact unchanged

theorem cacheInitGL_ok
    (ok : (cacheInitGL driver gl queue addr protocol protoversion nFs nFunc).1 = .ok) :
    let init := driver.initGl (newGl gl addr protocol protoversion nFs nFunc)
    let next := gl.setState addr { init.2 with state := 1 }
    gl.isValid addr = true ∧ driver.supportsProtocol protocol = .ok ∧ init.1 = .ok ∧
      (cacheInitGL driver gl queue addr protocol protoversion nFs nFunc).2 =
        (next, (enqueueInitializedGL next queue ⟨addr, 0, 0, 1, 0⟩).2) := by
  rcases cacheInitGL_cases driver gl queue addr protocol protoversion nFs nFunc with
    ⟨valid, supported, accepted, result⟩ | ⟨-, refused, -⟩
  · exact ⟨valid, supported, accepted, congrArg Prod.snd result⟩
  · exact absurd ok refused

/-- An init that is accepted brings the locomotive to life. -/
theorem cacheInitGL_isInitialized
    (ok : (cacheInitGL driver gl queue addr protocol protoversion nFs nFunc).1 = .ok) :
    (cacheInitGL driver gl queue addr protocol protoversion nFs nFunc).2.1.isInitialized addr =
      true := by
  obtain ⟨valid, -, -, result⟩ := cacheInitGL_ok ok
  rw [result]
  apply Gl.isInitialized_iff.mpr
  exact ⟨valid, by simp only [Gl.setState, Function.update_self]⟩

end Inits

theorem cacheInitGL_isValid (driver : GlDriver) (gl : Gl) (queue : Log GlState) (addr : Int)
    (protocol : Char) (protoversion nFs nFunc other : Int) :
    (cacheInitGL driver gl queue addr protocol protoversion nFs nFunc).2.1.isValid other =
      gl.isValid other := by
  rcases cacheInitGL_cases driver gl queue addr protocol protoversion nFs nFunc with
    ⟨-, -, -, result⟩ | ⟨-, -, unchanged⟩
  · rw [result]
    rfl
  · rw [unchanged]

section Steps

variable {tested : Nat → Option GlCommand} {session : Nat}

theorem reachable_enqueueInitializedGL (idle : tested session = none) {gl : Gl}
    {command : GlCommand} (valid : gl.isValid command.addr = true) (queue : Log GlState) :
    Reachable glQueue.step ⟨queue, gl, tested⟩
      ⟨(enqueueInitializedGL gl queue command).2, gl, tested⟩ := by
  rw [enqueueInitializedGL_log valid]
  exact Kind.reachable_enqueue idle command

/-- An init is a change of the table and a stop command. -/
theorem reachable_cacheInitGL (driver : GlDriver) (idle : tested session = none) (gl : Gl)
    (queue : Log GlState) (addr : Int) (protocol : Char) (protoversion nFs nFunc : Int) :
    let result := cacheInitGL driver gl queue addr protocol protoversion nFs nFunc
    Reachable glQueue.step ⟨queue, gl, tested⟩ ⟨result.2.2, result.2.1, tested⟩ := by
  have install (after : Gl) (valid : after.isValid addr = true) :
      Reachable glQueue.step ⟨queue, gl, tested⟩
        ⟨(enqueueInitializedGL after queue ⟨addr, 0, 0, 1, 0⟩).2, after, tested⟩ := by
    have changed : glQueue.step ⟨queue, gl, tested⟩ (.change after) =
      some ⟨queue, after, tested⟩ := rfl
    exact (Reachable.of_step changed).trans (reachable_enqueueInitializedGL idle valid queue)
  dsimp only
  rcases cacheInitGL_cases driver gl queue addr protocol protoversion nFs nFunc with
    ⟨valid, -, -, result⟩ | ⟨-, -, unchanged⟩
  · rw [result]
    exact install _ valid
  · rw [unchanged]
    exact Reachable.refl _ _

/-- A call of `enqueueGL` is a run of the steps that other sessions interleave
with: the default init with its stop command, then the command itself. -/
theorem reachable_enqueueGL (driver : GlDriver) (idle : tested session = none) (gl : Gl)
    (queue : Log GlState) (command : GlCommand) :
    let result := enqueueGL driver gl queue command
    Reachable glQueue.step ⟨queue, gl, tested⟩ ⟨result.2.2, result.2.1, tested⟩ := by
  dsimp only
  rw [enqueueGL]
  split
  · rename_i valid
    dsimp only
    split
    · exact reachable_enqueueInitializedGL idle valid queue
    · have init := reachable_cacheInitGL driver idle gl queue command.addr 'P' 1 14 1
      apply init.trans
      apply reachable_enqueueInitializedGL idle
      rw [cacheInitGL_isValid]
      exact valid
  · exact Reachable.refl _ _

end Steps

/-! ## The state table -/

/-- The record of an initialised locomotive; nothing is stored for others. -/
def cacheGetGL (gl : Gl) (addr : Int) : SrcpCode × Option GlState :=
  if gl.isInitialized addr then (.ok, some (gl.glstate addr)) else (.noData, none)

/-- Called from the hardware drivers to keep the data informed; respects the
termination of a decoder. -/
def cacheSetGL (gl : Gl) (addr : Int) (l : GlState) : SrcpCode × Gl :=
  if gl.isValid addr then
    let state := { gl.glstate addr with
      direction := l.direction
      speed := l.speed
      funcs := l.funcs
      nFs := l.nFs
      nFunc := l.nFunc
      tv := gl.clock }
    (.ok, gl.setState addr (if state.state = 2 then .zero else state))
  else (.wrongValue, gl)

/-- The values of an initialised locomotive are stored. -/
theorem cacheSetGL_of_isInitialized {gl : Gl} {addr : Int} {l : GlState}
    (initialised : gl.isInitialized addr = true) :
    (cacheSetGL gl addr l).2.glstate addr =
      { gl.glstate addr with
        direction := l.direction
        speed := l.speed
        funcs := l.funcs
        nFs := l.nFs
        nFunc := l.nFunc
        tv := gl.clock } := by
  obtain ⟨valid, living⟩ := Gl.isInitialized_iff.mp initialised
  rw [cacheSetGL, if_pos valid]
  dsimp only
  rw [if_neg (by rw [living]; decide), Gl.setState]
  exact Function.update_self _ _ _

theorem Gl.setState_of_ne (gl : Gl) {addr other : Int} (different : other ≠ addr)
    (state : GlState) : (gl.setState addr state).glstate other = gl.glstate other :=
  Function.update_of_ne different _ _

theorem cacheSetGL_of_ne (gl : Gl) {addr other : Int} (different : other ≠ addr) (l : GlState) :
    (cacheSetGL gl addr l).2.glstate other = gl.glstate other := by
  unfold cacheSetGL
  split
  · exact Gl.setState_of_ne gl different _
  · rfl

theorem cacheSetGL_isValid (gl : Gl) (addr other : Int) (l : GlState) :
    (cacheSetGL gl addr l).2.isValid other = gl.isValid other := by
  unfold cacheSetGL
  split <;> rfl

end Srcpd.Command
