import Srcpd.Info.Announce
import Srcpd.Command.Scan

/-!
# SET, INIT and TERM

The handlers of these commands for locomotives, accessories, feedback contacts, the
clock and locks, with the answer of each branch.  A handler changes the tables in
stages: a default init before the test for room in the queue, the record of an
accessory before the driver is asked, an unlock before a termination.

`refuses_iff` is the exact condition under which a command that is answered with an
error has changed and announced nothing.
-/

namespace Srcpd.Handlers

open Srcpd.Command Srcpd.Info Srcpd.Queue Srcpd.Time

/-! ## Answers -/

/-- `SRCP_OK`. -/
def srcpOk : Nat := 200

/-- `SRCP_WRONGVALUE`. -/
def srcpWrongvalue : Nat := 412

/-- `SRCP_DEVICELOCKED`. -/
def srcpDevicelocked : Nat := 414

/-- `SRCP_NODATA`. -/
def srcpNodata : Nat := 416

/-- `SRCP_LISTTOOSHORT`. -/
def srcpListtooshort : Nat := 419

/-- `SRCP_UNSUPPORTEDDEVICEPROTOCOL`. -/
def srcpUnsupporteddeviceprotocol : Nat := 420

/-- `SRCP_UNSUPPORTEDDEVICE`. -/
def srcpUnsupporteddevice : Nat := 421

/-- `SRCP_UNSUPPORTEDDEVICEGROUP`. -/
def srcpUnsupporteddevicegroup : Nat := 422

/-- The 4xx and 5xx codes. -/
def isError (code : Nat) : Prop :=
  400 ≤ code ∧ code < 600

instance (code : Nat) : Decidable (isError code) :=
  inferInstanceAs (Decidable (_ ∧ _))

/-- The device groups for which a handler changes the tables. -/
inductive DeviceGroup
  | gl
  | ga
  | fb
  | time
  | lock
  deriving DecidableEq

/-- The tables, the accessory queues, and what the buses describe as their groups. -/
structure Server where
  tables : Tables
  gaQueue : Nat → Log GaState
  hasDevicegroup : Nat → DeviceGroup → Bool

/-- The code of an answer with the state behind the command and all announcements. -/
structure Answer where
  code : Nat
  server : Server
  announced : List Announcement

/-- An answer with a code only. -/
def Server.refuse (server : Server) (code : Nat) : Answer :=
  ⟨code, server, []⟩

/-- An operation on the tables and its code. -/
def Server.after (server : Server) (code : Nat) (announcing : Announcing) : Option Answer :=
  announcing.map fun result => ⟨code, { server with tables := result.1 }, result.2⟩

/-! ## SET -/

/-- The functions of a `SET GL` as bits. -/
def functionBits : List Int → Nat → BitVec 32
  | [], _ => 0
  | f :: rest, i => (if f = 0 then 0 else 1 <<< i) + functionBits rest (i + 1)

/-- The holder of the lock; nothing is stored for a locomotive that is not
initialised. -/
def cacheGetLockGL (tables : Tables) (bus : Nat) (addr : Int) : Option Nat :=
  if (tables.gl bus).isInitialized addr then some (tables.glLock bus).lockedBy else none

/-- `SET GL`: the lock of the bus is tested, then the command is queued. -/
def setGL (drivers : Drivers) (server : Server) (now bus session : Nat)
    (parameter : List Char) : Option Answer :=
  match scanLongs 33 parameter with
  | laddr :: direction :: speed :: maxspeed :: f =>
      let lockid := (cacheGetLockGL server.tables bus (int32 laddr)).getD 0
      -- only if not locked or emergency stop
      if lockid = 0 ∨ lockid = session ∨ direction = 2 then
        let command : GlCommand :=
          ⟨int32 laddr, int32 direction, int32 speed, int32 maxspeed, functionBits f 0⟩
        let result := enqueueGL (drivers.gl bus) (server.tables.glAt bus now)
          (server.tables.queue bus) command
        server.after result.1.number (server.tables.enqueueGL drivers now bus command)
      else some (server.refuse srcpDevicelocked)
  | _ => some (server.refuse srcpListtooshort)

/-- The accessories as the queue sees them, at a time. -/
def GaBus.at (ga : GaBus) (now : Nat) : Ga :=
  ⟨ga.numberOfGa, fun addr => (ga.gastate addr).toGaState, now⟩

/-- `SET GA`: the lock of the accessory is tested, then the command is queued. -/
def setGA (server : Server) (now bus session : Nat) (parameter : List Char) : Option Answer :=
  match scanLongs 4 parameter with
  | [gaddr, port, aktion, delay] =>
      let lockid := ((server.tables.ga bus).gastate (int32 gaddr)).lock.lockedBy
      if lockid = 0 ∨ lockid = session then
        let result := enqueueGA (GaBus.at (server.tables.ga bus) now) (server.gaQueue bus)
          ⟨int32 gaddr, int32 port, int32 aktion, delay⟩
        some ⟨result.1.number,
          { server with gaQueue := Function.update server.gaQueue bus result.2 }, []⟩
      else some (server.refuse srcpDevicelocked)
  | _ => some (server.refuse srcpListtooshort)

/-- `none` while the call waits for room in the reset queue. -/
def setFB (server : Server) (now bus : Nat) (parameter : List Char) : Option Answer :=
  match scanLongs 2 parameter with
  | [fbport, value] =>
      let fb := server.tables.fb bus
      (Feedback.updateFB fb now (int32 fbport) (int32 value)).map fun result =>
        ⟨result.1.number,
          { server with
            tables :=
              { server.tables with fb := Function.update server.tables.fb bus result.2 } },
          fbAnnouncements bus fb result.2 (.updateFB now (int32 fbport) (int32 value))⟩
  | _ => some (server.refuse srcpUnsupporteddevicegroup)

/-- `SET TIME`: the clock tests the time itself and changes nothing for a wrong one. -/
def setTIME (server : Server) (now : Nat) (parameter : List Char) : Option Answer :=
  match scanLongs 4 parameter with
  | [d, h, m, s] =>
      let code :=
        if (⟨int32 d, int32 h, int32 m, int32 s⟩ : Vtime).Valid then srcpOk else srcpWrongvalue
      server.after code
        (server.tables.clockOperation now (.setTIME (int32 d) (int32 h) (int32 m) (int32 s)))
  | _ => some (server.refuse srcpListtooshort)

/-- The group of locomotives behind `LOCK`. -/
def groupGL : List Char := ['G', 'L']

/-- The group of accessories behind `LOCK`. -/
def groupGA : List Char := ['G', 'A']

/-- The code of `cacheLockGL` and of `cacheUnlockGL`. -/
def lockGLCode (tables : Tables) (bus : Nat) (addr : Int) (session : Nat) : Nat :=
  if (tables.gl bus).isInitialized addr then
    if (tables.glLock bus).open session then srcpOk else srcpDevicelocked
  else srcpWrongvalue

/-- The code of `lockGA` and of `unlockGA`. -/
def lockGACode (tables : Tables) (bus : Nat) (addr : Int) (session : Nat) : Nat :=
  if ((tables.ga bus).gastate addr).lock.open session then srcpOk else srcpDevicelocked

/-- `SET LOCK`: a word for the group, then an address and a duration. -/
def setLOCK (server : Server) (now bus session : Nat) (parameter : List Char) : Option Answer :=
  match scanWord parameter with
  | some (devgrp, rest) =>
      match scanLongs 2 rest with
      | [addr, duration] =>
          if startsWith groupGL devgrp then
            server.after (lockGLCode server.tables bus (int32 addr) session)
              (server.tables.cacheLockGL now bus (int32 addr) duration session)
          else if startsWith groupGA devgrp then
            server.after (lockGACode server.tables bus (int32 addr) session)
              (server.tables.lockGA now bus (int32 addr) duration session)
          else some (server.refuse srcpUnsupporteddevicegroup)
      | _ => some (server.refuse srcpListtooshort)
  | none => some (server.refuse srcpListtooshort)

/-- `handleSET`, by device group. -/
def handleSET (drivers : Drivers) (server : Server) (now bus session : Nat)
    (parameter : List Char) : DeviceGroup → Option Answer
  | .gl => setGL drivers server now bus session parameter
  | .ga => setGA server now bus session parameter
  | .fb => setFB server now bus parameter
  | .time => setTIME server now parameter
  | .lock => setLOCK server now bus session parameter

/-! ## INIT -/

/-- `INIT GL`: an address, a protocol and up to three numbers. -/
def initGL (drivers : Drivers) (server : Server) (now bus session : Nat)
    (parameter : List Char) : Option Answer :=
  match scanLong parameter with
  | none => some (server.refuse srcpListtooshort)
  | some (addr, rest) =>
      match scanChar rest with
      | none => some (server.refuse srcpListtooshort)
      | some (prot, rest) =>
          match scanLongs 3 rest with
          | [protversion, nFs, nFunc] =>
              let lockid := (cacheGetLockGL server.tables bus (int32 addr)).getD 0
              if lockid = 0 ∨ lockid = session then
                let result := cacheInitGL (drivers.gl bus) (server.tables.glAt bus now)
                  (server.tables.queue bus) (int32 addr) prot (int32 protversion) (int32 nFs)
                  (int32 nFunc)
                server.after result.1.number
                  (server.tables.cacheInitGL drivers now bus (int32 addr) prot
                    (int32 protversion) (int32 nFs) (int32 nFunc))
              else some (server.refuse srcpDevicelocked)
          | _ => some (server.refuse srcpListtooshort)

/-- The record as `initGA` hands it to the driver. -/
def freshGA (device : GaDevice) (now : Nat) (protocol : Char) : GaDevice :=
  { device with
    protocol := protocol
    inittime := now
    activetime := 0
    action := 0
    tv := fun _ => 0 }

/-- The answer of the driver, which may change the record. -/
def GaDriver.initGA (driver : GaDriver) (device : GaDevice) : SrcpCode × GaDevice :=
  driver.initGaFunc.elim (.ok, device) fun initGaFunc => initGaFunc device

/-- The code of `initGA`; an unknown protocol and a wrong address have codes of their own. -/
def initGACode (drivers : Drivers) (tables : Tables) (now bus : Nat) (addr : Int)
    (protocol : Char) : Nat :=
  if 0 < addr ∧ addr ≤ (tables.ga bus).numberOfGa then
    if protocol ∈ (drivers.ga bus).protocols then
      (GaDriver.initGA (drivers.ga bus)
        (freshGA ((tables.ga bus).gastate addr) now protocol)).1.number
    else srcpUnsupporteddeviceprotocol
  else srcpUnsupporteddevice

/-- There is no test for a lock here. -/
def initGA (drivers : Drivers) (server : Server) (now bus : Nat) (parameter : List Char) :
    Option Answer :=
  match scanLong parameter with
  | none => some (server.refuse srcpListtooshort)
  | some (addr, rest) =>
      match scanChar rest with
      | none => some (server.refuse srcpListtooshort)
      | some (prot, _) =>
          server.after (initGACode drivers server.tables now bus (int32 addr) prot)
            (server.tables.initGA drivers now bus (int32 addr) prot)

/-- `initFbFunc` is the `init_fb_func` of the bus, which keeps its own record. -/
def initFB (initFbFunc : Nat → Option (Int → Char → Int → SrcpCode)) (server : Server)
    (bus : Nat) (parameter : List Char) : Option Answer :=
  match scanLong parameter with
  | none => some (server.refuse srcpListtooshort)
  | some (addr, rest) =>
      match scanChar rest with
      | none => some (server.refuse srcpListtooshort)
      | some (prot, rest) =>
          match scanLong rest with
          | none => some (server.refuse srcpListtooshort)
          | some (index, _) =>
              if 0 < int32 addr ∧ int32 addr ≤ (server.tables.fb bus).numberOfFb then
                let code := (initFbFunc bus).elim SrcpCode.ok fun init =>
                  init (int32 addr) prot (int32 index)
                some (server.refuse code.number)
              else some (server.refuse srcpOk)

/-- `INIT TIME`: the clock keeps its ratio when the numbers are wrong. -/
def initTIME (server : Server) (now : Nat) (parameter : List Char) : Option Answer :=
  match scanLongs 2 parameter with
  | [rx, ry] =>
      let code := if int32 rx < 0 ∨ int32 ry ≤ 0 then srcpWrongvalue else srcpOk
      server.after code (server.tables.clockOperation now (.initTIME (int32 rx) (int32 ry)))
  | _ => some (server.refuse srcpListtooshort)

/-- `handleINIT`, by device group. -/
def handleINIT (drivers : Drivers) (initFbFunc : Nat → Option (Int → Char → Int → SrcpCode))
    (server : Server) (now bus session : Nat) (parameter : List Char) :
    DeviceGroup → Option Answer
  | .gl => initGL drivers server now bus session parameter
  | .ga => initGA drivers server now bus parameter
  | .fb => initFB initFbFunc server bus parameter
  | .time => initTIME server now parameter
  | .lock => some (server.refuse srcpUnsupporteddevicegroup)

/-! ## TERM -/

/-- First brake if the speed is not 0, then the message, and the record is cleared. -/
def cacheTermGL (drivers : Drivers) (server : Server) (now bus : Nat) (addr : Int) :
    Option Answer :=
  let gltmp := (server.tables.gl bus).glstate addr
  if (server.tables.gl bus).isInitialized addr then
    let braked : Announcing :=
      if gltmp.speed ≠ 0 then
        let gltmp := { gltmp with speed := 0, state := 2, direction := 2 }
        (server.tables.enqueueGL drivers now bus ⟨addr, 2, 0, gltmp.nFs, gltmp.funcs⟩).bind
          fun stopped => (stopped.1.cacheSetGL now bus addr gltmp).map fun stored =>
            (stored.1, stopped.2 ++ stored.2)
      else some (server.tables, [])
    server.after srcpOk
      (braked.bind fun result => (result.1.clearGL now bus addr).map fun cleared =>
        (cleared.1, result.2 ++ cleared.2))
  else some (server.refuse srcpNodata)

/-- `garbage` is what `lockid` contains when nothing is stored in it. -/
def termGL (drivers : Drivers) (server : Server) (now bus session garbage : Nat)
    (parameter : List Char) : Option Answer :=
  match scanLong parameter with
  | none => some (server.refuse srcpUnsupporteddevicegroup)
  | some (addr, _) =>
      let lockid := (cacheGetLockGL server.tables bus (int32 addr)).getD garbage
      if lockid = 0 then cacheTermGL drivers server now bus (int32 addr)
      else if lockid = session then
        if lockGLCode server.tables bus (int32 addr) session = srcpOk then
          (server.after srcpOk (server.tables.cacheUnlockGL now bus (int32 addr) session)).bind
            fun unlocked =>
              (cacheTermGL drivers unlocked.server now bus (int32 addr)).map fun answer =>
                { answer with announced := unlocked.announced ++ answer.announced }
        else some (server.refuse srcpUnsupporteddevicegroup)
      else some (server.refuse srcpDevicelocked)

/-- The code of `termGA`. -/
def termGACode (tables : Tables) (bus : Nat) (addr : Int) : Nat :=
  if ((tables.ga bus).gastate addr).isInitialized then srcpOk else srcpNodata

/-- `TERM GA`: the holder of the lock unlocks before the record is cleared. -/
def termGA (server : Server) (now bus session : Nat) (parameter : List Char) : Option Answer :=
  match scanLong parameter with
  | none => some (server.refuse srcpUnsupporteddevicegroup)
  | some (addr, _) =>
      let lockid := ((server.tables.ga bus).gastate (int32 addr)).lock.lockedBy
      if lockid = 0 then
        server.after (termGACode server.tables bus (int32 addr))
          (server.tables.termGA now bus (int32 addr))
      else if lockid = session then
        (server.after srcpOk (server.tables.unlockGA now bus (int32 addr) session)).bind
          fun unlocked =>
            (unlocked.server.after (termGACode unlocked.server.tables bus (int32 addr))
              (unlocked.server.tables.termGA now bus (int32 addr))).map fun answer =>
                { answer with announced := unlocked.announced ++ answer.announced }
      else some (server.refuse srcpDevicelocked)

/-- `TERM LOCK`: a word for the group, then an address. -/
def termLOCK (server : Server) (now bus session : Nat) (parameter : List Char) : Option Answer :=
  match scanWord parameter with
  | some (devgrp, rest) =>
      match scanLong rest with
      | some (addr, _) =>
          if startsWith groupGL devgrp then
            server.after (lockGLCode server.tables bus (int32 addr) session)
              (server.tables.cacheUnlockGL now bus (int32 addr) session)
          else if startsWith groupGA devgrp then
            server.after (lockGACode server.tables bus (int32 addr) session)
              (server.tables.unlockGA now bus (int32 addr) session)
          else some (server.refuse srcpUnsupporteddevice)
      | none => some (server.refuse srcpListtooshort)
  | none => some (server.refuse srcpListtooshort)

/-- `TERM TIME` stops the clock. -/
def termTIME (server : Server) (now : Nat) : Option Answer :=
  server.after srcpOk (server.tables.clockOperation now .termTIME)

/-- `handleTERM`, by device group. -/
def handleTERM (drivers : Drivers) (server : Server) (now bus session garbage : Nat)
    (parameter : List Char) : DeviceGroup → Option Answer
  | .gl => termGL drivers server now bus session garbage parameter
  | .ga => termGA server now bus session parameter
  | .fb => some (server.refuse srcpUnsupporteddevicegroup)
  | .time => termTIME server now
  | .lock => termLOCK server now bus session parameter

/-! ## Command lines -/

/-- The commands that change the tables. -/
inductive Verb
  | set
  | init
  | term
  deriving DecidableEq

/-- A command line for one of the groups, with the session that sent it. -/
structure CommandLine where
  verb : Verb
  bus : Nat
  group : DeviceGroup
  session : Nat
  parameter : List Char

/-- What the handlers depend on besides the tables: the drivers, the time, and the
content of an uninitialised variable. -/
structure Environment where
  drivers : Drivers
  initFbFunc : Nat → Option (Int → Char → Int → SrcpCode)
  now : Nat
  garbage : Nat

/-- A command line at the handler of its command, once its bus has the device group. -/
def handle (env : Environment) (server : Server) (line : CommandLine) : Option Answer :=
  if server.hasDevicegroup line.bus line.group then
    match line.verb with
    | .set =>
        handleSET env.drivers server env.now line.bus line.session line.parameter line.group
    | .init =>
        handleINIT env.drivers env.initFbFunc server env.now line.bus line.session
          line.parameter line.group
    | .term =>
        handleTERM env.drivers server env.now line.bus line.session env.garbage line.parameter
          line.group
  else some (server.refuse srcpUnsupporteddevicegroup)

/-! ## What has to hold -/

/-- An error has changed nothing and announced nothing. -/
def Refuses (server : Server) (answer : Answer) : Prop :=
  isError answer.code → answer.server = server ∧ answer.announced = []

/-- Room for the stop command of a default init and for the command itself. -/
def RoomForTwo (queue : Log GlState) : Prop :=
  glQueue.isFull queue.ring = false ∧
    ∀ entry, glQueue.isFull (queue.ring.put glQueuelen entry) = false

/-- A default init has room for both of its commands, the driver accepts an accessory
or restores its record, and an accessory that is terminated by the holder of its lock
is initialised. -/
def LeavesAlone (env : Environment) (server : Server) (line : CommandLine) : Prop :=
  server.hasDevicegroup line.bus line.group = true →
    match line.verb, line.group with
    | .set, .gl =>
        ∀ laddr direction speed maxspeed f,
          scanLongs 33 line.parameter = laddr :: direction :: speed :: maxspeed :: f →
            let gl := server.tables.glAt line.bus env.now
            let queue := server.tables.queue line.bus
            gl.isValid (int32 laddr) = true → gl.isInitialized (int32 laddr) = false →
              (cacheInitGL (env.drivers.gl line.bus) gl queue (int32 laddr) 'P' 1 14 1).1 = .ok →
                RoomForTwo queue
    | .init, .ga =>
        ∀ addr rest prot behind, scanLong line.parameter = some (addr, rest) →
          scanChar rest = some (prot, behind) →
            let ga := server.tables.ga line.bus
            let init := GaDriver.initGA (env.drivers.ga line.bus)
              (freshGA (ga.gastate (int32 addr)) env.now prot)
            0 < int32 addr ∧ int32 addr ≤ ga.numberOfGa →
              prot ∈ (env.drivers.ga line.bus).protocols → isError init.1.number →
                init.2 = ga.gastate (int32 addr)
    | .term, .ga =>
        ∀ addr rest, scanLong line.parameter = some (addr, rest) →
          let device := (server.tables.ga line.bus).gastate (int32 addr)
          device.lock.lockedBy ≠ 0 → device.lock.lockedBy = line.session →
            device.isInitialized = true
    | _, _ => True

/-! ## The default init -/

section

variable {drivers : Drivers} {server : Server} {answer : Answer} {now bus session garbage : Nat}
  {parameter : List Char} {code : Nat} {announcing : Announcing} {gl : Gl} {queue : Log GlState}

/-- A default init that succeeds queues the stop command. -/
theorem cacheInitGL_queue {driver : GlDriver} {addr : Int} {protocol : Char}
    {protoversion nFs nFunc : Int}
    (ok : (cacheInitGL driver gl queue addr protocol protoversion nFs nFunc).1 = .ok) :
    ∃ next, (cacheInitGL driver gl queue addr protocol protoversion nFs nFunc).2.2 =
      (enqueueInitializedGL next queue ⟨addr, 0, 0, 1, 0⟩).2 := by
  obtain ⟨-, -, -, result⟩ := cacheInitGL_ok ok
  rw [result]
  exact ⟨_, rfl⟩

theorem roomForTwo_iff {next : Gl} {command : GlCommand} :
    RoomForTwo queue ↔
      glQueue.isFull (enqueueInitializedGL next queue command).2.ring = false := by
  rw [enqueueInitializedGL]
  by_cases full : glQueue.isFull queue.ring = true
  · rw [if_pos full]
    exact ⟨fun room => room.1, fun notFull => by rw [full] at notFull; cases notFull⟩
  · rw [if_neg full]
    exact ⟨fun room => room.2 _, fun notFull => ⟨Bool.eq_false_iff.mpr full, fun _ => notFull⟩⟩

theorem isError_temporarilyProhibited : isError SrcpCode.temporarilyProhibited.number := by
  decide

theorem not_isError_ok : ¬ isError srcpOk := by
  decide

theorem enqueueInitializedGL_code {command : GlCommand} :
    isError (enqueueInitializedGL gl queue command).1.number ↔
      glQueue.isFull queue.ring = true := by
  rw [enqueueInitializedGL]
  split
  · rename_i full
    exact iff_of_true isError_temporarilyProhibited full
  · rename_i room
    exact iff_of_false not_isError_ok room

theorem enqueueInitializedGL_full {command : GlCommand}
    (full : glQueue.isFull queue.ring = true) :
    (enqueueInitializedGL gl queue command).2 = queue := by
  rw [enqueueInitializedGL, if_pos full]

/-! ## The handlers one by one -/

theorem refuses_refuse : Refuses server (server.refuse code) := fun _ => ⟨rfl, rfl⟩

theorem refuses_of_ok (ok : ¬ isError answer.code) : Refuses server answer := fun error =>
  absurd error ok

theorem refuses_after (handled : server.after code announcing = some answer)
    (unchanged : isError code → announcing = some (server.tables, [])) :
    Refuses server answer := by
  rcases Option.map_eq_some_iff.mp handled with ⟨⟨tables, texts⟩, taken, rfl⟩
  intro error
  rw [unchanged error] at taken
  cases taken
  exact ⟨rfl, rfl⟩

theorem setGl_same {tables : Tables} : tables.setGl bus (tables.glAt bus now) = tables := by
  simp only [Tables.setGl, Tables.glAt, Function.update_eq_self]

/-- The stages of an `enqueueGL`. -/
theorem enqueueGL_eq {driver : GlDriver} {command : GlCommand}
    (valid : gl.isValid command.addr = true) {stage : Gl × Log GlState}
    (staged : stage = if gl.isInitialized command.addr then (gl, queue)
      else (cacheInitGL driver gl queue command.addr 'P' 1 14 1).2) :
    enqueueGL driver gl queue command =
      ((enqueueInitializedGL stage.1 stage.2 command).1, stage.1,
        (enqueueInitializedGL stage.1 stage.2 command).2) := by
  rw [enqueueGL, if_pos valid, staged]

/-- A `SET GL` is atomic unless its default init takes the last free place. -/
theorem refuses_enqueueGL_iff {command : GlCommand}
    (handled : server.after
      (enqueueGL (drivers.gl bus) (server.tables.glAt bus now) (server.tables.queue bus)
        command).1.number (server.tables.enqueueGL drivers now bus command) = some answer) :
    Refuses server answer ↔
      ((server.tables.glAt bus now).isValid command.addr = true →
        (server.tables.glAt bus now).isInitialized command.addr = false →
          (cacheInitGL (drivers.gl bus) (server.tables.glAt bus now) (server.tables.queue bus)
            command.addr 'P' 1 14 1).1 = .ok →
              RoomForTwo (server.tables.queue bus)) := by
  by_cases valid : (server.tables.glAt bus now).isValid command.addr = true
  · by_cases living : (server.tables.glAt bus now).isInitialized command.addr = true
    · have result : enqueueGL (drivers.gl bus) (server.tables.glAt bus now)
          (server.tables.queue bus) command = _ := enqueueGL_eq valid (if_pos living).symm
      refine iff_of_true (refuses_after handled fun error => ?_) ?_
      · rw [result, enqueueInitializedGL_code] at error
        simp only [Tables.enqueueGL, result, enqueueInitializedGL_full error, living,
          Function.update_eq_self, setGl_same]
        simp
      · intro _ dead
        rw [living] at dead
        cases dead
    · have result : enqueueGL (drivers.gl bus) (server.tables.glAt bus now)
          (server.tables.queue bus) command = _ := enqueueGL_eq valid (if_neg living).symm
      have dead : (server.tables.glAt bus now).isInitialized command.addr = false :=
        Bool.eq_false_iff.mpr living
      by_cases init : (cacheInitGL (drivers.gl bus) (server.tables.glAt bus now)
          (server.tables.queue bus) command.addr 'P' 1 14 1).1 = .ok
      · rcases cacheInitGL_queue init with ⟨after, queued⟩
        rcases Option.map_eq_some_iff.mp handled with ⟨⟨tables, texts⟩, taken, rfl⟩
        have announced : texts ≠ [] := by
          simp only [Tables.enqueueGL, Option.some.injEq, Prod.mk.injEq] at taken
          rw [← taken.2, if_pos ⟨valid, dead, init⟩]
          exact List.cons_ne_nil _ _
        have code : isError (enqueueGL (drivers.gl bus) (server.tables.glAt bus now)
            (server.tables.queue bus) command).1.number ↔
              ¬ RoomForTwo (server.tables.queue bus) := by
          rw [result, enqueueInitializedGL_code, roomForTwo_iff, queued, Bool.not_eq_false]
        constructor
        · intro refuses _ _ _
          by_contra full
          exact announced (refuses (code.mpr full)).2
        · intro room error
          exact absurd (room valid dead init) (code.mp error)
      · have same := cacheInitGL_refused init
        refine iff_of_true (refuses_after handled fun error => ?_) ?_
        · rw [result, enqueueInitializedGL_code, same] at error
          simp only [Tables.enqueueGL, result, same, enqueueInitializedGL_full error, init,
            Function.update_eq_self, setGl_same]
          simp
        · intro _ _ ok
          exact absurd ok init
  · have result : enqueueGL (drivers.gl bus) (server.tables.glAt bus now)
        (server.tables.queue bus) command =
          (.wrongValue, server.tables.glAt bus now, server.tables.queue bus) := by
      rw [enqueueGL, if_neg valid]
    refine iff_of_true (refuses_after handled fun error => ?_) ?_
    · simp only [Tables.enqueueGL, result, valid, Function.update_eq_self, setGl_same]
      simp
    · intro isValid
      exact absurd isValid valid

theorem refuses_setGL_iff (handled : setGL drivers server now bus session parameter = some answer) :
    Refuses server answer ↔
      ∀ laddr direction speed maxspeed f,
        scanLongs 33 parameter = laddr :: direction :: speed :: maxspeed :: f →
          let gl := server.tables.glAt bus now
          let queue := server.tables.queue bus
          gl.isValid (int32 laddr) = true → gl.isInitialized (int32 laddr) = false →
            (cacheInitGL (drivers.gl bus) gl queue (int32 laddr) 'P' 1 14 1).1 = .ok →
              RoomForTwo queue := by
  unfold setGL at handled
  split at handled
  · rename_i laddr direction speed maxspeed f scanned
    have only : (∀ laddr' direction' speed' maxspeed' f',
        scanLongs 33 parameter = laddr' :: direction' :: speed' :: maxspeed' :: f' →
          let gl := server.tables.glAt bus now
          let queue := server.tables.queue bus
          gl.isValid (int32 laddr') = true → gl.isInitialized (int32 laddr') = false →
            (cacheInitGL (drivers.gl bus) gl queue (int32 laddr') 'P' 1 14 1).1 = .ok →
              RoomForTwo queue) ↔
        ((server.tables.glAt bus now).isValid (int32 laddr) = true →
          (server.tables.glAt bus now).isInitialized (int32 laddr) = false →
            (cacheInitGL (drivers.gl bus) (server.tables.glAt bus now) (server.tables.queue bus)
              (int32 laddr) 'P' 1 14 1).1 = .ok → RoomForTwo (server.tables.queue bus)) := by
      constructor
      · intro all
        exact all _ _ _ _ _ scanned
      · intro this laddr' direction' speed' maxspeed' f' scanned'
        rw [scanned] at scanned'
        cases scanned'
        exact this
    rw [only]
    dsimp only at handled
    split at handled
    · exact refuses_enqueueGL_iff handled
    · rename_i locked
      cases handled
      refine iff_of_true refuses_refuse fun _ dead _ => ?_
      have unlocked : cacheGetLockGL server.tables bus (int32 laddr) = none := by
        rw [cacheGetLockGL, if_neg]
        exact Bool.eq_false_iff.mp dead
      rw [unlocked] at locked
      exact absurd (.inl rfl) locked
  · rename_i short
    cases handled
    refine iff_of_true refuses_refuse ?_
    intro laddr direction speed maxspeed f scanned
    exact absurd scanned (short laddr direction speed maxspeed f)

theorem enqueueGA_refused {ga : Ga} {gaQueue : Log GaState} {command : GaCommand}
    (error : isError (enqueueGA ga gaQueue command).1.number) :
    (enqueueGA ga gaQueue command).2 = gaQueue := by
  rw [enqueueGA] at error ⊢
  split
  · rename_i accepted
    rw [if_pos accepted] at error
    split
    · rfl
    · rename_i room
      rw [if_neg room] at error
      exact absurd error not_isError_ok
  · rfl

theorem refuses_setGA (handled : setGA server now bus session parameter = some answer) :
    Refuses server answer := by
  unfold setGA at handled
  split at handled
  · dsimp only at handled
    split at handled
    · cases handled
      intro error
      rw [enqueueGA_refused error, Function.update_eq_self]
      exact ⟨rfl, rfl⟩
    · cases handled
      exact refuses_refuse
  · cases handled
    exact refuses_refuse

theorem updateFB_refused {fb : Feedback.Fb} {time port value : Int}
    {result : SrcpCode × Feedback.Fb}
    (returned : Feedback.updateFB fb time port value = some result)
    (error : isError result.1.number) :
    (port > fb.numberOfFb ∨ port < 1) ∧ result.2 = fb := by
  unfold Feedback.updateFB at returned
  split at returned
  · rename_i outside
    cases returned
    exact ⟨outside, rfl⟩
  · exfalso
    dsimp only at returned
    repeat' split at returned
    all_goals first
      | cases returned
        exact not_isError_ok error
      | rcases Option.map_eq_some_iff.mp returned with ⟨queued, _, rfl⟩
        exact not_isError_ok error

theorem refuses_setFB (handled : setFB server now bus parameter = some answer) :
    Refuses server answer := by
  unfold setFB at handled
  split at handled
  · rcases Option.map_eq_some_iff.mp handled with ⟨result, returned, rfl⟩
    intro error
    rcases updateFB_refused returned error with ⟨outside, same⟩
    constructor
    · rw [same, Function.update_eq_self]
    · simp only [fbAnnouncements, Feedback.updateInfos, if_pos outside, List.map_nil]
  · cases handled
    exact refuses_refuse

theorem refuses_setTIME (handled : setTIME server now parameter = some answer) :
    Refuses server answer := by
  unfold setTIME at handled
  split at handled
  · apply refuses_after handled
    intro error
    split at error
    · exact absurd error not_isError_ok
    · rename_i invalid
      simp only [Tables.clockOperation, clockStep, Option.map_some, if_neg invalid]
      rw [Time.setTIME, if_pos (not_not.mp invalid)]
  · cases handled
    exact refuses_refuse

theorem lockGLCode_error {tables : Tables} {addr : Int}
    (error : isError (lockGLCode tables bus addr session)) :
    ¬ ((tables.gl bus).isInitialized addr = true ∧ (tables.glLock bus).open session) := by
  rintro ⟨initialized, isOpen⟩
  rw [lockGLCode, if_pos initialized, if_pos isOpen] at error
  exact not_isError_ok error

theorem lockGACode_error {tables : Tables} {addr : Int}
    (error : isError (lockGACode tables bus addr session)) :
    ¬ ((tables.ga bus).gastate addr).lock.open session := by
  intro isOpen
  rw [lockGACode, if_pos isOpen] at error
  exact not_isError_ok error

theorem refuses_setLOCK (handled : setLOCK server now bus session parameter = some answer) :
    Refuses server answer := by
  unfold setLOCK at handled
  repeat' split at handled
  · apply refuses_after handled
    intro error
    rw [Tables.cacheLockGL, if_neg (lockGLCode_error error)]
  · apply refuses_after handled
    intro error
    simp only [Tables.lockGA, if_neg (lockGACode_error error)]
  all_goals
    cases handled
    exact refuses_refuse

theorem refuses_termLOCK (handled : termLOCK server now bus session parameter = some answer) :
    Refuses server answer := by
  unfold termLOCK at handled
  repeat' split at handled
  · apply refuses_after handled
    intro error
    rw [Tables.cacheUnlockGL, if_neg (lockGLCode_error error)]
  · apply refuses_after handled
    intro error
    simp only [Tables.unlockGA, if_neg (lockGACode_error error)]
  all_goals
    cases handled
    exact refuses_refuse

theorem refuses_cacheInitGL {addr : Int} {protocol : Char} {protoversion nFs nFunc : Int}
    (handled : server.after
      (cacheInitGL (drivers.gl bus) (server.tables.glAt bus now) (server.tables.queue bus) addr
        protocol protoversion nFs nFunc).1.number
      (server.tables.cacheInitGL drivers now bus addr protocol protoversion nFs nFunc) =
        some answer) : Refuses server answer := by
  apply refuses_after handled
  intro error
  have refused : (cacheInitGL (drivers.gl bus) (server.tables.glAt bus now)
      (server.tables.queue bus) addr protocol protoversion nFs nFunc).1 ≠ .ok := by
    intro ok
    rw [ok] at error
    exact not_isError_ok error
  simp only [Tables.cacheInitGL, cacheInitGL_refused refused, if_neg refused,
    Function.update_eq_self, setGl_same]

theorem refuses_initGL (handled : initGL drivers server now bus session parameter = some answer) :
    Refuses server answer := by
  unfold initGL at handled
  dsimp only at handled
  repeat' split at handled
  · cases handled
    exact refuses_refuse
  · cases handled
    exact refuses_refuse
  · exact refuses_cacheInitGL handled
  · cases handled
    exact refuses_refuse
  · cases handled
    exact refuses_refuse

theorem setGa_eq_iff {tables : Tables} {addr : Int} {device : GaDevice} :
    tables.setGa bus addr device = tables ↔ device = (tables.ga bus).gastate addr := by
  constructor
  · intro same
    have entry := congrArg (fun tables : Tables => (tables.ga bus).gastate addr) same
    simpa [Tables.setGa] using entry
  · rintro rfl
    simp only [Tables.setGa, Function.update_eq_self]

/-- An `INIT GA` is atomic unless the driver refuses the record and leaves another. -/
theorem refuses_initGACode_iff {addr : Int} {protocol : Char}
    (handled : server.after (initGACode drivers server.tables now bus addr protocol)
      (server.tables.initGA drivers now bus addr protocol) = some answer) :
    Refuses server answer ↔
      (0 < addr ∧ addr ≤ (server.tables.ga bus).numberOfGa →
        protocol ∈ (drivers.ga bus).protocols →
          isError (GaDriver.initGA (drivers.ga bus)
            (freshGA ((server.tables.ga bus).gastate addr) now protocol)).1.number →
              (GaDriver.initGA (drivers.ga bus)
                (freshGA ((server.tables.ga bus).gastate addr) now protocol)).2 =
                  (server.tables.ga bus).gastate addr) := by
  by_cases inRange : 0 < addr ∧ addr ≤ (server.tables.ga bus).numberOfGa
  · by_cases supported : protocol ∈ (drivers.ga bus).protocols
    · have accepted : 0 < addr ∧ addr ≤ (server.tables.ga bus).numberOfGa ∧
          protocol ∈ (drivers.ga bus).protocols := ⟨inRange.1, inRange.2, supported⟩
      have code : initGACode drivers server.tables now bus addr protocol =
          (GaDriver.initGA (drivers.ga bus)
            (freshGA ((server.tables.ga bus).gastate addr) now protocol)).1.number := by
        rw [initGACode, if_pos inRange, if_pos supported]
      rw [code] at handled
      by_cases error : isError (GaDriver.initGA (drivers.ga bus)
          (freshGA ((server.tables.ga bus).gastate addr) now protocol)).1.number
      · have refused : (GaDriver.initGA (drivers.ga bus)
            (freshGA ((server.tables.ga bus).gastate addr) now protocol)).1 ≠ .ok := by
          intro ok
          rw [ok] at error
          exact not_isError_ok error
        have left : server.tables.initGA drivers now bus addr protocol =
            some (server.tables.setGa bus addr (GaDriver.initGA (drivers.ga bus)
              (freshGA ((server.tables.ga bus).gastate addr) now protocol)).2, []) := by
          rw [Tables.initGA, if_pos accepted]
          exact if_neg refused
        rw [left] at handled
        cases handled
        constructor
        · intro refuses _ _ _
          exact setGa_eq_iff.mp (congrArg Server.tables (refuses error).1)
        · intro restores _
          refine ⟨?_, rfl⟩
          simp only [setGa_eq_iff.mpr (restores inRange supported error)]
      · rcases Option.map_eq_some_iff.mp handled with ⟨result, _, rfl⟩
        exact iff_of_true (refuses_of_ok error) fun _ _ isErr => absurd isErr error
    · refine iff_of_true (refuses_after handled fun _ => ?_) fun _ mem => absurd mem supported
      rw [Tables.initGA, if_neg fun accepted => supported accepted.2.2]
  · refine iff_of_true (refuses_after handled fun _ => ?_) fun inside => absurd inside inRange
    rw [Tables.initGA, if_neg fun accepted => inRange ⟨accepted.1, accepted.2.1⟩]

theorem refuses_initFB {initFbFunc : Nat → Option (Int → Char → Int → SrcpCode)}
    (handled : initFB initFbFunc server bus parameter = some answer) :
    Refuses server answer := by
  unfold initFB at handled
  dsimp only at handled
  repeat' split at handled
  all_goals
    cases handled
    exact refuses_refuse

theorem refuses_initTIME (handled : initTIME server now parameter = some answer) :
    Refuses server answer := by
  unfold initTIME at handled
  split at handled
  · apply refuses_after handled
    intro error
    split at error
    · rename_i wrong
      simp only [Tables.clockOperation, clockStep, Option.map_some, if_pos wrong]
    · exact absurd error not_isError_ok
  · cases handled
    exact refuses_refuse

theorem cacheTermGL_code {addr : Int}
    (initialized : (server.tables.gl bus).isInitialized addr = true)
    (handled : cacheTermGL drivers server now bus addr = some answer) : answer.code = srcpOk := by
  unfold cacheTermGL at handled
  dsimp only at handled
  rw [if_pos initialized] at handled
  rcases Option.map_eq_some_iff.mp handled with ⟨result, _, rfl⟩
  rfl

theorem refuses_cacheTermGL {addr : Int}
    (handled : cacheTermGL drivers server now bus addr = some answer) :
    Refuses server answer := by
  by_cases initialized : (server.tables.gl bus).isInitialized addr = true
  · apply refuses_of_ok
    rw [cacheTermGL_code initialized handled]
    exact not_isError_ok
  · unfold cacheTermGL at handled
    dsimp only at handled
    rw [if_neg initialized] at handled
    cases handled
    exact refuses_refuse

/-- An unlock leaves the locomotives alone. -/
theorem cacheUnlockGL_gl {tables after : Tables} {addr : Int} {texts : List Announcement}
    (taken : tables.cacheUnlockGL now bus addr session = some (after, texts)) :
    after.gl = tables.gl := by
  unfold Tables.cacheUnlockGL at taken
  split at taken
  · cases taken
    rfl
  · cases taken
    rfl

theorem refuses_termGL
    (handled : termGL drivers server now bus session garbage parameter = some answer) :
    Refuses server answer := by
  unfold termGL at handled
  dsimp only at handled
  split at handled
  · cases handled
    exact refuses_refuse
  · rename_i addr _ _
    split at handled
    · exact refuses_cacheTermGL handled
    · split at handled
      · split at handled
        · rename_i unlocks
          have initialized : (server.tables.gl bus).isInitialized (int32 addr) = true := by
            by_contra dead
            rw [lockGLCode, if_neg dead] at unlocks
            cases unlocks
          rcases Option.bind_eq_some_iff.mp handled with ⟨unlocked, released, terminated⟩
          rcases Option.map_eq_some_iff.mp released with ⟨⟨tables, texts⟩, taken, rfl⟩
          rcases Option.map_eq_some_iff.mp terminated with ⟨result, done, rfl⟩
          have still : (tables.gl bus).isInitialized (int32 addr) = true := by
            rw [cacheUnlockGL_gl taken]
            exact initialized
          apply refuses_of_ok
          rw [cacheTermGL_code still done]
          exact not_isError_ok
        · cases handled
          exact refuses_refuse
      · cases handled
        exact refuses_refuse

theorem termGACode_error {tables : Tables} {addr : Int} :
    isError (termGACode tables bus addr) ↔
      ¬ ((tables.ga bus).gastate addr).isInitialized = true := by
  rw [termGACode]
  split
  · rename_i initialized
    exact iff_of_false not_isError_ok (not_not.mpr initialized)
  · rename_i dead
    exact iff_of_true (by decide) dead

/-- The unlock in front of a `TERM GA` happens whatever its end is. -/
theorem refuses_termGA_iff (handled : termGA server now bus session parameter = some answer) :
    Refuses server answer ↔
      ∀ addr rest, scanLong parameter = some (addr, rest) →
        let device := (server.tables.ga bus).gastate (int32 addr)
        device.lock.lockedBy ≠ 0 → device.lock.lockedBy = session →
          device.isInitialized = true := by
  unfold termGA at handled
  dsimp only at handled
  split at handled
  · rename_i nothing
    cases handled
    refine iff_of_true refuses_refuse ?_
    intro addr rest scanned
    rw [nothing] at scanned
    cases scanned
  · rename_i addr rest scanned
    have only (property : Int → Prop) :
        (∀ addr' rest', scanLong parameter = some (addr', rest') → property addr') ↔
          property addr := by
      constructor
      · intro all
        exact all addr rest scanned
      · intro this addr' rest' scanned'
        rw [scanned] at scanned'
        cases scanned'
        exact this
    refine Iff.trans ?_ (only _).symm
    dsimp only
    split at handled
    · rename_i free
      refine iff_of_true (refuses_after handled fun error => ?_) fun taken => absurd free taken
      rw [Tables.termGA, if_neg (termGACode_error.mp error)]
    · rename_i taken
      split at handled
      · rename_i own
        have isOpen : ((server.tables.ga bus).gastate (int32 addr)).lock.open session := .inl own
        rcases Option.bind_eq_some_iff.mp handled with ⟨unlocked, released, terminated⟩
        simp only [Server.after, Tables.unlockGA, if_pos isOpen, Option.map_some,
          Option.some.injEq] at released
        subst released
        rcases Option.map_eq_some_iff.mp terminated with ⟨result, done, rfl⟩
        rcases Option.map_eq_some_iff.mp done with ⟨⟨tables, texts⟩, _, rfl⟩
        have same : ∀ device : GaDevice, ∀ lock : LockState,
            ({ device with lock := lock } : GaDevice).isInitialized = device.isInitialized :=
          fun _ _ => rfl
        constructor
        · intro refuses _ _
          by_contra dead
          have error : isError (termGACode (server.tables.setGa bus (int32 addr)
              { (server.tables.ga bus).gastate (int32 addr) with
                lock := { ((server.tables.ga bus).gastate (int32 addr)).lock with
                  lockedBy := 0, locktime := now } }) bus (int32 addr)) := by
            rw [termGACode_error]
            simp only [Tables.setGa, Function.update_self, same]
            exact dead
          have silent := (refuses error).2
          simp at silent
        · intro initialized
          apply refuses_of_ok
          rw [termGACode_error, not_not]
          simp only [Tables.setGa, Function.update_self, same]
          exact initialized taken own
      · rename_i other
        cases handled
        exact iff_of_true refuses_refuse fun _ own => absurd own other

theorem refuses_termTIME (handled : termTIME server now = some answer) :
    Refuses server answer :=
  refuses_after handled fun error => absurd error not_isError_ok

theorem refuses_initGA_iff (handled : initGA drivers server now bus parameter = some answer) :
    Refuses server answer ↔
      ∀ addr rest prot behind, scanLong parameter = some (addr, rest) →
        scanChar rest = some (prot, behind) →
          let ga := server.tables.ga bus
          let init := GaDriver.initGA (drivers.ga bus)
            (freshGA (ga.gastate (int32 addr)) now prot)
          0 < int32 addr ∧ int32 addr ≤ ga.numberOfGa →
            prot ∈ (drivers.ga bus).protocols → isError init.1.number →
              init.2 = ga.gastate (int32 addr) := by
  unfold initGA at handled
  split at handled
  · rename_i nothing
    cases handled
    refine iff_of_true refuses_refuse ?_
    intro addr rest prot behind scanned
    rw [nothing] at scanned
    cases scanned
  · rename_i addr rest scanned
    split at handled
    · rename_i nothing
      cases handled
      refine iff_of_true refuses_refuse ?_
      intro addr' rest' prot' behind' scanned' read'
      rw [scanned] at scanned'
      cases scanned'
      rw [nothing] at read'
      cases read'
    · rename_i prot behind read
      rw [refuses_initGACode_iff handled]
      constructor
      · intro restores addr' rest' prot' behind' scanned' read'
        rw [scanned] at scanned'
        cases scanned'
        rw [read] at read'
        cases read'
        exact restores
      · intro all
        exact all addr rest prot behind scanned read

end

/-- A command of a line that is answered with an error has changed and announced
nothing, if and only if a default init has room for its two commands, the driver
accepts an accessory or restores its record, and an accessory that the holder of its
lock terminates is initialised. -/
theorem refuses_iff (env : Environment) (server : Server) (line : CommandLine) (answer : Answer)
    (handled : handle env server line = some answer) :
    Refuses server answer ↔ LeavesAlone env server line := by
  unfold handle at handled
  split at handled
  · rename_i has
    rcases line with ⟨verb, bus, group, session, parameter⟩
    have given (property : Prop) : (server.hasDevicegroup bus group = true → property) ↔ property :=
      ⟨fun all => all has, fun this _ => this⟩
    refine Iff.trans ?_ (given _).symm
    cases verb with
    | set =>
        cases group with
        | gl => exact refuses_setGL_iff handled
        | ga => exact iff_of_true (refuses_setGA handled) trivial
        | fb => exact iff_of_true (refuses_setFB handled) trivial
        | time => exact iff_of_true (refuses_setTIME handled) trivial
        | lock => exact iff_of_true (refuses_setLOCK handled) trivial
    | init =>
        cases group with
        | gl => exact iff_of_true (refuses_initGL handled) trivial
        | ga => exact refuses_initGA_iff handled
        | fb => exact iff_of_true (refuses_initFB handled) trivial
        | time => exact iff_of_true (refuses_initTIME handled) trivial
        | lock =>
            cases handled
            exact iff_of_true refuses_refuse trivial
    | term =>
        cases group with
        | gl => exact iff_of_true (refuses_termGL handled) trivial
        | ga => exact refuses_termGA_iff handled
        | fb =>
            cases handled
            exact iff_of_true refuses_refuse trivial
        | time => exact iff_of_true (refuses_termTIME handled) trivial
        | lock => exact iff_of_true (refuses_termLOCK handled) trivial
  · rename_i hasNot
    cases handled
    exact iff_of_true refuses_refuse fun has => absurd has hasNot

/-! ## The three exceptions -/

/-- As the loopback bus: protocol 'L' is announced, but no accessory may have it. -/
def loopbackDrivers : Drivers where
  gl := fun _ => ⟨['L', 'S', 'P', 'M', 'N'], none⟩
  ga := fun _ => ⟨['L', 'S', 'P', 'M', 'N'], some fun device =>
    if device.protocol = 'L' then (.unsupportedDeviceProtocol, device) else (.ok, device)⟩
  glProtocols := fun _ => printable_of_isPrintable rfl
  gaProtocols := fun _ => printable_of_isPrintable rfl
  glInit := fun _ _ none => by cases none
  gaInit := by
    rintro bus init here device printable
    cases here
    dsimp only
    split
    · exact printable
    · exact printable

/-- One bus with the loopback driver, which accepts every init. -/
def loopback : Environment :=
  { drivers := loopbackDrivers, initFbFunc := fun _ => none, now := 7, garbage := 0 }

/-- Nothing is initialised; session 1 holds the lock of accessory 5. -/
def lockedServer : Server where
  tables := startedTables.setGa 1 5 { GaDevice.zero with lock := ⟨1, 60, 0⟩ }
  gaQueue := fun _ => ⟨⟨fun _ => (GaDevice.zero).toGaState, 0, 0⟩, [], []⟩
  hasDevicegroup := fun _ _ => true

/-- One place of the locomotive queue of each bus is free. -/
def busyServer : Server :=
  { lockedServer with
    tables :=
      { startedTables with
        queue := fun _ => ⟨⟨fun _ => .zero, 48, 0⟩, List.replicate 48 .zero, []⟩ } }

/-- A command for a new locomotive that is prohibited, an accessory that the driver
refuses, and a termination of an accessory that is not initialised. -/
theorem errors_with_effect :
    (∃ answer, handle loopback busyServer ⟨.set, 1, .gl, 2, "3 1 5 14".toList⟩ = some answer ∧
      answer.code = 413 ∧ ¬ Refuses busyServer answer) ∧
    (∃ answer, handle loopback lockedServer ⟨.init, 1, .ga, 2, "4 L".toList⟩ = some answer ∧
      answer.code = 420 ∧ ¬ Refuses lockedServer answer) ∧
    (∃ answer, handle loopback lockedServer ⟨.term, 1, .ga, 1, "5".toList⟩ = some answer ∧
      answer.code = 416 ∧ ¬ Refuses lockedServer answer) := by
  refine ⟨⟨_, rfl, rfl, fun refuses => ?_⟩, ⟨_, rfl, rfl, fun refuses => ?_⟩,
    ⟨_, rfl, rfl, fun refuses => ?_⟩⟩
  · have silent := (refuses (by decide)).2
    cases silent
  · have same := congrArg (fun server : Server => ((server.tables.ga 1).gastate 4).protocol)
      (refuses (by decide)).1
    exact absurd same (by decide)
  · have silent := (refuses (by decide)).2
    cases silent

/-- Locomotive 3 is initialised, and the queue of each bus is full. -/
def fullServer : Server :=
  { lockedServer with
    tables :=
      { startedTables with
        gl := fun _ => ⟨true, 10, fun addr => if addr = 3 then { GlState.zero with state := 1 }
          else .zero, 0⟩
        queue := fun _ => ⟨⟨fun _ => .zero, 49, 0⟩, List.replicate 49 .zero, []⟩ } }

theorem refuses_iff_full :
    ∃ answer, handle loopback fullServer ⟨.set, 1, .gl, 2, "3 1 5 14".toList⟩ = some answer ∧
      answer.code = 413 ∧ Refuses fullServer answer := by
  refine ⟨_, rfl, rfl,
    (refuses_iff loopback fullServer ⟨.set, 1, .gl, 2, "3 1 5 14".toList⟩ _ rfl).mpr ?_⟩
  intro _ laddr direction speed maxspeed f scanned gl queue _ dead
  have numbers : scanLongs 33 "3 1 5 14".toList = [3, 1, 5, 14] := by decide
  cases numbers.symm.trans scanned
  exact absurd dead (by decide)

end Srcpd.Handlers
