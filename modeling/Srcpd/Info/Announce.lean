import Srcpd.Info.Text
import Srcpd.Command.Queues
import Srcpd.Time.Clock
import Srcpd.Feedback.Fb

/-!
# The producers of INFO messages

Every change of the clock, a locomotive, an accessory, a feedback contact or a lock
is announced: a formatter writes a text to a buffer, and the buffer goes to all INFO
sessions.  The formatters leave the buffer empty or untouched when there is nothing
to say, and cut what is too long, and their answers are not looked at.

`announces_iff` is the exact condition under which every announcement of a run is a
complete line.
-/

namespace Srcpd.Info

open Srcpd.Command Srcpd.Feedback Srcpd.Queue Srcpd.Time Srcpd.Transition

/-! ## The tables -/

/-- The time of a lock is in microseconds, its duration in seconds. -/
structure LockState where
  lockedBy : Nat
  lockduration : Int
  locktime : Nat

/-- Accessory decoder with the fields that the queue does not use. -/
structure GaDevice extends GaState where
  state : Nat
  inittime : Nat
  lock : LockState

/-- The accessories of a bus. -/
structure GaBus where
  numberOfGa : Int
  gastate : Int → GaDevice

/-- What the driver of the bus supplies for accessories. -/
structure GaDriver where
  protocols : List Char
  initGaFunc : Option (GaDevice → SrcpCode × GaDevice)

/-- The drivers of the buses: their protocols are printable, and an init leaves a
printable protocol. -/
structure Drivers where
  gl : Nat → GlDriver
  ga : Nat → GaDriver
  glProtocols : ∀ bus, ∀ protocol ∈ (gl bus).protocols, Printable protocol
  gaProtocols : ∀ bus, ∀ protocol ∈ (ga bus).protocols, Printable protocol
  glInit : ∀ bus, ∀ init ∈ (gl bus).initGlFunc, ∀ tgl, Printable tgl.protocol →
    Printable (init tgl).2.protocol
  gaInit : ∀ bus, ∀ init ∈ (ga bus).initGaFunc, ∀ device, Printable device.protocol →
    Printable (init device).2.protocol

/-- What the server knows of all devices, with the locks and the sessions that are told. -/
structure Tables where
  clock : ClockState
  /-- Of the last `INIT TIME`. -/
  inittime : Nat
  /-- The flag of the clock thread behind a full minute. -/
  sendinfo : Bool
  gl : Nat → Gl
  queue : Nat → Log GlState
  glLock : Nat → LockState
  ga : Nat → GaBus
  fb : Nat → Fb
  isInfoSession : Nat → Bool

/-- The buffer that a producer hands over. -/
inductive Announcement
  | text (characters : List Char)
  | uninitialised

/-- The buffer holds a complete line. -/
def Announcement.Complete : Announcement → Prop
  | .text characters => Info.Complete characters
  | .uninitialised => False

/-! ## The formatters -/

section Formatters

open Keyword

/-- The clock was initialised and runs. -/
def timeIsAvailable (clock : ClockState) : Bool :=
  0 < clock.distort.ratioX && 0 < clock.distort.ratioY

/-- `infoTIME`, which writes nothing while the clock stands still. -/
def infoTIME (clock : ClockState) (now : Nat) : List Char :=
  if timeIsAvailable clock then
    line [.stamp now, .int 100, info.word, .int 0, time.word, .int clock.vtime.day,
      .int clock.vtime.hour, .int clock.vtime.min, .int clock.vtime.sec]
  else []

/-- `describeTIME` writes the ratio of the clock. -/
def describeTIME (clock : ClockState) (inittime : Nat) : List Char :=
  line [.stamp inittime, .int 101, info.word, .int 0, time.word, .int clock.distort.ratioX,
    .int clock.distort.ratioY]

/-- The format of all messages about the end of a device. -/
def terminated (now : Nat) (bus : Nat) (device : List Word) : List Char :=
  line ([.stamp now, .int 102, info.word, .long bus] ++ device)

/-- A description, which ends with a protocol and its numbers. -/
def description (inittime : Nat) (bus : Nat) (group : Keyword) (addr : Int) (protocol : Char)
    (numbers : List Word) : List Char :=
  words [.stamp inittime, .int 101, info.word, .long bus, group.word, .int addr] ++
    ' ' :: protocol :: spaced numbers ++ [newline]

/-- The description of a locomotive; nothing is written for one that is not initialised. -/
def cacheDescribeGL (bus : Nat) (gl : Gl) (addr : Int) : List Char :=
  if gl.isInitialized addr then
    let state := gl.glstate addr
    description state.inittime bus .gl addr state.protocol
      [.int state.protocolversion, .int state.nFs, .int state.nFunc]
  else []

/-- One function as `0` or `1`. -/
def functionBit (funcs : BitVec 32) (i : Nat) : Word :=
  .int (if funcs.getLsbD i then 1 else 0)

/-- The first text of `cacheInfoGL`, without the functions from the second on. -/
def glInfoStart (bus : Nat) (addr : Int) (state : GlState) : List Char :=
  words [.stamp state.tv, .int 100, info.word, .long bus, gl.word, .int addr,
    .int state.direction, .int state.speed, .int state.nFs, functionBit state.funcs 0]

/-- The text of `cacheInfoGL` without its newline, before anything is cut. -/
def glInfoBody (bus : Nat) (addr : Int) (state : GlState) : List Char :=
  glInfoStart bus addr state ++
    spaced ((List.range' 1 (state.nFunc.toNat - 1)).map (functionBit state.funcs))

/-- `none` when the buffer is left as it was. -/
def cacheInfoGL (bus : Nat) (gl : Gl) (addr : Int) : Option (List Char) :=
  if gl.isInitialized addr then
    let state := gl.glstate addr
    let message := (List.range' 1 (state.nFunc.toNat - 1)).foldl
      (fun message i => snprintf (message ++ ' ' :: (functionBit state.funcs i).text))
      (glInfoStart bus addr state)
    some (snprintf (message ++ [newline]))
  else none

/-- The description of a lock. -/
def describeLOCK (bus : Nat) (group : Keyword) (addr : Int) (state : LockState) : List Char :=
  line [.stamp state.locktime, .int 100, info.word, .long bus, lock.word, group.word, .int addr,
    .long state.lockduration, .unsigned state.lockedBy]

/-- An accessory is initialised when it has a protocol. -/
def GaDevice.isInitialized (device : GaDevice) : Bool :=
  device.protocol != nul

/-- `none` when the buffer is left as it was. -/
def describeGA (bus : Nat) (ga : GaBus) (addr : Int) : Option (List Char) :=
  let device := ga.gastate addr
  if ga.numberOfGa ≤ 0 then none
  else if 0 < addr ∧ addr ≤ ga.numberOfGa ∧ device.isInitialized then
    some (description device.inittime bus .ga addr device.protocol [])
  else some []

/-- `srcp_fmt_msg` of 416. -/
def noDataMessage (now : Nat) : List Char :=
  line [.stamp now, .int 416, error.word, no.word, data.word]

/-- `infoGA`, with the time of the init for a port that was never set. -/
def infoGA (bus : Nat) (ga : GaBus) (addr port : Int) (now : Nat) : List Char :=
  let device := ga.gastate addr
  if 0 < addr ∧ addr ≤ ga.numberOfGa ∧ 0 ≤ port ∧ port < maxgaport ∧ device.isInitialized then
    line [.stamp (if 0 < device.tv port / 1000000 then device.tv port else device.inittime),
      .int 100, info.word, .long bus, Keyword.ga.word, .int addr, .int port, .int device.action]
  else noDataMessage now

/-- Time and state of a contact; without such a port both stay as they were. -/
def getFB (fb : Fb) (port : Int) (before : Int × Int) : Int × Int :=
  let contact := fb.fbstate (portT port)
  if port - 1 < 0 ∨ fb.numberOfFb ≤ port - 1 then before
  else (contact.timestamp, contact.state)

/-- What `getFB` answers for a missing port, 416, is no less than `SRCP_OK` either, so that
there is a text for every port. -/
def infoFB (bus : Nat) (fb : Fb) (port : Int) : List Char :=
  let contact := getFB fb port (0, 0)
  line [.stamp contact.1.toNat, .int 100, info.word, .long bus, Keyword.fb.word, .int port,
    .int contact.2]

/-- The text of a message between sessions, as `sscanf` stores it. -/
structure GmText where
  text : List Char
  printable : ∀ symbol ∈ text, Printable symbol
  nonempty : text ≠ []
  short : text.length ≤ 990

/-- A message of a session without its newline. -/
def gmBody (now sid rid : Nat) (message : GmText) : List Char :=
  words [.stamp now, .int 100, info.word, .int 0, gm.word, .unsigned sid, .unsigned rid] ++
    ' ' :: message.text

/-- The message about a new session. -/
def sessionStarted (now sid : Nat) (inCommandMode : Bool) : List Char :=
  line [.stamp now, .int 101, info.word, .int 0, session.word, .unsigned sid,
    (if inCommandMode then command else info).word]

/-- The message about the state of the server. -/
def infoSERVER (now : Nat) (state : Keyword) : List Char :=
  line [.stamp now, .int 100, info.word, .int 0, server.word, state.word]

end Formatters

/-! ## The operations -/

/-- One operation on the tables, of a session, a driver or the main loop.  What
consists of several of them, such as `cacheTermGL` or the loops over all locks, is
a run of them. -/
inductive Operation
  | clock (action : ClockAction)
  | cacheInitGL (bus : Nat) (addr : Int) (protocol : Char) (protoversion nFs nFunc : Int)
  | enqueueGL (bus : Nat) (command : GlCommand)
  | cacheSetGL (bus : Nat) (addr : Int) (l : GlState)
  /-- The end of `cacheTermGL`: the message, and the record is cleared. -/
  | clearGL (bus : Nat) (addr : Int)
  | cacheLockGL (bus : Nat) (addr duration : Int) (sessionid : Nat)
  | cacheUnlockGL (bus : Nat) (addr : Int) (sessionid : Nat)
  | countGL (bus : Nat)
  | initGA (bus : Nat) (addr : Int) (protocol : Char)
  | setGA (bus : Nat) (addr : Int) (a : GaState)
  | termGA (bus : Nat) (addr : Int)
  | lockGA (bus : Nat) (addr duration : Int) (sessionid : Nat)
  | unlockGA (bus : Nat) (addr : Int) (sessionid : Nat)
  | countGA (bus : Nat) (addr : Int)
  | fb (bus : Nat) (action : FbAction)
  | setGM (sid rid : Nat) (message : GmText)
  | startSession (sid : Nat) (inCommandMode : Bool)
  | stopSession (sid : Nat)
  | serverReset
  | serverShutdown

/-- `gettimeofday` is `now` for the locomotives of a bus. -/
def Tables.glAt (tables : Tables) (bus now : Nat) : Gl :=
  { tables.gl bus with clock := now }

/-- The clock is no part of the table. -/
def Tables.setGl (tables : Tables) (bus : Nat) (gl : Gl) : Tables :=
  { tables with gl := Function.update tables.gl bus { gl with clock := (tables.gl bus).clock } }

/-- The lock of a bus replaced. -/
def Tables.setGlLock (tables : Tables) (bus : Nat) (state : LockState) : Tables :=
  { tables with glLock := Function.update tables.glLock bus state }

/-- The record of an accessory replaced. -/
def Tables.setGa (tables : Tables) (bus : Nat) (addr : Int) (device : GaDevice) : Tables :=
  { tables with
    ga := Function.update tables.ga bus
      { tables.ga bus with gastate := Function.update (tables.ga bus).gastate addr device } }

/-- The lock is free or held by the session. -/
def LockState.open (state : LockState) (sessionid : Nat) : Prop :=
  state.lockedBy = sessionid ∨ state.lockedBy = 0

instance (state : LockState) (sessionid : Nat) : Decidable (state.open sessionid) :=
  inferInstanceAs (Decidable (_ ∨ _))

/-- An operation with the tables behind it and what it announces. -/
abbrev Announcing := Option (Tables × List Announcement)

/-- A step of the clock, with the message of the function that takes it. -/
def Tables.clockOperation (tables : Tables) (now : Nat) (action : ClockAction) : Announcing :=
  (clockStep tables.clock action).map fun clock =>
    match action with
    | .setTIME d h m s =>
        ({ tables with clock := clock },
          if (⟨d, h, m, s⟩ : Vtime).Valid then [.text (infoTIME clock now)] else [])
    | .initTIME fx fy =>
        if fx < 0 ∨ fy ≤ 0 then (tables, [])
        else
          ({ tables with clock := clock, inittime := now }, [.text (describeTIME clock now)])
    | .termTIME =>
        ({ tables with clock := clock },
          [.text (line [.stamp now, .int 102, Keyword.info.word, .int 0, Keyword.time.word])])
    | .write =>
        match tables.clock.thread with
        | .copied vt =>
            ({ tables with clock := clock, sendinfo := tables.sendinfo || (carrySec vt).2 }, [])
        | _ => ({ tables with clock := clock }, [])
    | .informed =>
        ({ tables with clock := clock, sendinfo := false },
          if tables.sendinfo then [.text (infoTIME clock now)] else [])
    | _ => ({ tables with clock := clock }, [])

/-- `cacheInitGL` describes the locomotive that it has initialised. -/
def Tables.cacheInitGL (drivers : Drivers) (tables : Tables) (now bus : Nat) (addr : Int)
    (protocol : Char) (protoversion nFs nFunc : Int) : Announcing :=
  let result := Command.cacheInitGL (drivers.gl bus) (tables.glAt bus now) (tables.queue bus) addr
    protocol protoversion nFs nFunc
  some
    ({ tables.setGl bus result.2.1 with
        queue := Function.update tables.queue bus result.2.2 },
      if result.1 = .ok then [.text (cacheDescribeGL bus result.2.1 addr)] else [])

/-- The default init announces the locomotive; the command itself does not. -/
def Tables.enqueueGL (drivers : Drivers) (tables : Tables) (now bus : Nat)
    (command : GlCommand) : Announcing :=
  let gl := tables.glAt bus now
  let result := Command.enqueueGL (drivers.gl bus) gl (tables.queue bus) command
  let init := Command.cacheInitGL (drivers.gl bus) gl (tables.queue bus) command.addr 'P' 1 14 1
  some
    ({ tables.setGl bus result.2.1 with
        queue := Function.update tables.queue bus result.2.2 },
      if gl.isValid command.addr ∧ gl.isInitialized command.addr = false ∧ init.1 = .ok then
        [.text (cacheDescribeGL bus init.2.1 command.addr)]
      else [])

/-- `cacheSetGL` announces the values, or the end of a locomotive that is terminated. -/
def Tables.cacheSetGL (tables : Tables) (now bus : Nat) (addr : Int) (l : GlState) : Announcing :=
  let gl := tables.glAt bus now
  let next := (Command.cacheSetGL gl addr l).2
  some
    (tables.setGl bus next,
      if gl.isValid addr then
        if (gl.glstate addr).state = 2 then
          [.text (terminated now bus [Keyword.gl.word, .int addr])]
        else
          -- without a text the buffer stays uninitialised
          match Info.cacheInfoGL bus next addr with
          | some message => [.text message]
          | none => [.uninitialised]
      else [])

/-- The record is cleared behind the message about its end. -/
def Tables.clearGL (tables : Tables) (now bus : Nat) (addr : Int) : Announcing :=
  some
    (tables.setGl bus ((tables.glAt bus now).setState addr .zero),
      [.text (terminated now bus [Keyword.gl.word, .int addr])])

/-- `cacheLockGL`: the lock is one of the bus, the message is about the locomotive. -/
def Tables.cacheLockGL (tables : Tables) (now bus : Nat) (addr duration : Int)
    (sessionid : Nat) : Announcing :=
  if (tables.gl bus).isInitialized addr ∧ (tables.glLock bus).open sessionid then
    some
      (tables.setGlLock bus ⟨sessionid, duration, now⟩,
        [.text (describeLOCK bus .gl addr ⟨sessionid, duration, now⟩)])
  else some (tables, [])

/-- `cacheUnlockGL`: the bus is unlocked, the message is about the locomotive. -/
def Tables.cacheUnlockGL (tables : Tables) (now bus : Nat) (addr : Int)
    (sessionid : Nat) : Announcing :=
  if (tables.gl bus).isInitialized addr ∧ (tables.glLock bus).open sessionid then
    some
      (tables.setGlLock bus { tables.glLock bus with lockedBy := 0, locktime := now },
        [.text (terminated now bus [Keyword.lock.word, Keyword.gl.word, .int addr])])
  else some (tables, [])

/-- `initGA`: a driver that refuses has changed the record, but nothing is announced. -/
def Tables.initGA (drivers : Drivers) (tables : Tables) (now bus : Nat) (addr : Int)
    (protocol : Char) : Announcing :=
  if 0 < addr ∧ addr ≤ (tables.ga bus).numberOfGa ∧ protocol ∈ (drivers.ga bus).protocols then
    let device := { (tables.ga bus).gastate addr with
      protocol := protocol
      inittime := now
      activetime := 0
      action := 0
      tv := fun _ => 0 }
    let init := (drivers.ga bus).initGaFunc.elim (.ok, device) fun initGaFunc => initGaFunc device
    if init.1 = .ok then
      let next := tables.setGa bus addr { init.2 with state := 1 }
      some
        (next,
          match describeGA bus (next.ga bus) addr with
          | some message => [.text message]
          | none => [.uninitialised])
    else some (tables.setGa bus addr init.2, [])
  else some (tables, [])

/-- `setGA` stores and announces an accessory that is initialised. -/
def Tables.setGA (tables : Tables) (now bus : Nat) (addr : Int) (a : GaState) : Announcing :=
  let device := (tables.ga bus).gastate addr
  if 0 < addr ∧ addr ≤ (tables.ga bus).numberOfGa ∧ device.isInitialized then
    let next := tables.setGa bus addr { device with
      id := a.id
      action := a.action
      port := a.port
      tv := Function.update device.tv a.port now }
    some (next, [.text (infoGA bus (next.ga bus) addr a.port now)])
  else some (tables, [])

/-- A record behind `memset`. -/
def GaDevice.zero : GaDevice :=
  { protocol := nul, id := 0, port := 0, action := 0, activetime := 0, tv := fun _ => 0,
    state := 0, inittime := 0, lock := ⟨0, 0, 0⟩ }

/-- `termGA` clears the whole record, and so its lock. -/
def Tables.termGA (tables : Tables) (now bus : Nat) (addr : Int) : Announcing :=
  if ((tables.ga bus).gastate addr).isInitialized then
    some
      (tables.setGa bus addr .zero,
        [.text (terminated now bus [Keyword.ga.word, .int addr])])
  else some (tables, [])

/-- `lockGA` locks any record, also of an accessory that is not initialised. -/
def Tables.lockGA (tables : Tables) (now bus : Nat) (addr duration : Int)
    (sessionid : Nat) : Announcing :=
  let device := (tables.ga bus).gastate addr
  if device.lock.open sessionid then
    some
      (tables.setGa bus addr { device with lock := ⟨sessionid, duration, now⟩ },
        [.text (describeLOCK bus .ga addr ⟨sessionid, duration, now⟩)])
  else some (tables, [])

/-- `unlockGA` announces the end of a lock even if there was none. -/
def Tables.unlockGA (tables : Tables) (now bus : Nat) (addr : Int)
    (sessionid : Nat) : Announcing :=
  let device := (tables.ga bus).gastate addr
  if device.lock.open sessionid then
    some
      (tables.setGa bus addr
          { device with lock := { device.lock with lockedBy := 0, locktime := now } },
        [.text (terminated now bus [Keyword.lock.word, Keyword.ga.word, .int addr])])
  else some (tables, [])

/-- What a step of the contacts announces. -/
def fbAnnouncements (bus : Nat) (fb next : Fb) : FbAction → List Announcement
  | .updateFB _ port value =>
      (updateInfos fb port value).map fun port => .text (infoFB bus next port)
  | .checkResetFB now =>
      checkInfos (fun next port => .text (infoFB bus next port)) now fb.resetQueue fb

/-- `setGM` sends a message to all INFO sessions, if those that it names are ones. -/
def Tables.setGM (tables : Tables) (now sid rid : Nat) (message : GmText) : Announcing :=
  if (sid ≠ 0 ∧ tables.isInfoSession sid = false) ∨
      (rid ≠ 0 ∧ tables.isInfoSession rid = false) then
    some (tables, [])
  else some (tables, [.text (snprintf (gmBody now sid rid message ++ [newline]))])

/-- An operation at the tables. -/
def operate (drivers : Drivers) (tables : Tables) (now : Nat) : Operation → Announcing
  | .clock action => tables.clockOperation now action
  | .cacheInitGL bus addr protocol protoversion nFs nFunc =>
      tables.cacheInitGL drivers now bus addr protocol protoversion nFs nFunc
  | .enqueueGL bus command => tables.enqueueGL drivers now bus command
  | .cacheSetGL bus addr l => tables.cacheSetGL now bus addr l
  | .clearGL bus addr => tables.clearGL now bus addr
  | .cacheLockGL bus addr duration sessionid => tables.cacheLockGL now bus addr duration sessionid
  | .cacheUnlockGL bus addr sessionid => tables.cacheUnlockGL now bus addr sessionid
  | .countGL bus =>
      let state := tables.glLock bus
      if 0 < state.lockduration then
        some (tables.setGlLock bus { state with lockduration := state.lockduration - 1 }, [])
      else some (tables, [])
  | .initGA bus addr protocol => tables.initGA drivers now bus addr protocol
  | .setGA bus addr a => tables.setGA now bus addr a
  | .termGA bus addr => tables.termGA now bus addr
  | .lockGA bus addr duration sessionid => tables.lockGA now bus addr duration sessionid
  | .unlockGA bus addr sessionid => tables.unlockGA now bus addr sessionid
  | .countGA bus addr =>
      let device := (tables.ga bus).gastate addr
      some
        (tables.setGa bus addr
          { device with lock := { device.lock with lockduration := device.lock.lockduration - 1 } },
          [])
  | .fb bus action =>
      (fbStep (tables.fb bus) action).map fun next =>
        ({ tables with fb := Function.update tables.fb bus next },
          fbAnnouncements bus (tables.fb bus) next action)
  | .setGM sid rid message => tables.setGM now sid rid message
  | .startSession sid inCommandMode => some (tables, [.text (sessionStarted now sid inCommandMode)])
  | .stopSession sid =>
      some
        (tables,
          [.text (line [.stamp now, .int 102, Keyword.info.word, .int 0, Keyword.session.word,
            .unsigned sid])])
  | .serverReset => some (tables, [.text (infoSERVER now .resetting)])
  | .serverShutdown => some (tables, [.text (infoSERVER now .terminating)])

/-- The tables with all that was announced so far; an operation has its time. -/
def announceStep (drivers : Drivers) : Step (Tables × List Announcement) (Nat × Operation) :=
  fun watched operation =>
    (operate drivers watched.1 operation.1 operation.2).map fun next =>
      (next.1, watched.2 ++ next.2)

/-! ## What has to hold -/

/-- The record that `cacheSetGL` leaves. -/
def reported (gl : Gl) (addr : Int) (l : GlState) : GlState :=
  { gl.glstate addr with
    direction := l.direction
    speed := l.speed
    funcs := l.funcs
    nFs := l.nFs
    nFunc := l.nFunc
    tv := gl.clock }

variable {gl : Gl} {bus now : Nat} {addr : Int}

theorem complete_description {inittime : Nat} {group : Keyword} {protocol : Char}
    {numbers : List Word} (printable : Printable protocol) (few : numbers.length ≤ 10) :
    Complete (description inittime bus group addr protocol numbers) := by
  have start : words [.stamp inittime, .int 101, Keyword.info.word, .long bus, group.word,
      .int addr] ≠ [] := words_ne_nil (Word.stamp_ne_nil inittime)
  have startLength : (words [.stamp inittime, .int 101, Keyword.info.word, .long bus, group.word,
      .int addr]).length ≤ 6 * (wordLimit + 1) := length_words
  have numbersLength : (spaced numbers).length ≤ numbers.length * (wordLimit + 1) := length_spaced
  apply complete_of_printable
  · intro empty
    exact start (List.append_eq_nil_iff.mp empty).1
  · intro symbol mem
    rcases List.mem_append.mp mem with first | rest
    · exact printable_words symbol first
    · rcases List.mem_cons.mp rest with rfl | rest
      · decide
      · rcases List.mem_cons.mp rest with rfl | rest
        · exact printable
        · exact printable_spaced symbol rest
  · rw [wordLimit] at startLength numbersLength
    rw [List.length_append, List.length_cons, List.length_cons, maxsrcplinelen]
    omega

/-- The loop over the functions; every turn cuts what is too long. -/
theorem foldl_snprintf (bits : List Word) (text : List Char) :
    bits.foldl (fun message bit => snprintf (message ++ ' ' :: bit.text)) (snprintf text) =
      snprintf (text ++ spaced bits) := by
  induction bits generalizing text with
  | nil => simp [spaced]
  | cons bit bits ih =>
      have split : spaced (bit :: bits) = ' ' :: bit.text ++ spaced bits := by
        simp [spaced]
      rw [List.foldl_cons, snprintf_append, ih, split, List.append_assoc]

theorem glInfoStart_short {state : GlState} :
    snprintf (glInfoStart bus addr state) = glInfoStart bus addr state := by
  rw [snprintf, List.take_of_length_le]
  exact length_words.trans (Nat.le_of_ble_eq_true rfl)

theorem cacheInfoGL_eq (initialized : gl.isInitialized addr = true) :
    cacheInfoGL bus gl addr =
      some (snprintf (glInfoBody bus addr (gl.glstate addr) ++ [newline])) := by
  have loop := foldl_snprintf
    ((List.range' 1 ((gl.glstate addr).nFunc.toNat - 1)).map (functionBit (gl.glstate addr).funcs))
    (glInfoStart bus addr (gl.glstate addr))
  rw [List.foldl_map, glInfoStart_short] at loop
  simp only [cacheInfoGL, initialized, if_true, loop, snprintf_append]
  rfl

theorem complete_glInfo_iff {state : GlState} :
    Complete (snprintf (glInfoBody bus addr state ++ [newline])) ↔
      (glInfoBody bus addr state).length + 1 < maxsrcplinelen := by
  apply complete_snprintf_iff
  · intro empty
    exact words_ne_nil (Word.stamp_ne_nil _) (List.append_eq_nil_iff.mp empty).1
  · intro symbol mem
    rcases List.mem_append.mp mem with start | rest
    · exact printable_words symbol start
    · exact printable_spaced symbol rest

theorem complete_stamped {time : Nat} {texts : List Word} (few : texts.length < 39) :
    Complete (line (.stamp time :: texts)) :=
  complete_line (Word.stamp_ne_nil time) few

theorem complete_infoTIME_iff {clock : ClockState} :
    Complete (infoTIME clock now) ↔ timeIsAvailable clock = true := by
  rw [infoTIME]
  constructor
  · intro complete
    split at complete
    · assumption
    · exact absurd complete not_complete_nil
  · intro available
    rw [if_pos available]
    exact complete_stamped (Nat.le_of_ble_eq_true rfl)

variable {tables next : Tables} {texts : List Announcement} {drivers : Drivers}

theorem printable_initGl {protocol : Char} {tgl : GlState}
    (supported : (drivers.gl bus).supportsProtocol protocol = .ok) (of : tgl.protocol = protocol) :
    Printable ((drivers.gl bus).initGl tgl).2.protocol := by
  have printable : Printable protocol := by
    rw [GlDriver.supportsProtocol] at supported
    split at supported
    · rename_i mem
      exact drivers.glProtocols bus protocol mem
    · cases supported
  rw [GlDriver.initGl]
  split
  · rwa [of]
  · rename_i init here
    exact drivers.glInit bus init here tgl (by rwa [of])

section

variable {session : Nat} {duration : Int} {protocol : Char} {protoversion nFs nFunc : Int}

/-- The locomotive that `cacheSetGL` reports. -/
theorem cacheSetGL_reported {l : GlState} (valid : gl.isValid addr = true)
    (other : (gl.glstate addr).state ≠ 2) :
    (Command.cacheSetGL gl addr l).2 = gl.setState addr (reported gl addr l) := by
  have same : (reported gl addr l).state ≠ 2 := other
  rw [Command.cacheSetGL, if_pos valid]
  exact congrArg (gl.setState addr) (if_neg same)

theorem setState_reported {l : GlState} :
    (gl.setState addr (reported gl addr l)).glstate addr = reported gl addr l :=
  Function.update_self _ _ _

theorem isInitialized_reported {l : GlState} (valid : gl.isValid addr = true) :
    (gl.setState addr (reported gl addr l)).isInitialized addr =
      ((gl.glstate addr).state == 1) := by
  rw [Gl.isInitialized, Gl.isValid_setState, if_pos valid, setState_reported, reported]

end

/-! ## Runs -/

/-- Ten addresses on each bus; nothing is initialised and the clock stands. -/
def startedTables : Tables where
  clock := ⟨⟨0, 0, 0, 0⟩, ⟨0, 0⟩, .created⟩
  inittime := 0
  sendinfo := false
  gl := fun _ => ⟨true, 10, fun _ => .zero, 0⟩
  queue := fun _ => ⟨⟨fun _ => .zero, 0, 0⟩, [], []⟩
  glLock := fun _ => ⟨0, 0, 0⟩
  ga := fun _ => ⟨10, fun _ => .zero⟩
  fb := fun _ => initFB 10 0 0
  isInfoSession := fun _ => false

end Srcpd.Info
