import Srcpd.Session.Buffers

/-!
# CHECK

`handle_setcheck` serves SET and CHECK, with a flag that the branch of each device
group tests before it executes the command.  The branches for messages and for the
service mode do not test it.  `quiet_iff` says when a CHECK changes nothing.
-/

namespace Srcpd.Check

open Srcpd.Command Srcpd.Handlers Srcpd.Info Srcpd.Time Srcpd.Queue
open Srcpd.CmdClient (Device deviceOf hasPrefix smTypeOf SmResult)
open Srcpd.Buffers (scanPower)

/-- The power of a bus with its message. -/
structure Power where
  on : Bool
  message : List Char
  changed : Bool
  changeTime : Nat

/-- What a command can change: the tables with their locks and the clock, the queues,
the power state, and what was written to the pipe of each INFO session. -/
structure Station where
  server : Server
  hasDevice : Nat → Device → Bool
  power : Nat → Power
  smQueue : Nat → Log SmState
  pipes : Nat → List (List Char)

/-- What a command depends on besides. -/
structure World where
  drivers : Drivers
  now : Nat
  smResult : SmResult

/-- The device group of a word, if the bus has it. -/
def Station.groupOf (station : Station) (bus : Nat) (device : List Char) : Option Device :=
  (deviceOf device).filter fun group => station.hasDevice bus group

/-- A text for all INFO sessions, or for one of them. -/
def Station.write (station : Station) (sid : Nat) (text : List Char) : Station :=
  { station with
    pipes := fun session =>
      if station.server.tables.isInfoSession session = true ∧ (sid = 0 ∨ session = sid) then
        station.pipes session ++ [text]
      else station.pipes session }

/-- A message is written to the INFO sessions. -/
def Announcement.written (station : Station) : Announcement → Station
  | .text characters => station.write 0 characters
  | .uninitialised => station

/-- The state behind a handler of the tables. -/
def Station.behind (station : Station) (answer : Handlers.Answer) : Station :=
  answer.announced.foldl Announcement.written { station with server := answer.server }

/-- A code and the state behind the command. -/
abbrev Result := Nat × Station

/-- A call of a handler of the tables. -/
def Station.executes (station : Station) (answer : Option Handlers.Answer) : Option Result :=
  answer.map fun answer => (answer.code, station.behind answer)

/-! ## The branches -/

/-- The branch for locomotives, which tests and then sets. -/
def setcheckGL (world : World) (station : Station) (bus session : Nat) (parameter : List Char)
    (set : Bool) : Option Result :=
  match scanLongs 33 parameter with
  | laddr :: direction :: speed :: maxspeed :: f =>
      let server := station.server
      let lockid := (cacheGetLockGL server.tables bus (int32 laddr)).getD 0
      -- only if not locked or emergency stop
      if lockid = 0 ∨ lockid = session ∨ direction = 2 then
        if set then
          let command : GlCommand :=
            ⟨int32 laddr, int32 direction, int32 speed, int32 maxspeed, functionBits f 0⟩
          let result := enqueueGL (world.drivers.gl bus) (server.tables.glAt bus world.now)
            (server.tables.queue bus) command
          station.executes (server.after result.1.number
            (server.tables.enqueueGL world.drivers world.now bus command))
        else some (srcpOk, station)
      else some (srcpDevicelocked, station)
  | _ => some (srcpListtooshort, station)

/-- The branch for accessories, which tests and then sets. -/
def setcheckGA (world : World) (station : Station) (bus session : Nat) (parameter : List Char)
    (set : Bool) : Option Result :=
  match scanLongs 4 parameter with
  | [gaddr, port, aktion, delay] =>
      let server := station.server
      let lockid := ((server.tables.ga bus).gastate (int32 gaddr)).lock.lockedBy
      if lockid = 0 ∨ lockid = session then
        if set then
          let result := enqueueGA (GaBus.at (server.tables.ga bus) world.now) (server.gaQueue bus)
            ⟨int32 gaddr, int32 port, int32 aktion, delay⟩
          some (result.1.number, { station with
            server := { server with
              gaQueue := Function.update server.gaQueue bus result.2 } })
        else some (srcpOk, station)
      else some (srcpDevicelocked, station)
  | _ => some (srcpListtooshort, station)

/-- Without enough values, and for a CHECK, the code is still the first one. -/
def setcheckFB (world : World) (station : Station) (bus : Nat) (parameter : List Char)
    (set : Bool) : Option Result :=
  match scanLongs 2 parameter with
  | [_, _] =>
      if set then station.executes (Handlers.setFB station.server world.now bus parameter)
      else some (srcpUnsupporteddevicegroup, station)
  | _ => some (srcpUnsupporteddevicegroup, station)

/-- `%lu %lu %990c`. -/
def scanGM (parameter : List Char) : Option (Nat × Nat × List Char) :=
  match scanLong parameter with
  | none => none
  | some (sendto, rest) =>
      match scanLong rest with
      | none => none
      | some (replyto, rest) =>
          let msg := (skipSpace rest).take 990
          if msg = [] then none
          else some ((sendto % 2 ^ 64).toNat, (replyto % 2 ^ 64).toNat, msg)

/-- A message of a session as it is sent. -/
def gmLine (now sid rid : Nat) (msg : List Char) : List Char :=
  snprintf (words [.stamp now, .int 100, Keyword.info.word, .int 0, Keyword.gm.word, .unsigned sid,
    .unsigned rid] ++ ' ' :: msg ++ [newline])

/-- `setGM`, which tests the two sessions and sends the message. -/
def setGM (world : World) (station : Station) (sid rid : Nat) (msg : List Char) : Result :=
  if (sid ≠ 0 ∧ station.server.tables.isInfoSession sid = false) ∨
      (rid ≠ 0 ∧ station.server.tables.isInfoSession rid = false) then
    (srcpWrongvalue, station)
  else (srcpOk, station.write sid (gmLine world.now sid rid msg))

/-- The branch for messages, which sends in both cases. -/
def setcheckGM (world : World) (station : Station) (parameter : List Char) : Option Result :=
  match scanGM parameter with
  | none => some (srcpListtooshort, station)
  | some (sendto, replyto, msg) => some (setGM world station sendto replyto msg)

/-- `%ld %s %ld %ld %ld` and the type: the code of an error, or the command. -/
def scanSM (parameter : List Char) : Nat ⊕ SmCommand :=
  match scanLong parameter with
  | none => .inl srcpListtooshort
  | some (addr, rest) =>
      match scanWord rest with
      | none => .inl srcpListtooshort
      | some (ctype, rest) =>
          match scanLongs 3 rest, smTypeOf ctype with
          | _ :: _ :: _, none => .inl srcpWrongvalue
          | [value1, value2, value3], some .cvBit =>
              .inr ⟨.set, .cvBit, int32 addr, int32 value1, int32 value2, int32 value3⟩
          | _ :: _ :: _, some .cvBit => .inl srcpListtooshort
          | value1 :: value2 :: _, some type =>
              .inr ⟨.set, type, int32 addr, int32 value1, 0, int32 value2⟩
          | _, _ => .inl srcpListtooshort

/-- `infoSM`: the command is queued, and the result of the driver is waited for. -/
def infoSM (world : World) (station : Station) (bus : Nat) (command : SmCommand) : Result :=
  let status := enqueueSM world.now (station.smQueue bus) command
  (match world.smResult with
    | .refused => srcpWrongvalue
    | _ => status.1.number,
    { station with smQueue := Function.update station.smQueue bus status.2 })

/-- The branch for service mode, which programs in both cases. -/
def setcheckSM (world : World) (station : Station) (bus : Nat) (parameter : List Char) :
    Option Result :=
  match scanSM parameter with
  | .inl code => some (code, station)
  | .inr command => some (infoSM world station bus command)

/-- The branch for the clock, which tests the number of values only. -/
def setcheckTIME (world : World) (station : Station) (parameter : List Char) (set : Bool) :
    Option Result :=
  match scanLongs 4 parameter with
  | [_, _, _, _] =>
      if set then station.executes (Handlers.setTIME station.server world.now parameter)
      else some (srcpOk, station)
  | _ => some (srcpListtooshort, station)

/-- The branch for locks. -/
def setcheckLOCK (world : World) (station : Station) (bus session : Nat) (parameter : List Char)
    (set : Bool) : Option Result :=
  match scanWord parameter with
  | some (devgrp, rest) =>
      match scanLongs 2 rest with
      | [addr, duration] =>
          let tables := station.server.tables
          if startsWith groupGL devgrp then
            if set then
              station.executes (station.server.after
                (lockGLCode tables bus (int32 addr) session)
                (tables.cacheLockGL world.now bus (int32 addr) duration session))
            else some (srcpOk, station)
          else if startsWith groupGA devgrp then
            if set then
              station.executes (station.server.after
                (lockGACode tables bus (int32 addr) session)
                (tables.lockGA world.now bus (int32 addr) duration session))
            else some (srcpOk, station)
          else some (srcpUnsupporteddevicegroup, station)
      | _ => some (srcpListtooshort, station)
  | none => some (srcpListtooshort, station)

/-- `setPower` with the message of the client. -/
def setPower (world : World) (station : Station) (bus : Nat) (on : Bool) (msg : List Char) :
    Result :=
  (srcpOk, { station with
    power := Function.update station.power bus ⟨on, msg, true, world.now⟩ })

/-- The branch for the power. -/
def setcheckPOWER (world : World) (station : Station) (bus : Nat) (parameter : List Char)
    (set : Bool) : Option Result :=
  let state := (scanPower parameter).1
  if state ≠ [] then
    if hasPrefix "off" state then
      if set then some (setPower world station bus false (scanPower parameter).2)
      else some (srcpOk, station)
    else if hasPrefix "on" state then
      if set then some (setPower world station bus true (scanPower parameter).2)
      else some (srcpOk, station)
    else some (srcpWrongvalue, station)
  else some (srcpListtooshort, station)

/-- `none` when the command does not return. -/
def handleSetcheck (world : World) (station : Station) (bus session : Nat)
    (device parameter : List Char) (set : Bool) : Option Result :=
  match station.groupOf bus device with
  | some .gl => setcheckGL world station bus session parameter set
  | some .ga => setcheckGA world station bus session parameter set
  | some .fb => setcheckFB world station bus parameter set
  | some .gm => setcheckGM world station parameter
  | some .sm => setcheckSM world station bus parameter
  | some .time => setcheckTIME world station parameter set
  | some .lock => setcheckLOCK world station bus session parameter set
  | some .power => setcheckPOWER world station bus parameter set
  | _ => some (srcpUnsupporteddevicegroup, station)

/-- `handleSET` is `handle_setcheck` with the order to set. -/
def handleSET (world : World) (station : Station) (bus session : Nat)
    (device parameter : List Char) : Option Result :=
  handleSetcheck world station bus session device parameter true

/-- `handleCHECK` is `handle_setcheck` without it. -/
def handleCHECK (world : World) (station : Station) (bus session : Nat)
    (device parameter : List Char) : Option Result :=
  handleSetcheck world station bus session device parameter false

/-! ## What has to hold -/

/-- The code of a SET comes from the execution of the command. -/
def SetExecutes (station : Station) (bus session : Nat) (device parameter : List Char) : Prop :=
  match station.groupOf bus device with
  | some .gl => ∃ laddr direction speed maxspeed f,
      scanLongs 33 parameter = laddr :: direction :: speed :: maxspeed :: f ∧
        let lockid := (cacheGetLockGL station.server.tables bus (int32 laddr)).getD 0
        (lockid = 0 ∨ lockid = session ∨ direction = 2)
  | some .ga => ∃ gaddr port aktion delay, scanLongs 4 parameter = [gaddr, port, aktion, delay] ∧
      let lockid := ((station.server.tables.ga bus).gastate (int32 gaddr)).lock.lockedBy
      (lockid = 0 ∨ lockid = session)
  | some .fb => ∃ fbport value, scanLongs 2 parameter = [fbport, value]
  | some .gm => (scanGM parameter).isSome
  | some .sm => (scanSM parameter).isRight
  | some .time => ∃ d h m s, scanLongs 4 parameter = [d, h, m, s]
  | some .lock => ∃ devgrp rest addr duration, scanWord parameter = some (devgrp, rest) ∧
      scanLongs 2 rest = [addr, duration] ∧
        (startsWith groupGL devgrp = true ∨ startsWith groupGA devgrp = true)
  | some .power => hasPrefix "off" (scanPower parameter).1 = true ∨
      hasPrefix "on" (scanPower parameter).1 = true
  | _ => False

/-- A CHECK returns and has changed nothing, and its code is that of the SET unless
the SET executes the command. -/
def Quiet (world : World) (station : Station) (bus session : Nat)
    (device parameter : List Char) : Prop :=
  ∃ code, handleCHECK world station bus session device parameter = some (code, station) ∧
    (¬ SetExecutes station bus session device parameter →
      ∃ next, handleSET world station bus session device parameter = some (code, next))

/-- A message that an INFO session is there for, or a service mode command that there
is room for. -/
def Disturbs (station : Station) (bus : Nat) (device parameter : List Char) : Prop :=
  match station.groupOf bus device with
  | some .gm => ∃ sid rid msg, scanGM parameter = some (sid, rid, msg) ∧
      (rid = 0 ∨ station.server.tables.isInfoSession rid = true) ∧
      ∃ session, station.server.tables.isInfoSession session = true ∧ (sid = 0 ∨ session = sid)
  | some .sm => ∃ command, scanSM parameter = .inr command ∧
      smQueue.isFull (station.smQueue bus).ring = false
  | _ => False

/-! ## The branches that test the flag -/

section Branches

variable {world : World} {station : Station} {bus session : Nat} {device parameter : List Char}

/-- A branch that only executes for a SET. -/
def Tested (station : Station) (branch : Bool → Option Result) (executes : Prop) : Prop :=
  ∃ code, branch false = some (code, station) ∧
    (¬ executes → ∃ next, branch true = some (code, next))

/-- A branch that answers before it tests the flag. -/
theorem Tested.answered {branch : Bool → Option Result} {executes : Prop} (code : Nat)
    (answers : ∀ set, branch set = some (code, station)) : Tested station branch executes :=
  ⟨code, answers false, fun _ => ⟨station, answers true⟩⟩

theorem tested_setcheckGL :
    Tested station (setcheckGL world station bus session parameter)
      (∃ laddr direction speed maxspeed f,
        scanLongs 33 parameter = laddr :: direction :: speed :: maxspeed :: f ∧
          let lockid := (cacheGetLockGL station.server.tables bus (int32 laddr)).getD 0
          (lockid = 0 ∨ lockid = session ∨ direction = 2)) := by
  rcases scanned : scanLongs 33 parameter with
    _ | ⟨laddr, _ | ⟨direction, _ | ⟨speed, _ | ⟨maxspeed, f⟩⟩⟩⟩
  case cons.cons.cons.cons =>
    by_cases unlocked :
        (cacheGetLockGL station.server.tables bus (int32 laddr)).getD 0 = 0 ∨
          (cacheGetLockGL station.server.tables bus (int32 laddr)).getD 0 = session ∨
          direction = 2
    · refine ⟨srcpOk, ?_, ?_⟩
      · simp only [setcheckGL, scanned, if_pos unlocked, Bool.false_eq_true, if_false]
      · intro silent
        exact absurd ⟨laddr, direction, speed, maxspeed, f, rfl, unlocked⟩ silent
    · apply Tested.answered srcpDevicelocked
      intro set
      simp only [setcheckGL, scanned, if_neg unlocked]
  all_goals
    apply Tested.answered srcpListtooshort
    intro set
    simp only [setcheckGL, scanned]

theorem tested_setcheckGA :
    Tested station (setcheckGA world station bus session parameter)
      (∃ gaddr port aktion delay, scanLongs 4 parameter = [gaddr, port, aktion, delay] ∧
        let lockid := ((station.server.tables.ga bus).gastate (int32 gaddr)).lock.lockedBy
        (lockid = 0 ∨ lockid = session)) := by
  by_cases four : ∃ gaddr port aktion delay, scanLongs 4 parameter = [gaddr, port, aktion, delay]
  · obtain ⟨gaddr, port, aktion, delay, scanned⟩ := four
    by_cases unlocked :
        ((station.server.tables.ga bus).gastate (int32 gaddr)).lock.lockedBy = 0 ∨
          ((station.server.tables.ga bus).gastate (int32 gaddr)).lock.lockedBy = session
    · refine ⟨srcpOk, ?_, ?_⟩
      · simp only [setcheckGA, scanned, if_pos unlocked, Bool.false_eq_true, if_false]
      · intro silent
        exact absurd ⟨gaddr, port, aktion, delay, scanned, unlocked⟩ silent
    · apply Tested.answered srcpDevicelocked
      intro set
      simp only [setcheckGA, scanned, if_neg unlocked]
  · apply Tested.answered srcpListtooshort
    intro set
    unfold setcheckGA
    split
    · rename_i gaddr port aktion delay scanned
      exact absurd ⟨gaddr, port, aktion, delay, scanned⟩ four
    · rfl

theorem tested_setcheckFB :
    Tested station (setcheckFB world station bus parameter)
      (∃ fbport value, scanLongs 2 parameter = [fbport, value]) := by
  by_cases two : ∃ fbport value, scanLongs 2 parameter = [fbport, value]
  · obtain ⟨fbport, value, scanned⟩ := two
    refine ⟨srcpUnsupporteddevicegroup, ?_, fun silent => absurd ⟨fbport, value, scanned⟩ silent⟩
    simp only [setcheckFB, scanned, Bool.false_eq_true, if_false]
  · apply Tested.answered srcpUnsupporteddevicegroup
    intro set
    unfold setcheckFB
    split
    · rename_i fbport value scanned
      exact absurd ⟨fbport, value, scanned⟩ two
    · rfl

theorem tested_setcheckTIME :
    Tested station (setcheckTIME world station parameter)
      (∃ d h m s, scanLongs 4 parameter = [d, h, m, s]) := by
  by_cases four : ∃ d h m s, scanLongs 4 parameter = [d, h, m, s]
  · obtain ⟨d, h, m, s, scanned⟩ := four
    refine ⟨srcpOk, ?_, fun silent => absurd ⟨d, h, m, s, scanned⟩ silent⟩
    simp only [setcheckTIME, scanned, Bool.false_eq_true, if_false]
  · apply Tested.answered srcpListtooshort
    intro set
    unfold setcheckTIME
    split
    · rename_i d h m s scanned
      exact absurd ⟨d, h, m, s, scanned⟩ four
    · rfl

theorem tested_setcheckLOCK :
    Tested station (setcheckLOCK world station bus session parameter)
      (∃ devgrp rest addr duration, scanWord parameter = some (devgrp, rest) ∧
        scanLongs 2 rest = [addr, duration] ∧
          (startsWith groupGL devgrp = true ∨ startsWith groupGA devgrp = true)) := by
  cases word : scanWord parameter with
  | none =>
      apply Tested.answered srcpListtooshort
      intro set
      simp only [setcheckLOCK, word]
  | some scanned =>
      obtain ⟨devgrp, rest⟩ := scanned
      by_cases two : ∃ addr duration, scanLongs 2 rest = [addr, duration]
      · obtain ⟨addr, duration, numbers⟩ := two
        by_cases gl : startsWith groupGL devgrp = true
        · refine ⟨srcpOk, ?_, fun silent =>
            absurd ⟨devgrp, rest, addr, duration, rfl, numbers, Or.inl gl⟩ silent⟩
          simp only [setcheckLOCK, word, numbers, if_pos gl, Bool.false_eq_true, if_false]
        · by_cases ga : startsWith groupGA devgrp = true
          · refine ⟨srcpOk, ?_, fun silent =>
              absurd ⟨devgrp, rest, addr, duration, rfl, numbers, Or.inr ga⟩ silent⟩
            simp only [setcheckLOCK, word, numbers, if_neg gl, if_pos ga, Bool.false_eq_true,
              if_false]
          · apply Tested.answered srcpUnsupporteddevicegroup
            intro set
            simp only [setcheckLOCK, word, numbers, if_neg gl, if_neg ga]
      · apply Tested.answered srcpListtooshort
        intro set
        simp only [setcheckLOCK, word]
        split
        · rename_i addr duration numbers
          exact absurd ⟨addr, duration, numbers⟩ two
        · rfl

theorem tested_setcheckPOWER :
    Tested station (setcheckPOWER world station bus parameter)
      (hasPrefix "off" (scanPower parameter).1 = true ∨
        hasPrefix "on" (scanPower parameter).1 = true) := by
  by_cases given : (scanPower parameter).1 ≠ []
  · by_cases off : hasPrefix "off" (scanPower parameter).1 = true
    · refine ⟨srcpOk, ?_, fun silent => absurd (Or.inl off) silent⟩
      simp only [setcheckPOWER, if_pos given, if_pos off, Bool.false_eq_true, if_false]
    · by_cases on : hasPrefix "on" (scanPower parameter).1 = true
      · refine ⟨srcpOk, ?_, fun silent => absurd (Or.inr on) silent⟩
        simp only [setcheckPOWER, if_pos given, if_neg off, if_pos on, Bool.false_eq_true,
          if_false]
      · apply Tested.answered srcpWrongvalue
        intro set
        simp only [setcheckPOWER, if_pos given, if_neg off, if_neg on]
  · apply Tested.answered srcpListtooshort
    intro set
    simp only [setcheckPOWER, if_neg given]

/-! ## The branches that do not -/

theorem write_eq_iff {sid : Nat} {text : List Char} :
    station.write sid text = station ↔
      ∀ other, station.server.tables.isInfoSession other = true → ¬ (sid = 0 ∨ other = sid) := by
  constructor
  · intro same other info named
    have pipe := congrFun (congrArg Station.pipes same) other
    simp only [Station.write, if_pos (And.intro info named)] at pipe
    have length := congrArg List.length pipe
    simp at length
  · intro nobody
    have pipes : (station.write sid text).pipes = station.pipes := by
      funext other
      exact if_neg fun both => nobody other both.1 both.2
    calc station.write sid text
        = { station with pipes := (station.write sid text).pipes } := rfl
      _ = station := by rw [pipes]

theorem setGM_quiet_iff {sid rid : Nat} {msg : List Char} :
    (setGM world station sid rid msg).2 = station ↔
      ¬ ((rid = 0 ∨ station.server.tables.isInfoSession rid = true) ∧
        ∃ other, station.server.tables.isInfoSession other = true ∧ (sid = 0 ∨ other = sid)) := by
  unfold setGM
  by_cases unknown : (sid ≠ 0 ∧ station.server.tables.isInfoSession sid = false) ∨
      (rid ≠ 0 ∧ station.server.tables.isInfoSession rid = false)
  · rw [if_pos unknown]
    refine iff_of_true rfl ?_
    rintro ⟨reply, other, info, named⟩
    rcases unknown with ⟨one, closed⟩ | ⟨one, closed⟩
    · rcases named with all | rfl
      · exact one all
      · rw [closed] at info
        cases info
    · rcases reply with none | info
      · exact one none
      · rw [closed] at info
        cases info
  · rw [if_neg unknown, write_eq_iff]
    constructor
    · rintro nobody ⟨-, other, info, named⟩
      exact nobody other info named
    · intro nobody other info named
      refine nobody ⟨?_, other, info, named⟩
      by_cases none : rid = 0
      · exact Or.inl none
      · right
        by_contra closed
        exact unknown (Or.inr ⟨none, Bool.eq_false_iff.mpr closed⟩)

theorem infoSM_quiet_iff {command : SmCommand} :
    (infoSM world station bus command).2 = station ↔
      smQueue.isFull (station.smQueue bus).ring = true := by
  unfold infoSM
  dsimp only
  constructor
  · intro same
    by_contra room
    have queue := congrFun (congrArg Station.smQueue same) bus
    simp only [Function.update_self] at queue
    rw [enqueueSM, if_neg room] at queue
    have added := congrArg (fun log => log.added.length) queue
    simp [Log.put] at added
  · intro full
    rw [enqueueSM, if_pos full, Function.update_eq_self]

/-- A branch without a test of the flag: the same for both commands. -/
theorem quiet_of_same {branch : Result} {executes : Prop} :
    (∃ code, some branch = some (code, station) ∧
      (¬ executes → ∃ next, some branch = some (code, next))) ↔ branch.2 = station := by
  constructor
  · rintro ⟨code, same, -⟩
    rw [Option.some.inj same]
  · intro same
    refine ⟨branch.1, ?_, fun _ => ⟨branch.2, rfl⟩⟩
    rw [← same]

/-- A CHECK of a message for an INFO session sends it, and a CHECK of a service mode
command queues it; all others are quiet. -/
theorem quiet_iff (world : World) (station : Station) (bus session : Nat)
    (device parameter : List Char) :
    Quiet world station bus session device parameter ↔
      ¬ Disturbs station bus device parameter := by
  unfold Quiet Disturbs SetExecutes handleCHECK handleSET handleSetcheck
  rcases station.groupOf bus device with _ | group
  · exact iff_of_true ⟨_, rfl, fun _ => ⟨_, rfl⟩⟩ not_false
  · cases group with
    | gl => exact iff_of_true tested_setcheckGL not_false
    | ga => exact iff_of_true tested_setcheckGA not_false
    | fb => exact iff_of_true tested_setcheckFB not_false
    | time => exact iff_of_true tested_setcheckTIME not_false
    | lock => exact iff_of_true tested_setcheckLOCK not_false
    | power => exact iff_of_true tested_setcheckPOWER not_false
    | gm =>
        cases scanned : scanGM parameter with
        | none =>
            simp only [setcheckGM, scanned]
            refine iff_of_true ⟨_, rfl, fun _ => ⟨_, rfl⟩⟩ ?_
            rintro ⟨sid, rid, msg, same, -⟩
            cases same
        | some message =>
            obtain ⟨sid, rid, msg⟩ := message
            simp only [setcheckGM, scanned]
            rw [quiet_of_same, setGM_quiet_iff]
            constructor
            · rintro quiet ⟨sid', rid', msg', same, reaches⟩
              cases same
              exact quiet reaches
            · intro quiet reaches
              exact quiet ⟨sid, rid, msg, rfl, reaches⟩
    | sm =>
        cases scanned : scanSM parameter with
        | inl code =>
            simp only [setcheckSM, scanned]
            refine iff_of_true ⟨_, rfl, fun _ => ⟨_, rfl⟩⟩ ?_
            rintro ⟨command, same, -⟩
            cases same
        | inr command =>
            simp only [setcheckSM, scanned]
            rw [quiet_of_same, infoSM_quiet_iff]
            constructor
            · rintro full ⟨command', same, room⟩
              rw [full] at room
              cases room
            · intro quiet
              by_contra room
              exact quiet ⟨command, rfl, Bool.eq_false_iff.mpr room⟩
    | server => exact iff_of_true ⟨_, rfl, fun _ => ⟨_, rfl⟩⟩ not_false
    | session => exact iff_of_true ⟨_, rfl, fun _ => ⟨_, rfl⟩⟩ not_false
    | description => exact iff_of_true ⟨_, rfl, fun _ => ⟨_, rfl⟩⟩ not_false

end Branches

/-! ## A message and a service mode command -/

/-- One INFO session, and an empty service mode queue. -/
def listeningStation : Station where
  server := { CmdClient.startedServer with
    tables := { startedTables with isInfoSession := fun session => session == 2 } }
  hasDevice := fun _ _ => true
  power := fun _ => ⟨false, [], false, 0⟩
  smQueue := fun _ => ⟨⟨fun _ => ⟨"", 0, ⟨.get, .cv, 0, 0, 0, 0⟩, 0⟩, 0, 0⟩, [], []⟩
  pipes := fun _ => []

/-- A world in which the programmer answers 3. -/
def quietWorld : World :=
  ⟨loopbackDrivers, 0, .value 3⟩

/-- `CHECK 0 GM 2 0 x` sends the message; `CHECK 1 SM -1 CV 8 3` programs CV 8. -/
theorem not_quiet_messages :
    ¬ Quiet quietWorld listeningStation 0 1 "GM".toList "2 0 x".toList ∧
      ¬ Quiet quietWorld listeningStation 1 1 "SM".toList "-1 CV 8 3".toList := by
  constructor
  · rintro ⟨code, same, -⟩
    have sent : (handleCHECK quietWorld listeningStation 0 1 "GM".toList "2 0 x".toList).map
        (fun both => (both.2.pipes 2).length) = some 1 := by decide
    rw [same] at sent
    cases sent
  · rintro ⟨code, same, -⟩
    have queued : (handleCHECK quietWorld listeningStation 1 1 "SM".toList
        "-1 CV 8 3".toList).map (fun both => (both.2.smQueue 1).added.length) = some 1 := by
      decide
    rw [same] at queued
    cases queued

end Srcpd.Check
