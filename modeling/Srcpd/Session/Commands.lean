import Srcpd.Info.Protocols
import Srcpd.Session.Replies

/-!
# The commands of a session

Some handlers write the reply, others only return a code, for which there is a
message.  A handler that does not return, because it waits for room in a queue, is not
answered.
-/

namespace Srcpd.CmdClient

open Srcpd.Command Srcpd.Handlers Srcpd.Info Srcpd.Time

/-! ## The server as a session sees it -/

/-- The device groups that a line may name. -/
inductive Device
  | gl
  | ga
  | fb
  | gm
  | sm
  | time
  | lock
  | power
  | server
  | session
  | description
  deriving DecidableEq

/-- The word of a device group. -/
def Device.name : Device → String
  | gl => "gl"
  | ga => "ga"
  | fb => "fb"
  | gm => "gm"
  | sm => "sm"
  | time => "time"
  | lock => "lock"
  | power => "power"
  | server => "server"
  | session => "session"
  | description => "description"

/-- `strncasecmp` with a name, of as many characters as the name has. -/
def hasPrefix (name : String) (text : List Char) : Bool :=
  (text.take name.toList.length).map Char.toLower == name.toList

/-- The device groups in the order in which they are compared. -/
def devices : List Device :=
  [.gl, .ga, .fb, .gm, .sm, .time, .lock, .power, .server, .session, .description]

/-- No two names begin the same text. -/
def deviceOf (text : List Char) : Option Device :=
  devices.find? fun device => hasPrefix device.name text

/-- The tables and what else a reply is made of. -/
structure Site where
  server : Server
  protocols : ProtocolsPrintable server.tables
  numBuses : Nat
  hasDevice : Nat → Device → Bool
  busDescription : Nat → LineText
  power : Nat → PowerState
  serverState : Option Keyword

/-- What a command depends on besides: the environment of the handlers, the codes of
the other handlers, and the contents of variables in which nothing is stored. -/
structure Surroundings where
  env : Environment
  otherCode : List Char → List Char → List Char → Nat
  smResult : SmResult
  value : Int
  addr : Int

/-! ## GET -/

/-- `GET SM`. -/
def getSM (sur : Surroundings) (bus : Nat) (parameter : List Char) : List Char :=
  let now := sur.env.now
  match scanLong parameter with
  | none => srcpFmtMsg 419 now
  | some (addr, rest) =>
      match scanWord rest with
      | none => srcpFmtMsg 419 now
      | some (ctype, rest) =>
          match scanLongs 2 rest with
          | [] => srcpFmtMsg 419 now
          | value1 :: values =>
              match smTypeOf ctype with
              | none => srcpFmtMsg 412 now
              | some type =>
                  match type, values with
                  | .cvBit, [] => srcpFmtMsg 419 now
                  | .cvBit, value2 :: _ => infoSM now bus type addr value1 value2 sur.smResult
                  | _, _ => infoSM now bus type addr value1 0 sur.smResult

/-- `GET DESCRIPTION`, of a bus or of a device. -/
def getDESCRIPTION (sur : Surroundings) (site : Site) (bus : Nat) (parameter : List Char) :
    List Char :=
  let now := sur.env.now
  let tables := site.server.tables
  match scanWord parameter with
  | none => describeBus bus (site.power bus) (site.busDescription bus)
  | some (word, _) =>
      -- the conversion ends behind ten characters
      let devgrp := word.take 10
      let rest := (skipSpace parameter).drop devgrp.length
      let addr := int32 ((scanLong rest).elim sur.addr Prod.fst)
      if site.hasDevice bus .description then
        if startsWith "GL".toList devgrp then
          orCode (cacheDescribeGL bus (tables.gl bus) addr) 416 now
        else if startsWith "GA".toList devgrp then
          match describeGA bus (tables.ga bus) addr with
          | some text => orCode text 416 now
          | none => srcpFmtMsg 422 now
        else if startsWith "FB".toList devgrp then srcpFmtMsg 423 now
        else if startsWith "SESSION".toList devgrp then srcpFmtMsg 423 now
        else if startsWith "TIME".toList devgrp then describeTIME tables.clock tables.inittime
        else if startsWith "SERVER".toList devgrp then srcpFmtMsg 423 now
        else srcpFmtMsg 422 now
      else srcpFmtMsg 422 now

/-- `GET LOCK`. -/
def getLOCK (sur : Surroundings) (site : Site) (bus : Nat) (parameter : List Char) : List Char :=
  let now := sur.env.now
  let tables := site.server.tables
  match scanWord parameter with
  | none => srcpFmtMsg 419 now
  | some (devgrp, rest) =>
      match scanLong rest with
      | none => srcpFmtMsg 419 now
      | some (addr, _) =>
          if startsWith "GL".toList devgrp then
            if (tables.gl bus).isInitialized (int32 addr) then
              describeLOCK bus .gl (int32 addr) (tables.glLock bus)
            else srcpFmtMsg 412 now
          else if startsWith "GA".toList devgrp then
            describeLOCK bus .ga (int32 addr) ((tables.ga bus).gastate (int32 addr)).lock
          else srcpFmtMsg 422 now

/-- `GET GA`. -/
def getGA (sur : Surroundings) (site : Site) (bus : Nat) (parameter : List Char) : List Char :=
  let now := sur.env.now
  match scanLongs 2 parameter with
  | [addr, port] => infoGA bus (site.server.tables.ga bus) (int32 addr) (int32 port) now
  -- at the end of the text `sscanf` answers -1, which is taken for too many
  | _ => srcpFmtMsg (if skipSpace parameter = [] then 418 else 419) now

/-- The group of a device of a bus. -/
def Site.groupOf (site : Site) (bus : Nat) (device : List Char) : Option Device :=
  (deviceOf device).filter fun group => group == .description || site.hasDevice bus group

/-- `handleGET`, by device group. -/
def handleGET (sur : Surroundings) (site : Site) (bus : Nat) (device parameter : List Char) :
    List Char :=
  let now := sur.env.now
  let tables := site.server.tables
  match site.groupOf bus device with
  | some .fb =>
      match scanLong parameter with
      | some (port, _) => infoFB bus (tables.fb bus) (int32 port)
      | none => srcpFmtMsg 419 now
  | some .gl =>
      match scanLong parameter with
      | some (addr, _) =>
          ((cacheInfoGL bus (tables.gl bus) (int32 addr)).elim (srcpFmtMsg 416 now) fun text =>
            orCode text 100 now)
      | none => srcpFmtMsg 419 now
  | some .ga => getGA sur site bus parameter
  | some .sm => getSM sur bus parameter
  | some .power => infoPower bus (site.power bus)
  | some .server =>
      match site.serverState with
      | some state => infoSERVER now state
      | none => srcpFmtMsg 200 now
  | some .time => orCode (infoTIME tables.clock now) 416 now
  | some .description => getDESCRIPTION sur site bus parameter
  | some .lock => getLOCK sur site bus parameter
  | _ => srcpFmtMsg 422 now

section Handlers

variable {sur : Surroundings} {site : Site} {bus session : Nat}
  {device parameter : List Char}

theorem reply_cacheDescribeGL (addr : Int) :
    cacheDescribeGL bus (site.server.tables.gl bus) addr ≠ [] →
      Reply (cacheDescribeGL bus (site.server.tables.gl bus) addr) := by
  intro nonempty
  rw [cacheDescribeGL] at nonempty ⊢
  split
  · rename_i initialized
    exact reply_description (site.protocols.gl bus addr initialized) (Nat.le_of_ble_eq_true rfl)
  · rename_i dead
    rw [if_neg dead] at nonempty
    exact absurd rfl nonempty

theorem reply_describeGA {text : List Char} {addr : Int}
    (described : describeGA bus (site.server.tables.ga bus) addr = some text)
    (nonempty : text ≠ []) :
    Reply text := by
  simp only [describeGA] at described
  split at described
  · cases described
  · split at described
    · rename_i valid
      cases described
      exact reply_description (site.protocols.ga bus addr valid.2.2) (Nat.zero_le _)
    · cases described
      exact absurd rfl nonempty

theorem reply_getSM : Reply (getSM sur bus parameter) := by
  unfold getSM
  dsimp only
  repeat' split
  all_goals first
    | exact reply_srcpFmtMsg
    | exact reply_infoSM

theorem reply_getDESCRIPTION : Reply (getDESCRIPTION sur site bus parameter) := by
  unfold getDESCRIPTION
  dsimp only
  split
  · exact reply_describeBus
  · split
    · split
      · exact reply_orCode (reply_cacheDescribeGL _)
      · split
        · split
          · rename_i described
            exact reply_orCode (reply_describeGA described)
          · exact reply_srcpFmtMsg
        · repeat' split
          all_goals first
            | exact reply_srcpFmtMsg
            | exact reply_describeTIME
    · exact reply_srcpFmtMsg

theorem reply_getLOCK : Reply (getLOCK sur site bus parameter) := by
  unfold getLOCK
  dsimp only
  repeat' split
  all_goals first
    | exact reply_srcpFmtMsg
    | exact reply_describeLOCK

theorem reply_getGA : Reply (getGA sur site bus parameter) := by
  unfold getGA
  dsimp only
  split
  · exact reply_infoGA
  · exact reply_srcpFmtMsg

/-- The status of a locomotive that is asked for has room in the reply. -/
def GlFits (site : Site) (bus : Nat) (device parameter : List Char) : Prop :=
  site.groupOf bus device = some .gl →
    ∀ addr rest, scanLong parameter = some (addr, rest) →
      let gl := site.server.tables.gl bus
      gl.isInitialized (int32 addr) = true →
        (glInfoBody bus (int32 addr) (gl.glstate (int32 addr))).length + 1 < maxsrcplinelen

theorem snprintf_ne_nil {text : List Char} (nonempty : text ≠ []) : snprintf text ≠ [] := by
  intro empty
  rw [snprintf, List.take_eq_nil_iff] at empty
  rcases empty with zero | nothing
  · cases zero
  · exact nonempty nothing

theorem reply_getGL_iff {now : Nat} {gl : Gl} {addr : Int} :
    Reply ((cacheInfoGL bus gl addr).elim (srcpFmtMsg 416 now) fun text => orCode text 100 now) ↔
      (gl.isInitialized addr = true →
        (glInfoBody bus addr (gl.glstate addr)).length + 1 < maxsrcplinelen) := by
  by_cases initialized : gl.isInitialized addr = true
  · have nonempty : snprintf (glInfoBody bus addr (gl.glstate addr) ++ [newline]) ≠ [] :=
      snprintf_ne_nil (List.append_ne_nil_of_right_ne_nil _ (List.cons_ne_nil _ _))
    rw [cacheInfoGL_eq initialized, Option.elim_some, orCode, if_neg nonempty, reply_glInfo_iff]
    exact ⟨fun fits _ => fits, fun fits => fits initialized⟩
  · have silent : cacheInfoGL bus gl addr = none := by
      rw [cacheInfoGL, if_neg initialized]
    rw [silent, Option.elim_none]
    exact iff_of_true reply_srcpFmtMsg fun living => absurd living initialized

theorem reply_handleGET_iff :
    Reply (handleGET sur site bus device parameter) ↔ GlFits site bus device parameter := by
  unfold handleGET GlFits
  dsimp only
  rcases site.groupOf bus device with _ | group
  · exact iff_of_true reply_srcpFmtMsg fun other => by cases other
  · cases group with
    | gl =>
        dsimp only
        rcases scanned : scanLong parameter with _ | ⟨addr, rest⟩
        · refine iff_of_true reply_srcpFmtMsg ?_
          intro _ addr rest some
          cases some
        · rw [reply_getGL_iff]
          constructor
          · intro fits _ addr' rest' same
            cases same
            exact fits
          · intro fits
            exact fits rfl addr rest rfl
    | fb =>
        refine iff_of_true ?_ fun other => by cases other
        dsimp only
        split
        · exact reply_infoFB
        · exact reply_srcpFmtMsg
    | ga => exact iff_of_true reply_getGA fun other => by cases other
    | sm => exact iff_of_true reply_getSM fun other => by cases other
    | power => exact iff_of_true reply_infoPower fun other => by cases other
    | server =>
        refine iff_of_true ?_ fun other => by cases other
        dsimp only
        split
        · exact reply_infoSERVER
        · exact reply_srcpFmtMsg
    | time =>
        exact iff_of_true (reply_orCode reply_infoTIME) fun other => by cases other
    | description => exact iff_of_true reply_getDESCRIPTION fun other => by cases other
    | lock => exact iff_of_true reply_getLOCK fun other => by cases other
    | gm => exact iff_of_true reply_srcpFmtMsg fun other => by cases other
    | session => exact iff_of_true reply_srcpFmtMsg fun other => by cases other

end Handlers

/-! ## The commands that are answered by their code -/

/-- The groups whose handlers are modelled. -/
def Device.group : Device → Option DeviceGroup
  | .gl => some .gl
  | .ga => some .ga
  | .fb => some .fb
  | .time => some .time
  | .lock => some .lock
  | _ => none

/-- The reply with a code. -/
def fmtCode (now : Nat) (code : Nat) : List Char :=
  srcpFmtMsg code now

/-- The reply of `handleSET`. -/
def handleSetReply (sur : Surroundings) (site : Site) (bus session : Nat)
    (device parameter : List Char) : Option (List Char) :=
  let now := sur.env.now
  match site.groupOf bus device with
  | none => some (fmtCode now 422)
  | some group =>
      match group.group, group with
      | some modelled, _ =>
          (handleSET sur.env.drivers site.server now bus session parameter modelled).map
            fun answer => fmtCode now answer.code
      | none, .gm => some (fmtCode now (sur.otherCode "SET".toList device parameter))
      | none, .sm => some (fmtCode now (sur.otherCode "SET".toList device parameter))
      | none, .power => some (fmtCode now (sur.otherCode "SET".toList device parameter))
      | none, _ => some (fmtCode now 422)

/-- The reply of `handleINIT`. -/
def handleInitReply (sur : Surroundings) (site : Site) (bus session : Nat)
    (device parameter : List Char) : Option (List Char) :=
  let now := sur.env.now
  match site.groupOf bus device with
  | none => some (fmtCode now 422)
  | some group =>
      match group.group, group with
      | some modelled, _ =>
          (handleINIT sur.env.drivers sur.env.initFbFunc site.server now bus session parameter
            modelled).map fun answer => fmtCode now answer.code
      | none, .power => some (fmtCode now 200)
      | none, .sm => some (fmtCode now (sur.otherCode "INIT".toList device parameter))
      | none, _ => some (fmtCode now 422)

/-- The session that a `TERM SESSION` names, or else its own. -/
def termsession (session : Nat) (parameter : List Char) : Nat :=
  (scanLong parameter).elim session fun scanned => (scanned.1 % 2 ^ 64).toNat

/-- A session that terminates itself is cancelled before it writes the reply. -/
def handleTermReply (sur : Surroundings) (site : Site) (bus session : Nat)
    (device parameter : List Char) : Option (List Char) :=
  let now := sur.env.now
  match site.groupOf bus device with
  | none => some (fmtCode now 422)
  | some group =>
      match group.group, group with
      | some modelled, _ =>
          (handleTERM sur.env.drivers site.server now bus session sur.env.garbage parameter
            modelled).map fun answer => fmtCode now answer.code
      | none, .power => some (fmtCode now (sur.otherCode "TERM".toList device parameter))
      | none, .sm => some (fmtCode now (sur.otherCode "TERM".toList device parameter))
      | none, .server => some (fmtCode now 200)
      | none, .session =>
          if termsession session parameter = session then some [] else some (fmtCode now 415)
      | none, _ => some (fmtCode now 422)

/-- The reply of `handleVERIFY`. -/
def handleVerifyReply (sur : Surroundings) (site : Site) (bus : Nat)
    (device parameter : List Char) : List Char :=
  if site.groupOf bus device = some .sm then
    fmtCode sur.env.now (sur.otherCode "VERIFY".toList device parameter)
  else fmtCode sur.env.now 423

/-- The reply of `handleRESET`. -/
def handleResetReply (sur : Surroundings) (site : Site) (bus : Nat) (device : List Char) :
    List Char :=
  if site.groupOf bus device = some .server then fmtCode sur.env.now 200
  else fmtCode sur.env.now 423

section Handlers

variable {sur : Surroundings} {site : Site} {bus session : Nat}
  {device parameter : List Char}

/-- A handler that returns is answered by the message for its code. -/
theorem answered_iff {answer : Option Handlers.Answer} {now : Nat} :
    (∃ text, (answer.map fun answer => fmtCode now answer.code) = some text ∧ Reply text) ↔
      answer.isSome = true := by
  rcases answer with _ | answer
  · simp
  · exact iff_of_true ⟨_, rfl, reply_srcpFmtMsg⟩ rfl

theorem answered_code {now code : Nat} :
    ∃ text, some (fmtCode now code) = some text ∧ Reply text :=
  ⟨_, rfl, reply_srcpFmtMsg⟩

theorem updateFB_isSome_iff {fb : Feedback.Fb} {time port value : Int} :
    (Feedback.updateFB fb time port value).isSome = true ↔
      ¬ (¬ (port > fb.numberOfFb ∨ port < 1) ∧
        (fb.fbstate (Feedback.portT port)).state ≠ value ∧ value = 0 ∧ fb.minTime ≠ 0 ∧
          fb.queueIsFull = true) := by
  by_cases blocked : ¬ (port > fb.numberOfFb ∨ port < 1) ∧
      (fb.fbstate (Feedback.portT port)).state ≠ value ∧ value = 0 ∧ fb.minTime ≠ 0 ∧
        fb.queueIsFull = true
  · rcases blocked with ⟨inside, differs, opens, delayed, full⟩
    have waits : Feedback.updateFB fb time port value = none := by
      have same : (fb.setState (Feedback.portT port)
          { fb.fbstate (Feedback.portT port) with change := -1 }).queueIsFull = true := full
      simp only [Feedback.updateFB, if_neg inside, if_pos differs, if_pos opens, if_neg delayed,
        Feedback.queueResetFB, if_pos same, Option.map_none]
    rw [waits]
    exact iff_of_false (by simp) (not_not.mpr ⟨inside, differs, opens, delayed, full⟩)
  · refine iff_of_true ?_ blocked
    by_cases full : fb.queueIsFull = true
    · rw [Feedback.updateFB]
      split
      · rfl
      · rename_i inside
        dsimp only
        split
        · rename_i differs
          split
          · rename_i opens
            split
            · rfl
            · rename_i delayed
              exact absurd ⟨inside, differs, opens, delayed, full⟩ blocked
          · split
            · rfl
            · rfl
        · rfl
    · exact Feedback.updateFB_isSome (Bool.eq_false_iff.mpr full) time port value

/-- A `SET FB` does not wait for room in the reset queue. -/
def FbReturns (site : Site) (bus : Nat) (device parameter : List Char) : Prop :=
  site.groupOf bus device = some .fb →
    ∀ fbport value, scanLongs 2 parameter = [fbport, value] →
      let fb := site.server.tables.fb bus
      ¬ (¬ (int32 fbport > fb.numberOfFb ∨ int32 fbport < 1) ∧
        (fb.fbstate (Feedback.portT (int32 fbport))).state ≠ int32 value ∧ int32 value = 0 ∧
          fb.minTime ≠ 0 ∧ fb.queueIsFull = true)

theorem setFB_isSome_iff {server : Server} {now : Nat} :
    (setFB server now bus parameter).isSome = true ↔
      ∀ fbport value, scanLongs 2 parameter = [fbport, value] →
        (Feedback.updateFB (server.tables.fb bus) now (int32 fbport) (int32 value)).isSome =
          true := by
  unfold setFB
  split
  · rename_i fbport value scanned
    rw [Option.isSome_map]
    constructor
    · intro returns fbport' value' scanned'
      rw [scanned] at scanned'
      cases scanned'
      exact returns
    · intro returns
      exact returns fbport value scanned
  · rename_i short
    refine iff_of_true rfl ?_
    intro fbport value scanned
    exact absurd scanned (short fbport value)

theorem after_isSome {server : Server} {code : Nat} {announcing : Announcing}
    (some : announcing.isSome = true) : (server.after code announcing).isSome = true := by
  rwa [Server.after, Option.isSome_map]

theorem cacheLockGL_isSome {tables : Tables} {now : Nat} {addr duration : Int} :
    (tables.cacheLockGL now bus addr duration session).isSome = true := by
  rw [Tables.cacheLockGL]
  split <;> rfl

theorem cacheUnlockGL_isSome {tables : Tables} {now : Nat} {addr : Int} :
    (tables.cacheUnlockGL now bus addr session).isSome = true := by
  rw [Tables.cacheUnlockGL]
  split <;> rfl

theorem lockGA_isSome {tables : Tables} {now : Nat} {addr duration : Int} :
    (tables.lockGA now bus addr duration session).isSome = true := by
  rw [Tables.lockGA]
  split <;> rfl

theorem unlockGA_isSome {tables : Tables} {now : Nat} {addr : Int} :
    (tables.unlockGA now bus addr session).isSome = true := by
  rw [Tables.unlockGA]
  dsimp only
  split <;> rfl

theorem termGA_isSome {tables : Tables} {now : Nat} {addr : Int} :
    (tables.termGA now bus addr).isSome = true := by
  rw [Tables.termGA]
  split <;> rfl

theorem initGA_isSome {drivers : Drivers} {tables : Tables} {now : Nat} {addr : Int}
    {protocol : Char} : (tables.initGA drivers now bus addr protocol).isSome = true := by
  rw [Tables.initGA]
  split
  · dsimp only
    split <;> rfl
  · rfl

theorem handleSET_isSome_iff {server : Server} {drivers : Drivers} {now : Nat}
    {group : DeviceGroup} :
    (handleSET drivers server now bus session parameter group).isSome = true ↔
      (group = .fb → ∀ fbport value, scanLongs 2 parameter = [fbport, value] →
        (Feedback.updateFB (server.tables.fb bus) now (int32 fbport) (int32 value)).isSome =
          true) := by
  cases group with
  | gl =>
      refine iff_of_true ?_ fun other => by cases other
      change (setGL drivers server now bus session parameter).isSome = true
      unfold setGL
      dsimp only
      repeat' split
      · exact after_isSome rfl
      all_goals rfl
  | ga =>
      refine iff_of_true ?_ fun other => by cases other
      change (setGA server now bus session parameter).isSome = true
      unfold setGA
      dsimp only
      repeat' split
      all_goals rfl
  | fb =>
      change (setFB server now bus parameter).isSome = true ↔ _
      rw [setFB_isSome_iff]
      exact ⟨fun returns _ => returns, fun returns => returns rfl⟩
  | time =>
      refine iff_of_true ?_ fun other => by cases other
      change (Srcpd.Handlers.setTIME server now parameter).isSome = true
      unfold Srcpd.Handlers.setTIME
      split
      · exact after_isSome rfl
      · rfl
  | lock =>
      refine iff_of_true ?_ fun other => by cases other
      change (setLOCK server now bus session parameter).isSome = true
      unfold setLOCK
      repeat' split
      · exact after_isSome cacheLockGL_isSome
      · exact after_isSome lockGA_isSome
      all_goals rfl

theorem handleINIT_isSome {server : Server} {drivers : Drivers} {now : Nat}
    {initFbFunc : Nat → Option (Int → Char → Int → SrcpCode)} {group : DeviceGroup} :
    (handleINIT drivers initFbFunc server now bus session parameter group).isSome = true := by
  cases group with
  | gl =>
      change (initGL drivers server now bus session parameter).isSome = true
      unfold initGL
      dsimp only
      repeat' split
      all_goals rfl
  | ga =>
      change (initGA drivers server now bus parameter).isSome = true
      unfold initGA
      repeat' split
      all_goals first
        | rfl
        | exact after_isSome initGA_isSome
  | fb =>
      change (initFB initFbFunc server bus parameter).isSome = true
      unfold initFB
      dsimp only
      repeat' split
      all_goals rfl
  | time =>
      change (Srcpd.Handlers.initTIME server now parameter).isSome = true
      unfold Srcpd.Handlers.initTIME
      split
      · exact after_isSome rfl
      · rfl
  | lock => rfl

theorem cacheTermGL_isSome {server : Server} {drivers : Drivers} {now : Nat} {addr : Int} :
    (cacheTermGL drivers server now bus addr).isSome = true := by
  unfold cacheTermGL
  dsimp only
  split
  · apply after_isSome
    split
    · rfl
    · rfl
  · rfl

theorem handleTERM_isSome {server : Server} {drivers : Drivers} {now garbage : Nat}
    {group : DeviceGroup} :
    (handleTERM drivers server now bus session garbage parameter group).isSome = true := by
  cases group with
  | gl =>
      change (termGL drivers server now bus session garbage parameter).isSome = true
      unfold termGL
      dsimp only
      repeat' split
      · rfl
      · exact cacheTermGL_isSome
      · rw [Option.isSome_bind, Option.any_eq_true]
        rcases Option.isSome_iff_exists.mp (after_isSome cacheUnlockGL_isSome) with
          ⟨unlocked, released⟩
        refine ⟨unlocked, released, ?_⟩
        rw [Option.isSome_map]
        exact cacheTermGL_isSome
      · rfl
      · rfl
  | ga =>
      change (termGA server now bus session parameter).isSome = true
      unfold termGA
      dsimp only
      repeat' split
      · rfl
      · exact after_isSome termGA_isSome
      · rw [Option.isSome_bind, Option.any_eq_true]
        rcases Option.isSome_iff_exists.mp (after_isSome unlockGA_isSome) with
          ⟨unlocked, released⟩
        refine ⟨unlocked, released, ?_⟩
        rw [Option.isSome_map]
        exact after_isSome termGA_isSome
      · rfl
  | fb => rfl
  | time => rfl
  | lock =>
      change (termLOCK server now bus session parameter).isSome = true
      unfold termLOCK
      repeat' split
      · exact after_isSome cacheUnlockGL_isSome
      · exact after_isSome unlockGA_isSome
      all_goals rfl

/-! ### The replies -/

theorem reply_handleSet_iff :
    (∃ text, handleSetReply sur site bus session device parameter = some text ∧ Reply text) ↔
      FbReturns site bus device parameter := by
  unfold handleSetReply FbReturns
  dsimp only
  rcases site.groupOf bus device with _ | group
  · exact iff_of_true answered_code fun other => by cases other
  · cases group with
    | fb =>
        dsimp only [Device.group]
        rw [answered_iff, handleSET_isSome_iff]
        constructor
        · intro returns _ fbport value scanned
          exact updateFB_isSome_iff.mp (returns rfl fbport value scanned)
        · intro returns _ fbport value scanned
          exact updateFB_isSome_iff.mpr (returns rfl fbport value scanned)
    | gl =>
        refine iff_of_true ?_ fun other => by cases other
        exact answered_iff.mpr (handleSET_isSome_iff.mpr fun other => by cases other)
    | ga =>
        refine iff_of_true ?_ fun other => by cases other
        exact answered_iff.mpr (handleSET_isSome_iff.mpr fun other => by cases other)
    | time =>
        refine iff_of_true ?_ fun other => by cases other
        exact answered_iff.mpr (handleSET_isSome_iff.mpr fun other => by cases other)
    | lock =>
        refine iff_of_true ?_ fun other => by cases other
        exact answered_iff.mpr (handleSET_isSome_iff.mpr fun other => by cases other)
    | gm => exact iff_of_true answered_code fun other => by cases other
    | sm => exact iff_of_true answered_code fun other => by cases other
    | power => exact iff_of_true answered_code fun other => by cases other
    | server => exact iff_of_true answered_code fun other => by cases other
    | session => exact iff_of_true answered_code fun other => by cases other
    | description => exact iff_of_true answered_code fun other => by cases other

theorem reply_handleInit :
    ∃ text, handleInitReply sur site bus session device parameter = some text ∧ Reply text := by
  unfold handleInitReply
  dsimp only
  rcases site.groupOf bus device with _ | group
  · exact answered_code
  · cases group
    all_goals first
      | exact answered_code
      | exact answered_iff.mpr handleINIT_isSome

/-- A `TERM SESSION` that names another session. -/
def TermsOther (site : Site) (bus session : Nat) (device parameter : List Char) : Prop :=
  site.groupOf bus device = some .session → termsession session parameter ≠ session

theorem reply_handleTerm_iff :
    (∃ text, handleTermReply sur site bus session device parameter = some text ∧ Reply text) ↔
      TermsOther site bus session device parameter := by
  unfold handleTermReply TermsOther
  dsimp only
  rcases site.groupOf bus device with _ | group
  · exact iff_of_true answered_code fun other => by cases other
  · by_cases session' : group = .session
    · subst session'
      dsimp only [Device.group]
      by_cases own : termsession session parameter = session
      · rw [if_pos own]
        refine iff_of_false ?_ fun other => other rfl own
        rintro ⟨text, same, reply⟩
        cases same
        exact not_reply_nil reply
      · rw [if_neg own]
        exact iff_of_true answered_code fun _ => own
    · refine iff_of_true ?_ fun other => absurd (Option.some.inj other) session'
      cases group
      all_goals first
        | exact answered_code
        | exact answered_iff.mpr handleTERM_isSome
        | exact absurd rfl session'

theorem reply_handleVerify : Reply (handleVerifyReply sur site bus device parameter) := by
  rw [handleVerifyReply]
  split <;> exact reply_srcpFmtMsg

theorem reply_handleReset : Reply (handleResetReply sur site bus device) := by
  rw [handleResetReply]
  split <;> exact reply_srcpFmtMsg

end Handlers

end Srcpd.CmdClient
