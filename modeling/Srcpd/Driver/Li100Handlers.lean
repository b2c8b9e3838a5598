import Srcpd.Driver.Li100Answer
import Srcpd.Driver.Li100Reports
import Srcpd.Info.Announce

/-!
# What the LI100 answers change

`readAnswer_LI100` notes a wrong checksum in its status only; the handlers behind it
look at the message all the same.  `ignoresWrong_iff` says which messages none of
them carries out.
-/

namespace Srcpd.Driver.Li100.Answer

open Srcpd.Command Srcpd.Feedback Srcpd.Info Srcpd.Transition

/-! ## The server -/

/-- The fields of a bus about its power. -/
structure Power where
  state : Int
  changed : Int
  msg : String
  changeTime : Nat

/-- `setPower` with its message and time. -/
def setPower (now : Nat) (state : Int) (msg : String) : Power where
  state := if state = -1 then 0 else state
  changed := if state = -1 then 0 else 1
  msg := msg
  changeTime := now

/-- What `setSM` announces. -/
structure SmInfo where
  type : Int
  typeaddr : Int
  bit : Int
  value : Int
  returnCode : Int

/-- `CV_BIT`. -/
def cvBit : Int := 3

/-- `setSM`, which tells the sessions the value of a bit only. -/
def setSM (type typeaddr bit value returnCode : Int) : SmInfo where
  type := type
  typeaddr := typeaddr
  bit := bit
  value :=
    if type = cvBit then if (BitVec.ofInt 32 value).getLsbD bit.toNat then 1 else 0 else value
  returnCode := returnCode

/-- The data of the driver, as far as the handlers use them. -/
structure Li100Data where
  numberGa : Int
  numberGl : Int
  lastBit : Int
  lastType : Int
  lastTypeaddr : Int
  lastValue : Int
  getAddr : Int
  emergencyOn : Int
  versionInterface : Int
  codeInterface : Int
  versionZentrale : Int
  pgmMode : Int
  externEngine : Nat → Int
  externEngineCtr : Int

/-- The clock is that of the locomotives. -/
structure Station where
  data : Li100Data
  gl : Gl
  ga : GaBus
  fb : Fb
  power : Power
  sm : List SmInfo
  /-- What `session_endwait` was given. -/
  endwaits : List Int

/-- The first of the 100 entries with the address. -/
def findEngine (data : Li100Data) (address : Int) : Option Nat :=
  (List.range 100).find? fun i => data.externEngine i = address

/-- Add an extern controlled engine to the internal table. -/
def addExternEngine (data : Li100Data) (address : Int) : Li100Data :=
  -- an address that the table has gets another entry
  let i :=
    if data.externEngineCtr = 0 then some 0
    else if data.externEngineCtr < 100 then findEngine data (-1)
    else none
  match i with
  | some i =>
      { data with
        externEngine := Function.update data.externEngine i address
        externEngineCtr := data.externEngineCtr + 1 }
  | none => data

/-- Delete an extern controlled engine from the internal table. -/
def removeExternEngine (data : Li100Data) (address : Int) : Li100Data :=
  match findEngine data address with
  | some i =>
      { data with
        externEngine := Function.update data.externEngine i (-1)
        externEngineCtr := data.externEngineCtr - 1 }
  | none => data

/-- `setGA` for the accessory that a report is about. -/
def setGA (ga : GaBus) (now : Nat) (addr port action : Int) : GaBus :=
  let device := ga.gastate addr
  if 0 < addr ∧ addr ≤ ga.numberOfGa ∧ device.isInitialized then
    let device := { device with
      id := addr
      action := action
      port := port
      tv := Function.update device.tv port now }
    { ga with gastate := Function.update ga.gastate addr device }
  else ga

/-- The accessories are those of the tables that announce. -/
theorem setGA_eq (tables : Tables) (now bus : Nat) {addr : Int} {a : GaState}
    (id : a.id = addr) :
    (tables.setGA now bus addr a).map (fun set => set.1.ga bus) =
      some (setGA (tables.ga bus) now addr a.port a.action) := by
  rw [Tables.setGA, setGA]
  dsimp only
  split
  · rw [id]
    simp [Tables.setGa]
  · rfl

/-! ## The handlers -/

/-- The version in two nibbles. -/
def version (byte : Byte) : Int :=
  ((byte &&& 0xf0).toNat * 16 + (byte &&& 0x0f).toNat : Nat)

/-- The programming that is waited for has an answer. -/
def endProgramming (station : Station) (returnvalue value returnCode : Int) : Station :=
  let data := station.data
  if data.lastType ≠ -1 then
    { station with
      endwaits := station.endwaits ++ [returnvalue]
      sm := station.sm ++
        [setSM data.lastType data.lastTypeaddr data.lastBit value returnCode]
      data := { data with lastType := -1 } }
  else station

/-- 0x61: power on/off, service mode changes. -/
def stateChange (station : Station) (code : Byte) : Station :=
  let data := station.data
  let now := station.gl.clock
  if code = 0x00 then
    if data.emergencyOn = 0 ∧ station.power.state ≠ 0 then
      { station with
        power := setPower now 0 "Emergency Stop"
        data := { data with emergencyOn := 1 } }
    else station
  else if code = 0x01 then
    if data.emergencyOn = 1 ∨ station.power.state = 0 then
      { station with
        power := setPower now 1 "No Emergency Stop"
        data := { data with emergencyOn := 0 } }
    else if data.pgmMode = 1 then
      { station with
        endwaits := station.endwaits ++ [-1]
        power := setPower now 1 "Service mode end"
        data := { data with pgmMode := 0 } }
    else station
  else if code = 0x02 then
    if data.pgmMode = 0 then
      { station with
        power := setPower now (-1) "Service mode start"
        data := { data with pgmMode := 1 } }
    else station
  else if code = 0x13 then endProgramming station (-1) data.lastValue (-1)
  else station

/-- 0x62 and 0x63: the version of the central unit, with the restriction of the addresses. -/
def centralVersion (interface : Interface) (station : Station) (buffer : Nat → Byte) : Station :=
  let data := { station.data with
    versionZentrale := version (buffer 2)
    codeInterface := if buffer 0 = 0x63 then (buffer 3).toNat else -1 }
  if interface = .serial ∧ data.versionZentrale < 0x0300 then
    { station with data := { data with
        numberGl := min data.numberGl 99
        numberGa := min data.numberGa 256 } }
  else { station with data := data }

/-- The first chain: reply, version, state and central unit. -/
def unitAnswer (interface : Interface) (station : Station) (buffer : Nat → Byte) : Station :=
  if buffer 0 = 0x01 then station
  else if buffer 0 = 0x02 then
    { station with data := { station.data with
        versionInterface := version (buffer 1)
        codeInterface := (buffer 2).toNat } }
  else if buffer 0 = 0x61 then stateChange station (buffer 1)
  else if buffer 0 = 0x62 ∨ buffer 0 = 0x63 then
    if buffer 1 = 0x21 then centralVersion interface station buffer else station
  else station

/-- The local record behind 0x83 and 0xa3; functions F5 to F12 are in the fifth byte. -/
def informationRecord (gltmp : GlState) (buffer : Nat → Byte) : GlState :=
  { readInformation gltmp (buffer 0 = 0xa3) (buffer 1) (buffer 2) (buffer 3) with
    funcs := lowFunctions (buffer 3) (buffer 2 &&& 0x20 ≠ 0) ||| widen (buffer 4) <<< 5 }

/-- With the right checksum this is the record of the report. -/
theorem informationRecord_eq {gltmp : GlState} {buffer : Nat → Byte}
    (right : buffer 4 = checksum (buffer 0 = 0xa3) (buffer 1) (buffer 2) (buffer 3)) :
    informationRecord gltmp buffer =
      readInformation gltmp (buffer 0 = 0xa3) (buffer 1) (buffer 2) (buffer 3) := by
  rw [informationRecord, right, readInformation, lowFunctions]
  simp only [decide_eq_true_eq]

/-- The local record behind 0xe4; other numbers of speed steps leave the speed alone. -/
def normalRecord (gltmp : GlState) (lastValue : Int) (buffer : Nat → Byte) : GlState :=
  let record := readNormal gltmp (BitVec.ofInt 32 lastValue) (buffer 1) (buffer 2) (buffer 3)
    (buffer 4)
  let steps := buffer 1 &&& 7
  if steps = 0 ∨ steps = 4 ∨ steps = 1 ∨ steps = 2 then record
  else { record with speed := gltmp.speed }

/-- The second chain: programming and locomotives. -/
def glAnswer (station : Station) (gltmp glakt : GlState) (buffer : Nat → Byte) : Station :=
  let data := station.data
  if buffer 0 = 0x63 ∧ buffer 1 &&& 0xf0 = 0x10 then
    endProgramming station (buffer 3).toNat (buffer 3).toNat 0
  else if buffer 0 = 0x83 ∨ buffer 0 = 0xa3 then
    let addr : Int := (buffer 1).toNat
    { station with
      data := if buffer 0 = 0xa3 then addExternEngine data addr else removeExternEngine data addr
      gl := store station.gl addr (informationRecord gltmp buffer) glakt }
  else if buffer 0 = 0xe3 then
    if buffer 1 &&& 0x30 = 0x30 then
      { station with data := { data with
          getAddr := 256 * ((buffer 2).toNat : Int) + (buffer 3).toNat } }
    else if buffer 1 = 0x40 then
      let addr : Nat := (buffer 3).toNat + 256 * (buffer 2).toNat
      { station with data := addExternEngine data addr }
    else if buffer 1 = 0x52 then
      { station with
        gl := readFunctionStatus station.gl data.getAddr gltmp (buffer 2) (buffer 3) }
    else station
  else if buffer 0 = 0xe4 then
    let record := normalRecord gltmp data.lastValue buffer
    { station with
      data :=
        if buffer 1 &&& 0x08 = 0 then removeExternEngine data data.lastValue else data
      gl := store station.gl record.id record glakt }
  else station

/-- A position that is one of the two. -/
def setPosition (ga : GaBus) (now : Nat) (id : Int) (position : Byte) : GaBus :=
  if position = 1 then setGA ga now id 0 1
  else if position = 2 then setGA ga now id 1 1
  else ga

/-- Two accessories, or half of a feedback module. -/
def pairAnswer (station : Station) (address state : Byte) : Option Station :=
  let now := station.gl.clock
  let upper := state.getLsbD 4
  if state &&& 0x60 = 0x40 then
    (run fbStep station.fb
      (setFBmodul ⟨false, true, true⟩ now (2 * (address.toNat : Int) + if upper then 2 else 1)
        ((state &&& 0x0f).setWidth 32))).map fun fb => { station with fb := fb }
  else if state &&& 0x60 = 0x60 then some station
  else
    -- align address (0..2047) to SRCP address (1..2048)
    let id : Int := 4 * (address.toNat : Int) + 1 + if upper then 2 else 0
    let ga := setPosition station.ga now id (state &&& 0x03)
    some { station with ga := setPosition ga now (id + 1) (state >>> 2 &&& 0x03) }

/-- The first bytes of the pairs of a message. -/
def pairs (buffer : Nat → Byte) : List Nat :=
  List.range' 1 (lengthNibble buffer / 2) 2

/-- The third chain: accessories and feedback. -/
def accessoryAnswer (station : Station) (buffer : Nat → Byte) : Option Station :=
  if buffer 0 &&& 0xf0 = 0x40 then
    (pairs buffer).foldlM (fun station i => pairAnswer station (buffer i) (buffer (i + 1))) station
  else some station

/-- All handlers, one behind the other; `none` when a feedback queue stays full. -/
def handle (interface : Interface) (station : Station) (gltmp glakt : GlState)
    (buffer : Nat → Byte) : Option Station :=
  accessoryAnswer (glAnswer (unitAnswer interface station buffer) gltmp glakt buffer) buffer

/-- One turn of the loop of `readAnswer_LI100`, with the status behind it. -/
def turn (interface : Interface) (reads : Reads) (reader : Reader) (station : Station)
    (gltmp glakt : GlState) : Option (Int × Reader × Station) :=
  let message := readMessage interface reads reader
  (handle interface station gltmp glakt message.2.buffer).map fun station =>
    (message.1, message.2, station)

/-! ## What has to hold -/

/-- Nothing changed that clients can ask for. -/
structure Unchanged (station next : Station) : Prop where
  gl : next.gl = station.gl
  ga : next.ga = station.ga
  fb : next.fb = station.fb
  sm : next.sm = station.sm
  power : next.power = station.power
  versionInterface : next.data.versionInterface = station.data.versionInterface
  codeInterface : next.data.codeInterface = station.data.codeInterface
  versionZentrale : next.data.versionZentrale = station.data.versionZentrale
  getAddr : next.data.getAddr = station.data.getAddr
  externEngine : next.data.externEngine = station.data.externEngine
  externEngineCtr : next.data.externEngineCtr = station.data.externEngineCtr
  endwaits : next.endwaits = station.endwaits

/-- Whatever the state, the message that is read changes nothing if its checksum is wrong. -/
def IgnoresWrong (interface : Interface) (reads : Reads) (reader : Reader) : Prop :=
  cXor (readMessage interface reads reader).2.buffer ≠ 0 →
    ∀ station gltmp glakt, ∃ status read next,
      turn interface reads reader station gltmp glakt = some (status, read, next) ∧
        Unchanged station next

/-- No position and no feedback. -/
def InertPair (state : Byte) : Prop :=
  state &&& 0x60 = 0x60 ∨
    state &&& 0x60 ≠ 0x40 ∧ (state &&& 0x03 ≠ 1 ∧ state &&& 0x03 ≠ 2) ∧
      (state >>> 2 &&& 0x03 ≠ 1 ∧ state >>> 2 &&& 0x03 ≠ 2)

/-- A message that the handlers only log, or do not know. -/
structure Inert (buffer : Nat → Byte) : Prop where
  version : buffer 0 ≠ 0x02
  state : buffer 0 = 0x61 →
    buffer 1 ≠ 0x00 ∧ buffer 1 ≠ 0x01 ∧ buffer 1 ≠ 0x02 ∧ buffer 1 ≠ 0x13
  central : buffer 0 = 0x62 ∨ buffer 0 = 0x63 → buffer 1 ≠ 0x21
  programming : buffer 0 = 0x63 → buffer 1 &&& 0xf0 ≠ 0x10
  information : buffer 0 ≠ 0x83 ∧ buffer 0 ≠ 0xa3
  status : buffer 0 = 0xe3 →
    buffer 1 &&& 0x30 ≠ 0x30 ∧ buffer 1 ≠ 0x40 ∧ buffer 1 ≠ 0x52
  normal : buffer 0 ≠ 0xe4
  accessories : buffer 0 &&& 0xf0 = 0x40 → ∀ i ∈ pairs buffer, InertPair (buffer (i + 1))

/-! ## Messages that are not carried out -/

variable {interface : Interface} {buffer : Nat → Byte} {station next : Station}
  {gltmp glakt : GlState}

theorem noProgramming_of_ne (other : buffer 0 ≠ 0x63) :
    ¬ (buffer 0 = 0x63 ∧ buffer 1 &&& 0xf0 = 0x10) :=
  fun programming => other programming.1

theorem noInformation_of_ne (other : buffer 0 ≠ 0x83 ∧ buffer 0 ≠ 0xa3) :
    ¬ (buffer 0 = 0x83 ∨ buffer 0 = 0xa3) :=
  fun information => information.elim other.1 other.2

theorem stateChange_of_inert {code : Byte}
    (inert : code ≠ 0x00 ∧ code ≠ 0x01 ∧ code ≠ 0x02 ∧ code ≠ 0x13) :
    stateChange station code = station := by
  rw [stateChange, if_neg inert.1, if_neg inert.2.1, if_neg inert.2.2.1, if_neg inert.2.2.2]

theorem unitAnswer_of_inert (inert : Inert buffer) :
    unitAnswer interface station buffer = station := by
  rw [unitAnswer, if_neg inert.version]
  split
  · rfl
  · split
    · next first => exact stateChange_of_inert (inert.state first)
    · split
      · next first => rw [if_neg (inert.central first)]
      · rfl

theorem glAnswer_of_inert (inert : Inert buffer) :
    glAnswer station gltmp glakt buffer = station := by
  have noProgramming : ¬ (buffer 0 = 0x63 ∧ buffer 1 &&& 0xf0 = 0x10) :=
    fun programming => inert.programming programming.1 programming.2
  rw [glAnswer, if_neg noProgramming, if_neg (noInformation_of_ne inert.information),
    if_neg inert.normal]
  split
  · next first =>
      obtain ⟨noSearch, noOperated, noFunctions⟩ := inert.status first
      rw [if_neg noSearch, if_neg noOperated, if_neg noFunctions]
  · rfl

theorem pairAnswer_of_inert {state : Byte} (inert : InertPair state) (address : Byte) :
    pairAnswer station address state = some station := by
  have position (ga : GaBus) (now : Nat) (id : Int) {position : Byte}
      (none : position ≠ 1 ∧ position ≠ 2) : setPosition ga now id position = ga := by
    rw [setPosition, if_neg none.1, if_neg none.2]
  rw [pairAnswer]
  dsimp only
  rcases inert with illegal | ⟨noFeedback, first, second⟩
  · have noFeedback : state &&& 0x60 ≠ 0x40 := by
      rw [illegal]
      decide
    rw [if_neg noFeedback, if_pos illegal]
  · rw [if_neg noFeedback, position _ _ _ first, position _ _ _ second]
    exact ite_self _

theorem accessoryAnswer_of_inert (inert : Inert buffer) :
    accessoryAnswer station buffer = some station := by
  rw [accessoryAnswer]
  split
  · next first =>
      have accessories := inert.accessories first
      generalize pairs buffer = indices at accessories
      induction indices with
      | nil => rfl
      | cons i indices ih =>
          rw [List.foldlM_cons, pairAnswer_of_inert (accessories i List.mem_cons_self)]
          exact ih fun k mem => accessories k (List.mem_cons_of_mem i mem)
  · rfl

theorem handle_of_inert (inert : Inert buffer) :
    handle interface station gltmp glakt buffer = some station := by
  rw [handle, unitAnswer_of_inert inert, glAnswer_of_inert inert, accessoryAnswer_of_inert inert]

/-! ## Messages that are carried out

For each kind there is a server on which it changes something. -/

/-- The central unit has not told its version yet; an answer of programming is waited for. -/
def startData : Li100Data where
  numberGa := 1024
  numberGl := 9999
  lastBit := 0
  lastType := 0
  lastTypeaddr := 1
  lastValue := 1
  getAddr := 1
  emergencyOn := 0
  versionInterface := -1
  codeInterface := -1
  versionZentrale := -1
  pgmMode := 0
  externEngine := fun _ => -1
  externEngineCtr := 0

/-- All locomotives are initialised, stopped in emergency and have the functions. -/
def startGl (funcs : BitVec 32) : Gl where
  configured := true
  numberOfGl := 9999
  glstate := fun _ => { GlState.zero with state := 1, direction := 2, funcs := funcs }
  clock := 1

/-- All accessories are initialised. -/
def startGa : GaBus where
  numberOfGa := 1024
  gastate := fun _ => { GaDevice.zero with protocol := 'N', state := 1 }

/-- All contacts have the value. -/
def startFb (value : Int) : Fb where
  numberOfFb := 2048
  fbstate := fun _ => ⟨0, value, 0⟩
  minTime := 0
  resetQueue := []

/-- A station before its first report. -/
def startStation : Station where
  data := startData
  gl := startGl 0
  ga := startGa
  fb := startFb 0
  power := setPower 0 1 ""
  sm := []
  endwaits := []

theorem version_nonneg (byte : Byte) : 0 ≤ version byte :=
  Int.natCast_nonneg _

/-- The message changes nothing, whatever the server. -/
def ChangesNothing (interface : Interface) (buffer : Nat → Byte) : Prop :=
  ∀ station gltmp glakt, ∃ next,
    handle interface station gltmp glakt buffer = some next ∧ Unchanged station next

theorem ChangesNothing.unchanged (nothing : ChangesNothing interface buffer)
    (noAccessory : buffer 0 &&& 0xf0 ≠ 0x40) (station : Station) (gltmp glakt : GlState) :
    Unchanged station
      (glAnswer (unitAnswer interface station buffer) gltmp glakt buffer) := by
  obtain ⟨next, handled, unchanged⟩ := nothing station gltmp glakt
  rw [handle, accessoryAnswer, if_neg noAccessory] at handled
  cases handled
  exact unchanged

theorem centralVersion_versionZentrale :
    (centralVersion interface station buffer).data.versionZentrale = version (buffer 2) := by
  rw [centralVersion]
  dsimp only
  split <;> rfl

/-- A locomotive that differs is stored. -/
theorem store_tv {gl : Gl} {addr : Int} (initialised : gl.isInitialized addr = true)
    (differs : (gl.glstate addr).direction ≠ gltmp.direction) :
    ((store gl addr gltmp glakt).glstate addr).tv = gl.clock := by
  rw [store, cacheGetGL_of_isInitialized initialised]
  dsimp only [Option.getD_some]
  rw [if_pos (.inr (.inl differs)), cacheSetGL_of_isInitialized initialised]

theorem readFunctionStatus_tv {gl : Gl} {addr : Int} {functions13 functions21 : Byte}
    (initialised : gl.isInitialized addr = true)
    (differs : (gl.glstate addr).funcs ≠
      ((gl.glstate addr).funcs &&& ~~~ (0x1fffe000 : BitVec 32)) |||
        (widen functions21 <<< 8 ||| widen functions13) <<< 13) :
    ((readFunctionStatus gl addr gltmp functions13 functions21).glstate addr).tv = gl.clock := by
  rw [readFunctionStatus, cacheGetGL_of_isInitialized initialised]
  dsimp only [Option.getD_some]
  rw [if_pos differs, cacheSetGL_of_isInitialized initialised]

theorem normalRecord_direction (lastValue : Int) :
    (normalRecord gltmp lastValue buffer).direction ≠ 2 := by
  have direction : (normalRecord gltmp lastValue buffer).direction =
      if buffer 2 &&& 0x80 ≠ 0 then 1 else 0 := by
    rw [normalRecord]
    split <;> rfl
  rw [direction]
  split <;> decide

theorem normalRecord_id (lastValue : Int) :
    (normalRecord gltmp lastValue buffer).id =
      (BitVec.ofInt 32 lastValue &&& 0x3fff).toNat := by
  rw [normalRecord]
  split <;> rfl

/-- Functions that differ from those of a status report in F13. -/
theorem functions_differ (fncblock : BitVec 32) :
    fncblock ^^^ 0x2000 ≠
      ((fncblock ^^^ 0x2000) &&& ~~~ (0x1fffe000 : BitVec 32)) ||| fncblock := by
  intro same
  have bit := congrArg (BitVec.getLsbD · 13) same
  simp only [BitVec.getLsbD_xor, BitVec.getLsbD_or, BitVec.getLsbD_and] at bit
  revert bit
  cases fncblock.getLsbD 13 <;> decide

theorem unitAnswer_of_ne
    (other : buffer 0 ≠ 0x02 ∧ buffer 0 ≠ 0x61 ∧ buffer 0 ≠ 0x62 ∧ buffer 0 ≠ 0x63) :
    unitAnswer interface station buffer = station := by
  have noCentral : ¬ (buffer 0 = 0x62 ∨ buffer 0 = 0x63) :=
    fun central => central.elim other.2.2.1 other.2.2.2
  rw [unitAnswer, if_neg other.1, if_neg other.2.1, if_neg noCentral]
  exact ite_self _

section Kinds

variable (nothing : ChangesNothing interface buffer)

include nothing

theorem not_version : buffer 0 ≠ 0x02 := by
  intro first
  have same := (nothing.unchanged (by rw [first]; decide) startStation .zero .zero).versionInterface
  simp [unitAnswer, glAnswer, first] at same
  have least := version_nonneg (buffer 1)
  rw [same] at least
  exact absurd least (by decide)

theorem not_state (first : buffer 0 = 0x61) :
    buffer 1 ≠ 0x00 ∧ buffer 1 ≠ 0x01 ∧ buffer 1 ≠ 0x02 ∧ buffer 1 ≠ 0x13 := by
  have unchanged := nothing.unchanged (by rw [first]; decide)
  refine ⟨fun code => ?_, fun code => ?_, fun code => ?_, fun code => ?_⟩
  · have same := congrArg Power.state (unchanged startStation .zero .zero).power
    simp [unitAnswer, glAnswer, first, stateChange, code, startStation, startData, setPower] at same
  · have same := congrArg Power.state
      (unchanged { startStation with power := setPower 0 0 "" } .zero .zero).power
    simp [unitAnswer, glAnswer, first, stateChange, code, startStation, startData, setPower] at same
  · have same := congrArg Power.state (unchanged startStation .zero .zero).power
    simp [unitAnswer, glAnswer, first, stateChange, code, startStation, startData, setPower] at same
  · have same := (unchanged startStation .zero .zero).endwaits
    simp [unitAnswer, glAnswer, first, stateChange, code, startStation, startData,
      endProgramming] at same

theorem not_central (first : buffer 0 = 0x62 ∨ buffer 0 = 0x63) : buffer 1 ≠ 0x21 := by
  intro second
  have noAccessory : buffer 0 &&& 0xf0 ≠ 0x40 := by
    rcases first with first | first <;> rw [first] <;> decide
  have same := (nothing.unchanged noAccessory startStation .zero .zero).versionZentrale
  have left : glAnswer (unitAnswer interface startStation buffer) .zero .zero buffer =
      centralVersion interface startStation buffer := by
    rcases first with first | first <;> simp [unitAnswer, glAnswer, first, second]
  rw [left, centralVersion_versionZentrale] at same
  have least := version_nonneg (buffer 2)
  rw [same] at least
  exact absurd least (by decide)

theorem not_programming (first : buffer 0 = 0x63) : buffer 1 &&& 0xf0 ≠ 0x10 := by
  intro second
  have noVersion : buffer 1 ≠ 0x21 := by
    intro version
    rw [version] at second
    exact absurd second (by decide)
  have unit : unitAnswer interface startStation buffer = startStation := by
    rw [unitAnswer, first, if_neg (by decide), if_neg (by decide), if_neg (by decide),
      if_pos (by decide), if_neg noVersion]
  have same := (nothing.unchanged (by rw [first]; decide) startStation .zero .zero).endwaits
  rw [unit, glAnswer, if_pos ⟨first, second⟩] at same
  simp [endProgramming, startStation, startData] at same

theorem not_information : buffer 0 ≠ 0x83 ∧ buffer 0 ≠ 0xa3 := by
  have noUnit (station : Station) (first : buffer 0 = 0x83 ∨ buffer 0 = 0xa3) :
      unitAnswer interface station buffer = station := by
    apply unitAnswer_of_ne
    rcases first with first | first <;> rw [first] <;> decide
  constructor
  · intro first
    -- The table has the engine that is removed.
    have same := (nothing.unchanged (by rw [first]; decide)
      { startStation with data := { startData with
          externEngine := fun _ => (buffer 1).toNat } } .zero .zero).externEngineCtr
    have range : List.range 100 = 0 :: List.range' 1 99 := by decide
    rw [noUnit _ (.inl first)] at same
    simp [glAnswer, first, removeExternEngine, findEngine, range] at same
  · intro first
    have unchanged := nothing.unchanged (by rw [first]; decide) startStation .zero .zero
    have same := unchanged.externEngineCtr
    rw [noUnit _ (.inr first)] at same
    simp [glAnswer, first, addExternEngine, startStation, startData] at same

theorem not_status (first : buffer 0 = 0xe3) :
    buffer 1 &&& 0x30 ≠ 0x30 ∧ buffer 1 ≠ 0x40 ∧ buffer 1 ≠ 0x52 := by
  have unchanged (station : Station) :
      Unchanged station (glAnswer station .zero .zero buffer) := by
    have unchanged := nothing.unchanged (by rw [first]; decide) station .zero .zero
    rwa [unitAnswer_of_ne (by rw [first]; decide)] at unchanged
  have noProgramming := @noProgramming_of_ne buffer (by rw [first]; decide)
  have noInformation := @noInformation_of_ne buffer (by rw [first]; decide)
  refine ⟨fun second => ?_, fun second => ?_, fun second => ?_⟩
  · have same := (unchanged { startStation with data := { startData with getAddr := -1 } }).getAddr
    rw [glAnswer, if_neg noProgramming, if_neg noInformation, if_pos first, if_pos second] at same
    dsimp only at same
    omega
  · have same := (unchanged startStation).externEngineCtr
    have noSearch : ¬ buffer 1 &&& 0x30 = 0x30 := by
      rw [second]
      decide
    rw [glAnswer, if_neg noProgramming, if_neg noInformation, if_pos first, if_neg noSearch,
      if_pos second] at same
    simp [addExternEngine, startStation, startData] at same
  · have differs := functions_differ ((widen (buffer 3) <<< 8 ||| widen (buffer 2)) <<< 13)
    generalize funcs : ((widen (buffer 3) <<< 8 ||| widen (buffer 2)) <<< 13) ^^^ 0x2000 = old
      at differs
    have same := (unchanged { startStation with gl := startGl old }).gl
    have noSearch : ¬ buffer 1 &&& 0x30 = 0x30 := by
      rw [second]
      decide
    have noOperated : buffer 1 ≠ 0x40 := by
      rw [second]
      decide
    rw [glAnswer, if_neg noProgramming, if_neg noInformation, if_pos first, if_neg noSearch,
      if_neg noOperated, if_pos second] at same
    change readFunctionStatus (startGl old) 1 .zero (buffer 2) (buffer 3) = startGl old at same
    have tv := @readFunctionStatus_tv .zero (startGl old) 1 _ _ rfl differs
    rw [same] at tv
    exact absurd (show (0 : Nat) = 1 from tv) (by decide)

theorem not_normal : buffer 0 ≠ 0xe4 := by
  intro first
  have same := (nothing.unchanged (by rw [first]; decide) startStation .zero .zero).gl
  have noProgramming := @noProgramming_of_ne buffer (by rw [first]; decide)
  have noInformation := @noInformation_of_ne buffer (by rw [first]; decide)
  have noStatus : buffer 0 ≠ 0xe3 := by
    rw [first]
    decide
  rw [unitAnswer_of_ne (by rw [first]; decide), glAnswer, if_neg noProgramming,
    if_neg noInformation, if_neg noStatus, if_pos first] at same
  have tv := @store_tv (normalRecord .zero 1 buffer) .zero (startGl 0) 1 rfl
    (normalRecord_direction 1).symm
  have stored : store (startGl 0) 1 (normalRecord .zero 1 buffer) .zero = startGl 0 := by
    have addr : (normalRecord .zero 1 buffer).id = 1 := normalRecord_id 1
    change store (startGl 0) (normalRecord .zero 1 buffer).id (normalRecord .zero 1 buffer) .zero =
      startGl 0 at same
    rwa [addr] at same
  rw [stored] at tv
  exact absurd tv (by decide)

end Kinds

/-! ### Accessories and feedback -/

/-- Some accessory has the time. -/
def GaTouched (now : Nat) (ga : GaBus) : Prop :=
  ∃ addr port, (ga.gastate addr).tv port = now

/-- Some contact has the time. -/
def FbTouched (now : Int) (fb : Fb) : Prop :=
  ∃ contact, (fb.fbstate contact).timestamp = now

/-- An accessory or a contact has the time of this report. -/
def Touched (now : Nat) (station : Station) : Prop :=
  GaTouched now station.ga ∨ FbTouched now station.fb

theorem setGA_touches {ga : GaBus} {addr : Int} (now : Nat)
    (inTable : 0 < addr ∧ addr ≤ ga.numberOfGa ∧ (ga.gastate addr).isInitialized = true)
    (port action : Int) : GaTouched now (setGA ga now addr port action) := by
  refine ⟨addr, port, ?_⟩
  rw [setGA]
  dsimp only
  rw [if_pos inTable]
  simp only [Function.update_self]

theorem setGA_touched {ga : GaBus} {now : Nat} (touched : GaTouched now ga)
    (addr port action : Int) : GaTouched now (setGA ga now addr port action) := by
  obtain ⟨other, k, time⟩ := touched
  by_cases inTable : 0 < addr ∧ addr ≤ ga.numberOfGa ∧ (ga.gastate addr).isInitialized = true
  · by_cases same : other = addr
    · exact setGA_touches now inTable port action
    · refine ⟨other, k, ?_⟩
      rw [setGA]
      dsimp only
      rw [if_pos inTable]
      dsimp only
      rw [Function.update_of_ne same, time]
  · rw [setGA]
    dsimp only
    rw [if_neg inTable]
    exact ⟨other, k, time⟩

theorem setPosition_touched {ga : GaBus} {now : Nat} (touched : GaTouched now ga) (id : Int)
    (position : Byte) : GaTouched now (setPosition ga now id position) := by
  rw [setPosition]
  split
  · exact setGA_touched touched _ _ _
  · split
    · exact setGA_touched touched _ _ _
    · exact touched

theorem setPosition_touches {ga : GaBus} {id : Int} {position : Byte} (now : Nat)
    (inTable : 0 < id ∧ id ≤ ga.numberOfGa ∧ (ga.gastate id).isInitialized = true)
    (one : position = 1 ∨ position = 2) : GaTouched now (setPosition ga now id position) := by
  rw [setPosition]
  split
  · exact setGA_touches now inTable _ _
  · next other =>
      rw [if_pos (one.resolve_left other)]
      exact setGA_touches now inTable _ _

theorem updateFB_touched {fb next : Fb} {now port value : Int} (touched : FbTouched now fb)
    (taken : fbStep fb (.updateFB now port value) = some next) : FbTouched now next := by
  have setState (state : FbState) (time : state.timestamp = now ∨
      state.timestamp = (fb.fbstate (portT port)).timestamp) :
      FbTouched now (fb.setState (portT port) state) := by
    obtain ⟨contact, found⟩ := touched
    by_cases same : contact = portT port
    · refine ⟨contact, ?_⟩
      rw [same, Fb.setState]
      simp only [Function.update_self]
      rcases time with time | time
      · exact time
      · rw [time, ← same, found]
    · refine ⟨contact, ?_⟩
      rw [Fb.setState_fbstate_of_ne fb same, found]
  obtain ⟨⟨code, result⟩, returned, rfl⟩ := Option.map_eq_some_iff.mp taken
  rcases updateFB_cases returned with ⟨-, rfl⟩ | ⟨-, ⟨-, rfl⟩ | ⟨-, -, -, rfl⟩ |
    ⟨-, -, -, -, rfl⟩ | ⟨-, -, -, rfl⟩ | ⟨-, -, -, rfl⟩⟩
  · exact touched
  · exact touched
  · exact setState _ (.inl rfl)
  · exact setState _ (.inr rfl)
  · exact setState _ (.inr rfl)
  · exact setState _ (.inl rfl)

theorem run_touched {now : Int} {actions : List FbAction}
    (reports : ∀ action ∈ actions, ∃ port value, action = .updateFB now port value) {fb next : Fb}
    (touched : FbTouched now fb) (taken : run fbStep fb actions = some next) :
    FbTouched now next := by
  induction actions generalizing fb with
  | nil =>
      cases taken
      exact touched
  | cons action actions ih =>
      obtain ⟨middle, first, rest⟩ := run_cons_eq_some_iff.mp taken
      obtain ⟨port, value, rfl⟩ := reports action List.mem_cons_self
      exact ih (fun other mem => reports other (List.mem_cons_of_mem _ mem))
        (updateFB_touched touched first) rest

theorem setFBmodul_reports {flags : ModulFlags} {now modul : Int} {values : BitVec 32} :
    ∀ action ∈ setFBmodul flags now modul values,
      ∃ port value, action = .updateFB now port value := by
  intro action mem
  obtain ⟨i, -, rfl⟩ := List.mem_map.mp mem
  exact ⟨_, _, rfl⟩

theorem pairAnswer_touched {address state : Byte}
    (touched : Touched station.gl.clock station)
    (taken : pairAnswer station address state = some next) : Touched station.gl.clock next := by
  rw [pairAnswer] at taken
  dsimp only at taken
  split at taken
  · obtain ⟨fb, stored, rfl⟩ := Option.map_eq_some_iff.mp taken
    exact touched.imp id fun contact => run_touched setFBmodul_reports contact stored
  · split at taken
    · cases taken
      exact touched
    · cases taken
      exact touched.imp (fun ga => setPosition_touched (setPosition_touched ga _ _) _ _) id

theorem pairAnswer_clock {address state : Byte}
    (taken : pairAnswer station address state = some next) :
    next.gl = station.gl := by
  rw [pairAnswer] at taken
  dsimp only at taken
  split at taken
  · obtain ⟨fb, stored, rfl⟩ := Option.map_eq_some_iff.mp taken
    rfl
  · split at taken <;> cases taken <;> rfl

theorem pairs_touched {buffer : Nat → Byte} {indices : List Nat} {now : Nat}
    (clock : station.gl.clock = now) (touched : Touched now station)
    (taken : indices.foldlM
      (fun station i => pairAnswer station (buffer i) (buffer (i + 1))) station = some next) :
    Touched now next := by
  induction indices generalizing station with
  | nil =>
      cases taken
      exact touched
  | cons i indices ih =>
      rw [List.foldlM_cons] at taken
      obtain ⟨middle, first, rest⟩ := Option.bind_eq_some_iff.mp taken
      rw [← clock] at touched
      refine ih ?_ ?_ rest
      · rw [pairAnswer_clock first, clock]
      · rw [← clock]
        exact pairAnswer_touched touched first

/-- The station for a pair: no accessory and no contact has the time, and no contact is as
the pair says. -/
def pairStation (state : Byte) : Station :=
  { startStation with fb := startFb (if state.getLsbD 0 then 0 else 1) }

/-- A contact that is not as reported has the time behind the report. -/
theorem updateFB_touches {value old port : Int} {fb : Fb} (inRange : 1 ≤ port ∧ port ≤ 2048)
    (differs : old ≠ value)
    (taken : fbStep (startFb old) (.updateFB 1 port value) = some fb) : FbTouched 1 fb := by
  have stamped (state : FbState) (time : state.timestamp = 1) :
      FbTouched 1 ((startFb old).setState (portT port) state) := by
    refine ⟨portT port, ?_⟩
    rw [Fb.setState]
    simp only [Function.update_self, time]
  obtain ⟨⟨code, result⟩, returned, rfl⟩ := Option.map_eq_some_iff.mp taken
  rcases updateFB_cases returned with ⟨outside, -⟩ | ⟨-, ⟨same, -⟩ | ⟨-, -, -, rfl⟩ |
    ⟨-, -, delayed, -⟩ | ⟨-, -, pending, -⟩ | ⟨-, -, -, rfl⟩⟩
  · change port > 2048 ∨ port < 1 at outside
    omega
  · exact absurd same differs
  · exact stamped _ rfl
  · exact absurd rfl delayed
  · exact absurd (show (0 : Int) < 0 from pending) (by decide)
  · exact stamped _ rfl

theorem setFBmodul_touches {old modul : Int} {values : BitVec 32} {fb : Fb}
    (inRange : 1 ≤ modul ∧ modul ≤ 512)
    (differs : old ≠ if values.getLsbD 0 then 1 else 0)
    (taken : run fbStep (startFb old) (setFBmodul ⟨false, true, true⟩ 1 modul values) = some fb) :
    FbTouched 1 fb := by
  have reports := @setFBmodul_reports ⟨false, true, true⟩ 1 modul values
  have first : ∃ rest, setFBmodul ⟨false, true, true⟩ 1 modul values =
      .updateFB 1 ((modul - 1) * (4 : Nat) + 1 + (0 : Nat)) (if values.getLsbD 0 then 1 else 0) ::
        rest := ⟨_, rfl⟩
  obtain ⟨rest, first⟩ := first
  rw [first] at taken reports
  obtain ⟨middle, updated, later⟩ := run_cons_eq_some_iff.mp taken
  have port : 1 ≤ (modul - 1) * (4 : Nat) + 1 + (0 : Nat) ∧
      (modul - 1) * (4 : Nat) + 1 + (0 : Nat) ≤ 2048 := by omega
  exact run_touched (fun action mem => reports action (List.mem_cons_of_mem _ mem))
    (updateFB_touches port differs updated) later

theorem startGa_inTable {id : Int} (inRange : 1 ≤ id ∧ id ≤ 1024) :
    0 < id ∧ id ≤ startGa.numberOfGa ∧ (startGa.gastate id).isInitialized = true :=
  ⟨by omega, inRange.2, show ('N' != nul) = true by decide⟩

theorem pairAnswer_touches {address state : Byte} (acts : ¬ InertPair state)
    (taken : pairAnswer (pairStation state) address state = some next) :
    Touched 1 next := by
  have bounded := address.isLt
  rw [InertPair, not_or] at acts
  obtain ⟨legal, acts⟩ := acts
  rw [pairAnswer] at taken
  dsimp only at taken
  by_cases feedback : state &&& 0x60 = 0x40
  · rw [if_pos feedback] at taken
    obtain ⟨fb, stored, rfl⟩ := Option.map_eq_some_iff.mp taken
    refine .inr (setFBmodul_touches ?_ ?_ stored)
    · split <;> omega
    · have bit : ((state &&& 0x0f).setWidth 32).getLsbD 0 = state.getLsbD 0 := by
        simp
      rw [bit]
      cases state.getLsbD 0 <;> decide
  · rw [if_neg feedback, if_neg legal] at taken
    cases taken
    refine .inl ?_
    have id : 1 ≤ 4 * (address.toNat : Int) + 1 + (if state.getLsbD 4 then 2 else 0) ∧
        4 * (address.toNat : Int) + 1 + (if state.getLsbD 4 then 2 else 0) + 1 ≤ 1024 := by
      split <;> omega
    by_cases first : state &&& 0x03 = 1 ∨ state &&& 0x03 = 2
    · exact setPosition_touched
        (setPosition_touches _ (startGa_inTable ⟨id.1, by omega⟩) first) _ _
    · have second : state >>> 2 &&& 0x03 = 1 ∨ state >>> 2 &&& 0x03 = 2 := by
        rw [not_or] at first
        by_contra neither
        rw [not_or] at neither
        exact acts ⟨feedback, first, neither⟩
      have left : setPosition startGa 1
          (4 * (address.toNat : Int) + 1 + if state.getLsbD 4 then 2 else 0)
          (state &&& 0x03) = startGa := by
        rw [not_or] at first
        rw [setPosition, if_neg first.1, if_neg first.2]
      change GaTouched 1 (setPosition (setPosition startGa 1 _ _) 1 _ _)
      rw [left]
      exact setPosition_touches _ (startGa_inTable ⟨by omega, id.2⟩) second

/-- The first pair that is carried out changes a station, whatever the others do. -/
theorem pairs_touches {buffer : Nat → Byte} {indices : List Nat}
    (acts : ¬ ∀ i ∈ indices, InertPair (buffer (i + 1))) :
    ∃ state, ∀ next, indices.foldlM
      (fun station i => pairAnswer station (buffer i) (buffer (i + 1))) (pairStation state) =
        some next → Touched 1 next := by
  induction indices with
  | nil => exact absurd (fun i mem => nomatch mem) acts
  | cons i indices ih =>
      by_cases inert : InertPair (buffer (i + 1))
      · have later : ¬ ∀ i ∈ indices, InertPair (buffer (i + 1)) := fun all =>
          acts (List.forall_mem_cons.mpr ⟨inert, all⟩)
        obtain ⟨state, touches⟩ := ih later
        refine ⟨state, fun next taken => ?_⟩
        rw [List.foldlM_cons, pairAnswer_of_inert inert] at taken
        exact touches next taken
      · refine ⟨buffer (i + 1), fun next taken => ?_⟩
        rw [List.foldlM_cons] at taken
        obtain ⟨middle, first, rest⟩ := Option.bind_eq_some_iff.mp taken
        refine pairs_touched ?_ (pairAnswer_touches inert first) rest
        rw [pairAnswer_clock first]
        rfl

theorem not_touched_pairStation (state : Byte) : ¬ Touched 1 (pairStation state) := by
  rintro (⟨addr, port, time⟩ | ⟨contact, time⟩)
  · exact absurd (show (0 : Nat) = 1 from time) (by decide)
  · exact absurd (show (0 : Int) = 1 from time) (by decide)

theorem inert_accessories (nothing : ChangesNothing interface buffer)
    (first : buffer 0 &&& 0xf0 = 0x40) : ∀ i ∈ pairs buffer, InertPair (buffer (i + 1)) := by
  by_contra acts
  obtain ⟨state, touches⟩ := pairs_touches acts
  obtain ⟨next, handled, unchanged⟩ := nothing (pairStation state) .zero .zero
  have unit : glAnswer (unitAnswer interface (pairStation state) buffer) .zero .zero buffer =
      pairStation state := by
    have other (byte : Byte) (group : byte &&& 0xf0 ≠ 0x40) : buffer 0 ≠ byte := by
      intro same
      rw [← same] at group
      exact group first
    have noProgramming := noProgramming_of_ne (other 0x63 (by decide))
    have noInformation := noInformation_of_ne ⟨other 0x83 (by decide), other 0xa3 (by decide)⟩
    rw [unitAnswer_of_ne ⟨other 0x02 (by decide), other 0x61 (by decide), other 0x62 (by decide),
      other 0x63 (by decide)⟩]
    rw [glAnswer, if_neg noProgramming, if_neg noInformation, if_neg (other 0xe3 (by decide)),
      if_neg (other 0xe4 (by decide))]
  rw [handle, unit, accessoryAnswer, if_pos first] at handled
  have touched := touches next handled
  rw [Touched, unchanged.ga, unchanged.fb] at touched
  exact not_touched_pairStation state touched

/-- Exactly the messages that are only logged change nothing on any server. -/
theorem changesNothing_iff_inert : ChangesNothing interface buffer ↔ Inert buffer := by
  constructor
  · intro nothing
    exact
      { version := not_version nothing
        state := not_state nothing
        central := not_central nothing
        programming := not_programming nothing
        information := not_information nothing
        status := not_status nothing
        normal := not_normal nothing
        accessories := inert_accessories nothing }
  · intro inert station gltmp glakt
    refine ⟨station, handle_of_inert inert, ?_⟩
    constructor <;> rfl

/-- For all that is received: a message with a wrong checksum changes nothing exactly when it
is one that the handlers only log. -/
theorem ignoresWrong_iff (interface : Interface) (reads : Reads) (reader : Reader) :
    IgnoresWrong interface reads reader ↔
      (cXor (readMessage interface reads reader).2.buffer ≠ 0 →
        Inert (readMessage interface reads reader).2.buffer) := by
  refine forall_congr' fun wrong => ?_
  rw [← @changesNothing_iff_inert interface]
  refine forall_congr' fun station => forall_congr' fun gltmp => forall_congr' fun glakt => ?_
  constructor
  · rintro ⟨status, read, next, taken, unchanged⟩
    obtain ⟨handled, found, same⟩ := Option.map_eq_some_iff.mp taken
    cases same
    exact ⟨_, found, unchanged⟩
  · rintro ⟨next, handled, unchanged⟩
    let message := readMessage interface reads reader
    have taken : turn interface reads reader station gltmp glakt =
        some (message.1, message.2, next) := by
      rw [turn, handled]
      rfl
    exact ⟨_, _, next, taken, unchanged⟩

/-- Power off, with a wrong checksum. -/
def noisyPowerOff : Reads :=
  fun i => ([0x61, 0x00, 0x00] : List Byte)[i]?

theorem not_ignoresWrong : ¬ IgnoresWrong .serial noisyPowerOff (startReader fun _ => 0) := by
  intro ignores
  obtain ⟨status, read, next, taken, unchanged⟩ :=
    ignores (by decide) startStation .zero .zero
  have power := congrArg Power.state unchanged.power
  cases taken
  exact absurd power (by decide)

end Srcpd.Driver.Li100.Answer
