import Srcpd.Driver.IbReport
import Srcpd.Feedback.Levels
import Srcpd.Line.Read
import Srcpd.Types

/-!
# The events of an Intellibox

`check_status_IB` asks for events and reads the reports that the first bytes announce, each
kind with a frame of its own.  `checkStatus_polls` says that the thread stays in step with an
interface that answers in full, over any number of polls, and `polls_contacts` what the contacts
are then.  `checkStatusFb_returns_iff` and `checkStatusGl_returns_iff` say when the thread comes
out of a list that breaks off.
-/

namespace Srcpd.Driver.IbEvents

open Srcpd.Driver.Ib Srcpd.Feedback Srcpd.Line Srcpd.Transition

/-! ## The driver -/

/-- `XStatus`. -/
def xStatus : Byte := 0xa2

/-- `XEvent`. -/
def xEvent : Byte := 0xc8

/-- `XEvtLok`. -/
def xEvtLok : Byte := 0xc9

/-- `XEvtTrn`. -/
def xEvtTrn : Byte := 0xca

/-- `XEvtSen`. -/
def xEvtSen : Byte := 0xcb

/-- `XEvtPT`. -/
def xEvtPT : Byte := 0xce

/-- `XEvtBiDi`. -/
def xEvtBiDi : Byte := 0xd2

/-- The array of `check_status_bidi_IB`. -/
structure Bidi where
  rr0 : Byte
  rr1 : Byte
  rr2 : Byte
  rr3 : Byte
  rr4 : Byte

/-- The contact that a record of a detector is about. -/
def Bidi.fbNumber (rr : Bidi) : Nat :=
  rr.rr1.toNat + (rr.rr0 &&& 0x0f).toNat * 256 + 1

/-- The address of the locomotive that the detector has read. -/
def Bidi.id (rr : Bidi) : Nat :=
  rr.rr2.toNat + (rr.rr3 &&& 0x3f).toNat * 256

/-- Without one of these values the speed is the cached one. -/
def Bidi.speed (rr : Bidi) : Option Nat :=
  if rr.rr3 &&& 0x40 = 0 then none
  else if rr.rr4.toNat ≤ 63 then some (rr.rr4.toNat / 2)
  else if rr.rr4.toNat ≤ 127 then some (rr.rr4.toNat - 32)
  else if rr.rr4.toNat ≤ 254 then some (rr.rr4.toNat * 4)
  else none

/-- What is written to the interface, and what is done with a report. -/
inductive Action
  | writeByte (command : Byte)
  | setGL (event : StatusEvent)
  | setFBmodul (modul : Byte) (values : BitVec 32)
  | setGA (id : Nat) (port action : Bool)
  | overload (xevnt2 : Byte)
  | powerStatus (rr : Byte)
  /-- Without a value it is the last one that was written. -/
  | programmed (value : Option Byte) (result : Byte)
  | occupied (fbNumber id : Nat) (direction : Bool) (speed : Option Nat)

/-- A turnout event, with the number, the port and the action in two bytes. -/
def turnout (low high : Byte) : Action :=
  .setGA (low.toNat + (high &&& 0x07).toNat * 256) (high.getLsbD 7) (high.getLsbD 6)

/-- The sixteen contacts of a module in one word. -/
def modulValues (high low : Byte) : BitVec 32 :=
  high.setWidth 32 <<< 8 ||| low.setWidth 32

/-- A record of a detector sets its contact. -/
def Bidi.occupied (rr : Bidi) : Action :=
  .occupied rr.fbNumber rr.id (rr.rr3.getLsbD 7) rr.speed

/-- The condition of the loop in `check_status_gl_IB`. -/
def moreLocos (rr : Byte) : Bool :=
  rr.toNat < 0x80

/-- The number 0 ends the list of modules. -/
def moreModuls (rr : Byte) : Bool :=
  rr ≠ 0

section Reads

variable (reads : Reads Byte)

/-- The body of the loop in `check_status_gl_IB`; the address is masked in the variable
itself. -/
def glBody (rr : Byte) : Program Action Byte := do
  let functions ← readValue reads rr
  let addrLow ← readValue reads functions
  let addrHigh ← readValue reads addrLow
  let realSpeed ← readValue reads (addrHigh &&& 0x3f)
  act (.setGL ⟨rr, functions, addrLow, addrHigh, realSpeed⟩)
  pure realSpeed

/-- The two bytes behind the number of a module. -/
def fbBody (aktS88 : Byte) : Program Action Byte := do
  let high ← readValue reads aktS88
  let low ← readValue reads high
  act (.setFBmodul aktS88 (modulValues high low))
  pure low

/-- The two bytes of a turnout. -/
def gaBody (rr : Byte) : Program Action Byte := do
  let low ← readValue reads rr
  let high ← readValue reads low
  act (turnout low high)
  pure high

/-- The loop of `check_status_bidi_IB`, and the read in front of it or at its end. -/
def bidiLoop : Nat → Bidi → Program Action Unit
  | 0, _ => fun _ => none
  | fuel + 1, rr => do
      let rr0 ← readValue reads rr.rr0
      if rr0 = 0 then pure ⟨⟩
      else
        let rr1 ← readValue reads rr.rr1
        let rr2 ← readValue reads rr.rr2
        let rr3 ← readValue reads rr.rr3
        let rr4 ← (if rr3 &&& 0x40 ≠ 0 then readValue reads rr.rr4 else pure 0)
        act (Bidi.occupied ⟨rr0, rr1, rr2, rr3, rr4⟩)
        if rr0 &&& 0x80 ≠ 0 then bidiLoop fuel ⟨rr0, rr1, rr2, rr3, rr4⟩ else pure ⟨⟩

/-- The command is repeated until the interface has an answer. -/
def awaitPt : Nat → Program Action Byte
  | 0 => fun _ => none
  | fuel + 1 => do
      act (.writeByte xEvtPT)
      let rr ← tryRead reads
      match rr with
      | none => awaitPt fuel
      | some rr => if rr = 0xf5 then awaitPt fuel else pure rr

variable (junk : Nat → Byte)

/-- A read into a variable that was not written to. -/
def readFresh : Program Action Byte := do
  let old ← fresh junk
  readValue reads old

/-- `check_status_IB` for the locomotives that were operated. -/
def checkStatusGl (fuel : Nat) : Program Action Unit := do
  act (.writeByte xEvtLok)
  let rr ← fresh junk
  let _ ← readRecords reads moreLocos (glBody reads) fuel rr
  pure ⟨⟩

/-- `check_status_IB` for the modules of contacts. -/
def checkStatusFb (fuel : Nat) : Program Action Unit := do
  act (.writeByte xEvtSen)
  let rr ← fresh junk
  let _ ← readRecords reads moreModuls (fbBody reads) fuel rr
  pure ⟨⟩

/-- `check_status_IB` for the turnouts, of which the first byte is the number. -/
def checkStatusGa : Program Action Unit := do
  act (.writeByte xEvtTrn)
  let rr ← readFresh reads junk
  let _ ← repeatBody (gaBody reads) rr.toNat rr
  pure ⟨⟩

/-- The elements behind the third one are read and not used; the array ends behind the
seventh. -/
def checkStatusPt (fuel : Nat) : Program Action Unit := do
  let count ← awaitPt reads fuel
  let result ← readFresh reads junk
  if result = 0 then
    if count.toNat < 2 then act (.programmed none result)
    else
      let value ← readFresh reads junk
      let _ ← repeatBody (readValue reads) (count.toNat - 2) value
      act (.programmed (some value) result)
  else pure ⟨⟩

/-- The answer to `XStatus`, of which a second byte is not used. -/
def checkStatusPower : Program Action Unit := do
  act (.writeByte xStatus)
  let rr ← readFresh reads junk
  act (.powerStatus rr)
  onlyIf (rr &&& 0x80 ≠ 0) do
    let _ ← readValue reads rr
    pure ⟨⟩

/-- `check_status_IB` for the detectors. -/
def checkStatusBidi (rr : Bidi) (fuel : Nat) : Program Action Unit := do
  act (.writeByte xEvtBiDi)
  bidiLoop reads fuel rr

/-- `check_status_IB`, with what the array of `check_status_bidi_IB` contains. -/
def checkStatus (rr : Bidi) (emergencyOnIb fuel : Nat) : Program Action Unit := do
  act (.writeByte xEvent)
  let xevnt1 ← readFresh reads junk
  let xevnt2 ← (if xevnt1 &&& 0x80 ≠ 0 then readValue reads 0 else pure 0)
  let xevnt3 ← (if xevnt2 &&& 0x80 ≠ 0 then readValue reads 0 else pure 0)
  onlyIf (xevnt1 &&& 0x01 ≠ 0) (checkStatusGl reads junk fuel)
  onlyIf (xevnt1 &&& 0x04 ≠ 0) (checkStatusFb reads junk fuel)
  onlyIf (xevnt1 &&& 0x20 ≠ 0) (checkStatusGa reads junk)
  onlyIf (xevnt2 &&& 0x3f ≠ 0) (act (.overload xevnt2))
  onlyIf (xevnt1 &&& 0x08 ≠ 0 ∨ xevnt2 &&& 0x40 ≠ 0 ∨ emergencyOnIb = 2)
    (checkStatusPower reads junk)
  onlyIf (xevnt3 &&& 0x01 ≠ 0) (checkStatusPt reads junk fuel)
  onlyIf (xevnt3 &&& 0x20 ≠ 0) (checkStatusPt reads junk fuel)
  onlyIf (xevnt3 &&& 0x40 ≠ 0) (checkStatusBidi reads rr fuel)

end Reads

/-! ## Answers in full -/

/-- The first byte of a locomotive's report is not the end of the list. -/
structure LocoReport where
  event : StatusEvent
  low : event.speed.toNat < 0x80

/-- What the Intellibox sends about a module. -/
structure ModulReport where
  modul : Byte
  high : Byte
  low : Byte
  nonzero : modul ≠ 0

/-- The answer about the programming track, behind those that say it is not available yet;
an error comes without data. -/
structure PtReport where
  busy : Nat
  result : Byte
  data : List Byte
  few : data.length < 6
  alone : result ≠ 0 → data = []

/-- A report of a position in one of the two kinds, by whether another one follows. -/
structure BidiReport (follows : Bool) where
  record : Bidi
  nonzero : record.rr0 ≠ 0
  flag : (record.rr0 &&& 0x80 ≠ 0) ↔ follows = true
  speedless : record.rr3 &&& 0x40 = 0 → record.rr4 = 0

/-- What the interface sends for one poll. -/
structure Answer where
  xevnt1 : Byte
  xevnt2 : Byte
  xevnt3 : Byte
  locos : List LocoReport
  moduls : List ModulReport
  turnouts : List (Byte × Byte)
  fewTurnouts : turnouts.length < 256
  power : Byte
  power' : Byte
  programming : PtReport
  bidiCv : PtReport
  positions : List (BidiReport true)
  lastPosition : Option (BidiReport false)

/-- The bytes behind the speed of a locomotive. -/
def eventTail (event : StatusEvent) : List Byte :=
  [event.functions, event.addrLow, event.addrHigh, event.realSpeed]

/-- The values of a locomotive go to the cache. -/
def LocoReport.action (report : LocoReport) : Action :=
  .setGL report.event

/-- The values of a module go to its contacts. -/
def ModulReport.action (report : ModulReport) : Action :=
  .setFBmodul report.modul (modulValues report.high report.low)

/-- The list of locomotives, which ends with `0x80`. -/
def locoBytes (locos : List LocoReport) : List Byte :=
  locos.flatMap (fun loco => loco.event.speed :: eventTail loco.event) ++ [0x80]

/-- The list of modules, which ends with 0. -/
def modulBytes (moduls : List ModulReport) : List Byte :=
  moduls.flatMap (fun modul => modul.modul :: [modul.high, modul.low]) ++ [0]

/-- The list of turnouts with their number in front. -/
def turnoutBytes (turnouts : List (Byte × Byte)) : List Byte :=
  BitVec.ofNat 8 turnouts.length :: turnouts.flatMap fun pair => [pair.1, pair.2]

/-- The answer to `XStatus`, of one or two bytes. -/
def powerBytes (rr rr' : Byte) : List Byte :=
  rr :: if rr &&& 0x80 ≠ 0 then [rr'] else []

/-- The answer to `XEvtPT`, behind the answers that say busy. -/
def PtReport.bytes (report : PtReport) : List Byte :=
  List.replicate report.busy 0xf5 ++
    [BitVec.ofNat 8 (report.data.length + 1), report.result] ++ report.data

/-- The request is written once more for each busy answer. -/
def PtReport.actions (report : PtReport) : List Action :=
  List.replicate (report.busy + 1) (.writeByte xEvtPT) ++
    if report.result = 0 then [.programmed report.data.head? report.result] else []

/-- The bytes of a record; the fifth one depends on a bit of the fourth. -/
def Bidi.bytes (rr : Bidi) : List Byte :=
  [rr.rr0, rr.rr1, rr.rr2, rr.rr3] ++ if rr.rr3 &&& 0x40 ≠ 0 then [rr.rr4] else []

/-- Where the last report announces another one, 0 follows in its place. -/
def positionBytes (positions : List (BidiReport true)) (last : Option (BidiReport false)) :
    List Byte :=
  positions.flatMap (fun report => report.record.bytes) ++
    last.elim [0] fun report => report.record.bytes

/-- The contacts that the detectors report, with the record that ends the list. -/
def positionActions (positions : List (BidiReport true)) (last : Option (BidiReport false)) :
    List Action :=
  positions.map (fun report => report.record.occupied) ++
    last.elim [] fun report => [report.record.occupied]

namespace Answer

variable (answer : Answer)

/-- The second byte of the events, or 0. -/
def second : Byte :=
  if answer.xevnt1 &&& 0x80 ≠ 0 then answer.xevnt2 else 0

/-- The third byte of the events, or 0. -/
def third : Byte :=
  if answer.second &&& 0x80 ≠ 0 then answer.xevnt3 else 0

/-- The thread asks for the power. -/
abbrev AsksPower (emergencyOnIb : Nat) : Prop :=
  answer.xevnt1 &&& 0x08 ≠ 0 ∨ answer.second &&& 0x40 ≠ 0 ∨ emergencyOnIb = 2

/-- All bytes of the answer to one poll. -/
def bytes (emergencyOnIb : Nat) : List Byte :=
  [answer.xevnt1] ++ (if answer.xevnt1 &&& 0x80 ≠ 0 then [answer.xevnt2] else []) ++
    (if answer.second &&& 0x80 ≠ 0 then [answer.xevnt3] else []) ++
    (if answer.xevnt1 &&& 0x01 ≠ 0 then locoBytes answer.locos else []) ++
    (if answer.xevnt1 &&& 0x04 ≠ 0 then modulBytes answer.moduls else []) ++
    (if answer.xevnt1 &&& 0x20 ≠ 0 then turnoutBytes answer.turnouts else []) ++
    (if answer.AsksPower emergencyOnIb then powerBytes answer.power answer.power' else []) ++
    (if answer.third &&& 0x01 ≠ 0 then answer.programming.bytes else []) ++
    (if answer.third &&& 0x20 ≠ 0 then answer.bidiCv.bytes else []) ++
    (if answer.third &&& 0x40 ≠ 0 then positionBytes answer.positions answer.lastPosition else [])

/-- The commands that are written, and all reports. -/
def actions (emergencyOnIb : Nat) : List Action :=
  [.writeByte xEvent] ++
    (if answer.xevnt1 &&& 0x01 ≠ 0 then
      .writeByte xEvtLok :: answer.locos.map LocoReport.action else []) ++
    (if answer.xevnt1 &&& 0x04 ≠ 0 then
      .writeByte xEvtSen :: answer.moduls.map ModulReport.action else []) ++
    (if answer.xevnt1 &&& 0x20 ≠ 0 then
      .writeByte xEvtTrn :: answer.turnouts.map fun pair => turnout pair.1 pair.2 else []) ++
    (if answer.second &&& 0x3f ≠ 0 then [.overload answer.second] else []) ++
    (if answer.AsksPower emergencyOnIb then [.writeByte xStatus, .powerStatus answer.power]
      else []) ++
    (if answer.third &&& 0x01 ≠ 0 then answer.programming.actions else []) ++
    (if answer.third &&& 0x20 ≠ 0 then answer.bidiCv.actions else []) ++
    (if answer.third &&& 0x40 ≠ 0 then
      .writeByte xEvtBiDi :: positionActions answer.positions answer.lastPosition else [])

/-- More than the rounds of any loop. -/
def rounds : Nat :=
  answer.locos.length + answer.moduls.length + answer.programming.busy + answer.bidiCv.busy +
    answer.positions.length + 2

end Answer

/-! ## Reading an answer -/

section Delivers

variable {reads : Reads Byte} {junk : Nat → Byte} {fuel : Nat}

theorem readFresh_delivers (value : Byte) :
    Delivers reads (readFresh reads junk) [value] [] value :=
  .fresh fun old => .readValue old value

/-- A read that is made under a condition only. -/
theorem readIf_delivers {condition : Prop} [Decidable condition] (old value : Byte) :
    Delivers reads (if condition then readValue reads old else pure 0 : Program Action Byte)
      (if condition then [value] else []) [] (if condition then value else 0) := by
  by_cases holds : condition
  · simp only [if_pos holds]
    exact .readValue old value
  · simp only [if_neg holds]
    exact .pure 0

theorem LocoReport.begins (loco : LocoReport) : moreLocos loco.event.speed = true :=
  decide_eq_true loco.low

theorem ModulReport.begins (modul : ModulReport) : moreModuls modul.modul = true :=
  decide_eq_true modul.nonzero

theorem glBody_delivers (event : StatusEvent) :
    Delivers reads (glBody reads event.speed) (eventTail event) [.setGL event]
      event.realSpeed :=
  (Delivers.readValue _ _).bind ((Delivers.readValue _ _).bind ((Delivers.readValue _ _).bind
    ((Delivers.readValue _ _).bind ((Delivers.act _).bind (.pure _)))))

theorem fbBody_delivers (modul high low : Byte) :
    Delivers reads (fbBody reads modul) [high, low] [.setFBmodul modul (modulValues high low)]
      low :=
  (Delivers.readValue _ _).bind ((Delivers.readValue _ _).bind ((Delivers.act _).bind (.pure _)))

theorem gaBody_delivers (rr low high : Byte) :
    Delivers reads (gaBody reads rr) [low, high] [turnout low high] high :=
  (Delivers.readValue _ _).bind ((Delivers.readValue _ _).bind ((Delivers.act _).bind (.pure _)))

theorem checkStatusGl_delivers {locos : List LocoReport} (enough : locos.length < fuel) :
    Delivers reads (checkStatusGl reads junk fuel) (locoBytes locos)
      (.writeByte xEvtLok :: locos.map LocoReport.action) ⟨⟩ := by
  have loop (rr : Byte) : Delivers reads
      (readRecords reads moreLocos (glBody reads) fuel rr)
      (locoBytes locos) (locos.flatMap fun loco => [loco.action]) 0x80 :=
    .records (by decide : moreLocos 0x80 = false) LocoReport.begins
      (fun loco => ⟨_, glBody_delivers loco.event⟩) locos enough rr
  refine ((Delivers.act _).bind (.fresh fun rr =>
    (loop rr).bind (.pure PUnit.unit))).congr ?_ ?_
  · simp
  · simp [List.map_eq_flatMap]

theorem checkStatusFb_delivers {moduls : List ModulReport} (enough : moduls.length < fuel) :
    Delivers reads (checkStatusFb reads junk fuel) (modulBytes moduls)
      (.writeByte xEvtSen :: moduls.map ModulReport.action) ⟨⟩ := by
  have loop (rr : Byte) : Delivers reads
      (readRecords reads moreModuls (fbBody reads) fuel rr)
      (modulBytes moduls) (moduls.flatMap fun modul => [modul.action]) 0 :=
    .records (by decide : moreModuls 0 = false) ModulReport.begins
      (fun modul => ⟨_, fbBody_delivers modul.modul modul.high modul.low⟩) moduls enough rr
  refine ((Delivers.act _).bind (.fresh fun rr =>
    (loop rr).bind (.pure PUnit.unit))).congr ?_ ?_
  · simp
  · simp [List.map_eq_flatMap]

theorem checkStatusGa_delivers {turnouts : List (Byte × Byte)} (few : turnouts.length < 256) :
    Delivers reads (checkStatusGa reads junk) (turnoutBytes turnouts)
      (.writeByte xEvtTrn :: turnouts.map fun pair => turnout pair.1 pair.2) ⟨⟩ := by
  have count : (BitVec.ofNat 8 turnouts.length).toNat = turnouts.length := by
    rw [BitVec.toNat_ofNat]
    exact Nat.mod_eq_of_lt few
  have loop : ∃ last, Delivers reads
      (repeatBody (gaBody reads) (BitVec.ofNat 8 turnouts.length).toNat
        (BitVec.ofNat 8 turnouts.length))
      (turnouts.flatMap fun pair => [pair.1, pair.2])
      (turnouts.flatMap fun pair => [turnout pair.1 pair.2]) last := by
    rw [count]
    exact Delivers.repeatBody (fun pair old => ⟨_, gaBody_delivers old pair.1 pair.2⟩) turnouts _
  rcases loop with ⟨last, loop⟩
  refine ((Delivers.act _).bind ((readFresh_delivers _).bind
    (loop.bind (.pure PUnit.unit)))).congr ?_ ?_
  · simp [turnoutBytes]
  · simp [List.map_eq_flatMap]

theorem checkStatusPower_delivers (rr rr' : Byte) :
    Delivers reads (checkStatusPower reads junk) (powerBytes rr rr')
      [.writeByte xStatus, .powerStatus rr] ⟨⟩ := by
  have second : Delivers reads (onlyIf (rr &&& 0x80 ≠ 0) do
      let _ ← readValue reads rr
      pure ⟨⟩ : Program Action Unit) (if rr &&& 0x80 ≠ 0 then [rr'] else [])
      (if rr &&& 0x80 ≠ 0 then [] else []) ⟨⟩ :=
    .onlyIf fun _ => (Delivers.readValue rr rr').bind (.pure PUnit.unit)
  refine ((Delivers.act _).bind ((readFresh_delivers rr).bind
    ((Delivers.act _).bind second))).congr rfl ?_
  simp

theorem awaitPt_delivers {busy : Nat} (enough : busy < fuel) {count : Byte}
    (available : count ≠ 0xf5) :
    Delivers reads (awaitPt reads fuel) (List.replicate busy 0xf5 ++ [count])
      (List.replicate (busy + 1) (.writeByte xEvtPT)) count := by
  induction busy generalizing fuel with
  | zero =>
      obtain ⟨fuel, rfl⟩ : ∃ k, fuel = k + 1 := ⟨fuel - 1, by omega⟩
      rw [awaitPt]
      have answered : Delivers reads
          (if count = 0xf5 then awaitPt reads fuel else pure count) [] [] count := by
        rw [if_neg available]
        exact .pure count
      exact (Delivers.act _).bind ((Delivers.tryRead count).bind answered)
  | succ busy ih =>
      obtain ⟨fuel, rfl⟩ : ∃ k, fuel = k + 1 := ⟨fuel - 1, by omega⟩
      rw [awaitPt]
      exact (Delivers.act _).bind ((Delivers.tryRead 0xf5).bind (ih (by omega)))

theorem PtReport.delivers (report : PtReport) (enough : report.busy < fuel) :
    Delivers reads (checkStatusPt reads junk fuel) report.bytes report.actions ⟨⟩ := by
  have few := report.few
  have small : (BitVec.ofNat 8 (report.data.length + 1)).toNat = report.data.length + 1 := by
    rw [BitVec.toNat_ofNat]
    omega
  have available : BitVec.ofNat 8 (report.data.length + 1) ≠ 0xf5 := by
    intro same
    rw [same] at small
    change 245 = _ at small
    omega
  have await := @awaitPt_delivers reads fuel report.busy enough _ available
  have unused (value : Byte) (values : List Byte) : ∃ last, Delivers reads
      (repeatBody (readValue reads) values.length value : Program Action Byte)
      (values.flatMap fun value => [value]) (values.flatMap fun _ => []) last :=
    Delivers.repeatBody (fun value old => ⟨value, .readValue old value⟩) values value
  have behind : Delivers reads
      (if report.result = 0 then
        if (BitVec.ofNat 8 (report.data.length + 1)).toNat < 2 then
          act (.programmed none report.result)
        else do
          let value ← readFresh reads junk
          let _ ← repeatBody (readValue reads)
            ((BitVec.ofNat 8 (report.data.length + 1)).toNat - 2) value
          act (.programmed (some value) report.result)
      else pure ⟨⟩ : Program Action Unit) report.data
      (if report.result = 0 then [.programmed report.data.head? report.result] else []) ⟨⟩ := by
    by_cases ok : report.result = 0
    · simp only [if_pos ok]
      rw [small]
      cases data : report.data with
      | nil => exact .act _
      | cons value values =>
          rcases unused value values with ⟨last, unused⟩
          have more : ¬ (value :: values).length + 1 < 2 := by simp
          have left : (value :: values).length + 1 - 2 = values.length := by simp
          rw [if_neg more, left]
          refine ((readFresh_delivers value).bind (unused.bind (.act _))).congr ?_ ?_
          · simp
          · simp
    · simp only [if_neg ok]
      rw [report.alone ok]
      exact .pure PUnit.unit
  exact (await.bind ((readFresh_delivers report.result).bind behind)).congr
    (by simp [PtReport.bytes]) (by simp [PtReport.actions])

theorem Bidi.delivers {rr : Bidi} (nonzero : rr.rr0 ≠ 0)
    (speedless : rr.rr3 &&& 0x40 = 0 → rr.rr4 = 0) (old : Bidi) {values : List Byte}
    {actions : List Action}
    (rest : Delivers reads
      (if rr.rr0 &&& 0x80 ≠ 0 then bidiLoop reads fuel rr else pure ⟨⟩) values actions ⟨⟩) :
    Delivers reads (bidiLoop reads (fuel + 1) old) (rr.bytes ++ values) (rr.occupied :: actions)
      ⟨⟩ := by
  have speed : (if rr.rr3 &&& 0x40 ≠ 0 then rr.rr4 else 0) = rr.rr4 := by
    by_cases given : rr.rr3 &&& 0x40 = 0
    · rw [if_neg (not_not.mpr given), speedless given]
    · rw [if_pos given]
  have last := @readIf_delivers reads (rr.rr3 &&& 0x40 ≠ 0) _ old.rr4 rr.rr4
  rw [speed] at last
  rw [bidiLoop]
  refine ((Delivers.readValue old.rr0 rr.rr0).bind (?_ : Delivers reads _
    ([rr.rr1] ++ ([rr.rr2] ++ ([rr.rr3] ++ ((if rr.rr3 &&& 0x40 ≠ 0 then [rr.rr4] else []) ++
      ([] ++ values)))))
    ([] ++ ([] ++ ([] ++ ([] ++ ([rr.occupied] ++ actions))))) PUnit.unit)).congr ?_ ?_
  · rw [if_neg nonzero]
    exact (Delivers.readValue _ _).bind ((Delivers.readValue _ _).bind
      ((Delivers.readValue _ _).bind (last.bind ((Delivers.act _).bind rest))))
  · simp [Bidi.bytes]
  · simp

theorem positions_delivers {positions : List (BidiReport true)}
    {lastPosition : Option (BidiReport false)} (enough : positions.length + 1 < fuel)
    (old : Bidi) :
    Delivers reads (bidiLoop reads fuel old) (positionBytes positions lastPosition)
      (positionActions positions lastPosition) ⟨⟩ := by
  induction positions generalizing fuel old with
  | nil =>
      obtain ⟨fuel, rfl⟩ : ∃ k, fuel = k + 1 := ⟨fuel - 1, by omega⟩
      cases lastPosition with
      | none =>
          rw [bidiLoop]
          exact (Delivers.readValue old.rr0 0).bind (.pure PUnit.unit)
      | some report =>
          have ends : ¬ (report.record.rr0 &&& 0x80 ≠ 0) :=
            fun follows => Bool.false_ne_true (report.flag.mp follows)
          have rest : Delivers reads (if report.record.rr0 &&& 0x80 ≠ 0 then
              bidiLoop reads fuel report.record else pure PUnit.unit) [] [] PUnit.unit := by
            rw [if_neg ends]
            exact .pure PUnit.unit
          exact (Bidi.delivers report.nonzero report.speedless old rest).congr
            (by simp [positionBytes]) (by simp [positionActions])
  | cons report positions ih =>
      obtain ⟨fuel, rfl⟩ : ∃ k, fuel = k + 1 := ⟨fuel - 1, by omega⟩
      have rest : Delivers reads (if report.record.rr0 &&& 0x80 ≠ 0 then
          bidiLoop reads fuel report.record else pure PUnit.unit)
          (positionBytes positions lastPosition) (positionActions positions lastPosition)
          PUnit.unit := by
        rw [if_pos (report.flag.mpr rfl)]
        exact ih (Nat.lt_of_succ_lt_succ enough) report.record
      exact (Bidi.delivers report.nonzero report.speedless old rest).congr
        (by simp [positionBytes]) (by simp [positionActions])

theorem Answer.delivers (answer : Answer) (rr : Bidi) (emergencyOnIb : Nat)
    (enough : answer.rounds ≤ fuel) :
    Delivers reads (checkStatus reads junk rr emergencyOnIb fuel) (answer.bytes emergencyOnIb)
      (answer.actions emergencyOnIb) ⟨⟩ := by
  have few := enough
  unfold Answer.rounds at few
  have second : Delivers reads _ _ _ answer.second :=
    @readIf_delivers reads (answer.xevnt1 &&& 0x80 ≠ 0) _ 0 answer.xevnt2
  have third : Delivers reads _ _ _ answer.third :=
    @readIf_delivers reads (answer.second &&& 0x80 ≠ 0) _ 0 answer.xevnt3
  have locos : Delivers reads (checkStatusGl reads junk fuel) _ _ _ :=
    checkStatusGl_delivers (show answer.locos.length < fuel by omega)
  have moduls : Delivers reads (checkStatusFb reads junk fuel) _ _ _ :=
    checkStatusFb_delivers (show answer.moduls.length < fuel by omega)
  have turnouts : Delivers reads (checkStatusGa reads junk) _ _ _ :=
    checkStatusGa_delivers answer.fewTurnouts
  have power : Delivers reads (checkStatusPower reads junk) _ _ _ :=
    checkStatusPower_delivers answer.power answer.power'
  have programming : Delivers reads (checkStatusPt reads junk fuel) _ _ _ :=
    answer.programming.delivers (by omega)
  have bidiCv : Delivers reads (checkStatusPt reads junk fuel) _ _ _ :=
    answer.bidiCv.delivers (by omega)
  have positions : Delivers reads (checkStatusBidi reads rr fuel)
      (positionBytes answer.positions answer.lastPosition)
      (.writeByte xEvtBiDi :: positionActions answer.positions answer.lastPosition) ⟨⟩ :=
    (Delivers.act _).bind (positions_delivers (by omega) rr)
  have whole : Delivers reads (checkStatus reads junk rr emergencyOnIb fuel) _ _ _ :=
    (Delivers.act (Action.writeByte xEvent)).bind ((readFresh_delivers answer.xevnt1).bind
      (second.bind (third.bind ((Delivers.onlyIf fun _ => locos).bind
        ((Delivers.onlyIf fun _ => moduls).bind ((Delivers.onlyIf fun _ => turnouts).bind
          ((Delivers.onlyIf fun _ => Delivers.act (Action.overload answer.second)).bind
            ((Delivers.onlyIf fun _ => power).bind ((Delivers.onlyIf fun _ => programming).bind
              ((Delivers.onlyIf fun _ => bidiCv).bind
                (Delivers.onlyIf fun _ => positions)))))))))))
  refine Delivers.congr whole ?_ ?_
  · simp only [Answer.bytes, List.append_assoc, List.nil_append, ite_self]
  · simp only [Answer.actions, List.append_assoc, List.nil_append]

end Delivers

/-! ## Polls that are answered -/

/-- A poll, and what the interface sends for it. -/
structure Poll where
  rr : Bidi
  emergencyOnIb : Nat
  answer : Answer

/-- The polls of the thread, one behind the other. -/
def pollAll (reads : Reads Byte) (junk : Nat → Byte) (fuel : Nat) :
    List Poll → Program Action Unit
  | [] => pure ⟨⟩
  | poll :: polls => do
      checkStatus reads junk poll.rr poll.emergencyOnIb fuel
      pollAll reads junk fuel polls

/-- The bytes of all polls. -/
def pollBytes (polls : List Poll) : List Byte :=
  polls.flatMap fun poll => poll.answer.bytes poll.emergencyOnIb

/-- What the thread does in all polls. -/
def pollActions (polls : List Poll) : List Action :=
  polls.flatMap fun poll => poll.answer.actions poll.emergencyOnIb

/-- The fuel that all polls need. -/
def pollRounds (polls : List Poll) : Nat :=
  (polls.map fun poll => poll.answer.rounds).sum

theorem pollAll_delivers (reads : Reads Byte) (junk : Nat → Byte) {fuel : Nat}
    {polls : List Poll} (enough : pollRounds polls ≤ fuel) :
    Delivers reads (pollAll reads junk fuel polls) (pollBytes polls) (pollActions polls) ⟨⟩ := by
  induction polls with
  | nil => exact .pure PUnit.unit
  | cons poll polls ih =>
      have split : poll.answer.rounds + pollRounds polls ≤ fuel := by
        simpa [pollRounds] using enough
      have first : Delivers reads (checkStatus reads junk poll.rr poll.emergencyOnIb fuel) _ _ _ :=
        poll.answer.delivers poll.rr poll.emergencyOnIb (by omega)
      exact first.bind (ih (by omega))

/-- While the interface answers each poll in full, the thread reads the bytes of an answer
and no others, so that the next poll begins with its own answer, and does what the reports
say in their order. -/
theorem checkStatus_polls (reads : Reads Byte) (junk : Nat → Byte) (polls : List Poll)
    (more : Nat) (port : Port Action)
    (sends : Sends reads port.calls (pollBytes polls)) :
    pollAll reads junk (pollRounds polls + more) polls port =
      some ((), ⟨port.calls + (pollBytes polls).length, port.actions ++ pollActions polls⟩) :=
  pollAll_delivers reads junk (Nat.le_add_right _ _) port sends

/-- An answer of the programmer without data. -/
def noPt : PtReport :=
  ⟨0, 0, [], by decide, fun _ => rfl⟩

/-- An answer with reports about two modules. -/
def modulAnswer : Answer where
  xevnt1 := 0x04
  xevnt2 := 0
  xevnt3 := 0
  locos := []
  moduls := [⟨1, 0x80, 0x01, by decide⟩, ⟨2, 0x00, 0x02, by decide⟩]
  turnouts := []
  fewTurnouts := by decide
  power := 0
  power' := 0
  programming := noPt
  bidiCv := noPt
  positions := []
  lastPosition := none

/-- Two polls, of which the second one asks for the power too. -/
def modulPolls : List Poll :=
  [⟨⟨0, 0, 0, 0, 0⟩, 0, modulAnswer⟩, ⟨⟨0, 0, 0, 0, 0⟩, 2, modulAnswer⟩]

theorem modulPolls_sent :
    Sends (fun n => (pollBytes modulPolls)[n]?) 0 (pollBytes modulPolls) := by
  refine ⟨rfl, rfl, rfl, rfl, rfl, rfl, rfl, rfl, rfl, rfl, rfl, rfl, rfl, rfl, rfl, rfl, rfl, ?_⟩
  trivial

theorem checkStatus_polls_modulPolls :
    pollAll (fun n => (pollBytes modulPolls)[n]?) (fun _ => 0) (pollRounds modulPolls + 0)
        modulPolls ⟨0, []⟩ =
      some ((), ⟨0 + (pollBytes modulPolls).length, [] ++ pollActions modulPolls⟩) :=
  checkStatus_polls _ _ modulPolls 0 ⟨0, []⟩ modulPolls_sent

/-! ## Contacts behind the polls -/

/-- `readConfig_IB` sets `FB_16_PORTS`. -/
def ibFlags : ModulFlags :=
  ⟨true, false, false⟩

/-- The calls of `updateFB` for a report. -/
def Action.fbActions (now : Int) : Action → List FbAction
  | .setFBmodul modul values => Feedback.setFBmodul ibFlags now modul.toNat values
  | .occupied fbNumber _ _ _ => [.updateFB now fbNumber 1]
  | _ => []

/-- Bits of the two bytes, from bit 7 of the first one on. -/
def ModulReport.bit (report : ModulReport) (k : Nat) : Bool :=
  if k < 8 then report.high.getLsbD (7 - k) else report.low.getLsbD (15 - k)

/-- The contacts that a report is about, with their levels. -/
def ModulReport.levels (report : ModulReport) : List (Int × Bool) :=
  (List.range 16).map fun (k : Nat) => (((report.modul.toNat : Int) - 1) * 16 + 1 + k, report.bit k)

/-- The levels of an answer. -/
def Answer.levels (answer : Answer) : List (Int × Bool) :=
  (if answer.xevnt1 &&& 0x04 ≠ 0 then answer.moduls.flatMap ModulReport.levels else []) ++
    if answer.third &&& 0x40 ≠ 0 then
      answer.positions.map (fun report => ((report.record.fbNumber : Int), true)) ++
        answer.lastPosition.elim [] fun report => [((report.record.fbNumber : Int), true)]
    else []

/-- The contacts that an action sets, with their levels. -/
def Action.levels : Action → List (Int × Bool)
  | .setFBmodul modul values =>
      (List.range 16).map fun (k : Nat) =>
        (((modul.toNat : Int) - 1) * 16 + 1 + k, values.getLsbD (15 - k))
  | .occupied fbNumber _ _ _ => [(fbNumber, true)]
  | _ => []

theorem modulValues_bit (report : ModulReport) {k : Nat} (below : k < 16) :
    (modulValues report.high report.low).getLsbD (15 - k) = report.bit k := by
  rw [modulValues, BitVec.getLsbD_or, BitVec.getLsbD_shiftLeft, BitVec.getLsbD_setWidth,
    BitVec.getLsbD_setWidth, ModulReport.bit]
  have width : 15 - k < 32 := by omega
  by_cases first : k < 8
  · have place : 15 - k - 8 = 7 - k := by omega
    have beyond : report.low.getLsbD (15 - k) = false := BitVec.getLsbD_of_ge _ _ (by omega)
    have near : 7 - k < 32 := by omega
    have behind : ¬ 15 - k < 8 := by omega
    simp [first, place, beyond, width, near, behind]
  · have before : 15 - k < 8 := by omega
    simp [first, before, width]

theorem Action.fbActions_eq (now : Int) (action : Action) :
    action.fbActions now =
      action.levels.map fun level => .updateFB now level.1 (bitValue level.2) := by
  cases action with
  | setFBmodul modul values =>
      rw [Action.fbActions, Action.levels, Feedback.setFBmodul, List.map_map]
      rfl
  | occupied fbNumber id direction speed => rfl
  | _ => rfl

theorem levels_setFBmodul (report : ModulReport) : report.action.levels = report.levels := by
  apply List.map_congr_left
  intro k mem
  rw [modulValues_bit report (List.mem_range.mp mem)]

theorem levels_occupied (rr : Bidi) : rr.occupied.levels = [((rr.fbNumber : Int), true)] :=
  rfl

theorem PtReport.levels (report : PtReport) : report.actions.flatMap Action.levels = [] := by
  rw [PtReport.actions, List.flatMap_append, List.flatMap_replicate]
  split_ifs <;> simp [Action.levels]

theorem levels_ite (condition : Prop) [Decidable condition] (actions : List Action) :
    (if condition then actions else []).flatMap Action.levels =
      if condition then actions.flatMap Action.levels else [] := by
  split_ifs <;> rfl

/-- The levels of all actions are those of the two kinds of reports about contacts. -/
theorem Answer.actions_levels (answer : Answer) (emergencyOnIb : Nat) :
    (answer.actions emergencyOnIb).flatMap Action.levels = answer.levels := by
  have locos : (Action.writeByte xEvtLok :: answer.locos.map LocoReport.action).flatMap
      Action.levels = [] := by
    simp [Action.levels, LocoReport.action, List.flatMap_map]
  have moduls : (Action.writeByte xEvtSen :: answer.moduls.map ModulReport.action).flatMap
      Action.levels = answer.moduls.flatMap ModulReport.levels := by
    rw [List.flatMap_cons, List.flatMap_map]
    simp only [levels_setFBmodul]
    rfl
  have turnouts : (Action.writeByte xEvtTrn ::
      answer.turnouts.map fun pair => turnout pair.1 pair.2).flatMap Action.levels = [] := by
    simp [Action.levels, turnout, List.flatMap_map]
  have positions : (Action.writeByte xEvtBiDi ::
      positionActions answer.positions answer.lastPosition).flatMap Action.levels =
        answer.positions.map (fun report => ((report.record.fbNumber : Int), true)) ++
          answer.lastPosition.elim [] fun report => [((report.record.fbNumber : Int), true)] := by
    rw [List.flatMap_cons, positionActions, List.flatMap_append, List.flatMap_map]
    simp only [levels_occupied]
    rw [← List.map_eq_flatMap]
    cases answer.lastPosition <;> rfl
  have overload : [Action.overload answer.second].flatMap Action.levels = [] := rfl
  have power : [Action.writeByte xStatus, Action.powerStatus answer.power].flatMap
      Action.levels = [] := rfl
  have event : [Action.writeByte xEvent].flatMap Action.levels = [] := rfl
  rw [Answer.actions, Answer.levels]
  simp only [List.flatMap_append, levels_ite, locos, moduls, turnouts, positions, overload, power,
    event, PtReport.levels, ite_self, List.nil_append, List.append_nil]

theorem pollActions_levels (polls : List Poll) :
    (pollActions polls).flatMap Action.levels = polls.flatMap fun poll => poll.answer.levels := by
  rw [pollActions, List.flatMap_assoc]
  simp only [Answer.actions_levels]

/-- On a bus without a delay for resets, at whatever times the reports are handled: behind
polls that the interface answers in full, a contact has the last level that a report of a
module or of a position gave it, and without such a report the one it had. -/
theorem polls_contacts (reads : Reads Byte) (junk : Nat → Byte) (polls : List Poll) (more : Nat)
    (port : Port Action) (sends : Sends reads port.calls (pollBytes polls)) {fb : Fb}
    (settled : fb.Settled) (infos : List Int) :
    ∃ last, pollAll reads junk (pollRounds polls + more) polls port = some ((), last) ∧
      ∀ timed : List (Int × Action), last.actions = port.actions ++ timed.map Prod.snd →
        ∃ fb' new, run reportStep (fb, infos)
            (timed.flatMap fun call => call.2.fbActions call.1) = some (fb', infos ++ new) ∧
          ∀ contact, 1 ≤ contact → contact ≤ fb.numberOfFb →
            (fb'.fbstate (portT contact)).state =
              (lastLevel contact (polls.flatMap fun poll => poll.answer.levels)).elim
                (fb.fbstate (portT contact)).state bitValue := by
  refine ⟨_, pollAll_delivers reads junk (Nat.le_add_right _ _) port sends, ?_⟩
  intro timed same
  have done : timed.map Prod.snd = pollActions polls := (List.append_cancel_left same).symm
  have plain : ∀ call ∈ timed.flatMap fun call => call.2.fbActions call.1, call.Plain fb := by
    intro call mem
    rcases List.mem_flatMap.mp mem with ⟨action, -, one⟩
    rw [Action.fbActions_eq] at one
    rcases List.mem_map.mp one with ⟨level, -, rfl⟩
    exact ⟨level.2, rfl⟩
  have levels : (timed.flatMap fun call => call.2.fbActions call.1).flatMap FbAction.levels =
      polls.flatMap fun poll => poll.answer.levels := by
    rw [List.flatMap_assoc, ← pollActions_levels, ← done, List.flatMap_map]
    simp only [Action.fbActions_eq, List.flatMap_map, FbAction.levels_bit, Prod.mk.eta,
      List.flatMap_singleton']
  rcases run_levels settled infos _ plain with ⟨last, new, executed, sets⟩
  rw [levels] at sets
  exact ⟨last, new, executed, sets.contacts⟩

theorem polls_contacts_modulPolls :
    ∃ last, pollAll (fun n => (pollBytes modulPolls)[n]?) (fun _ => 0)
        (pollRounds modulPolls + 0) modulPolls ⟨0, []⟩ = some ((), last) ∧
      ∀ timed : List (Int × Action), last.actions = [] ++ timed.map Prod.snd →
        ∃ fb' new, run reportStep (initFB 32 0 0, [])
            (timed.flatMap fun call => call.2.fbActions call.1) = some (fb', [] ++ new) ∧
          ∀ contact, 1 ≤ contact → contact ≤ (initFB 32 0 0).numberOfFb →
            (fb'.fbstate (portT contact)).state =
              (lastLevel contact (modulPolls.flatMap fun poll => poll.answer.levels)).elim
                ((initFB 32 0 0).fbstate (portT contact)).state bitValue :=
  polls_contacts _ _ modulPolls 0 ⟨0, []⟩ modulPolls_sent (settled_initFB 32 0) []

/-! ## Answers that break off -/

/-- The line sends the bytes from read number `n` on, and then nothing for good. -/
def FallsSilent (reads : Reads Byte) (n : Nat) (bytes : List Byte) : Prop :=
  ∀ i, reads (n + i) = bytes[i]?

/-- What the variable holds behind the body of `check_status_fb_IB`. -/
def afterFb (reads : Reads Byte) (n : Nat) (rr : Byte) : Byte :=
  (reads (n + 1)).getD ((reads n).getD rr)

/-- What the variable holds before the next locomotive of the list. -/
def afterGl (reads : Reads Byte) (n : Nat) (rr : Byte) : Byte :=
  (reads (n + 3)).getD
    ((reads (n + 2)).getD ((reads (n + 1)).getD ((reads n).getD rr)) &&& 0x3f)

theorem fbBody_reads (reads : Reads Byte) : BodyReads 2 (afterFb reads) (fbBody reads) := by
  intro value port
  exact ⟨_, rfl⟩

theorem glBody_reads (reads : Reads Byte) : BodyReads 4 (afterGl reads) (glBody reads) := by
  intro value port
  exact ⟨_, rfl⟩

section Silence

variable {reads : Reads Byte} {junk : Nat → Byte} {port : Port Action} {bytes : List Byte}

theorem checkStatusFb_isSome (fuel : Nat) :
    (checkStatusFb reads junk fuel port).isSome =
      (readRecords reads moreModuls (fbBody reads) fuel (junk port.calls)
        ⟨port.calls, port.actions ++ [.writeByte xEvtSen]⟩).isSome := by
  show ((readRecords reads moreModuls (fbBody reads) fuel (junk port.calls)
    ⟨port.calls, port.actions ++ [.writeByte xEvtSen]⟩).bind _).isSome = _
  cases readRecords reads moreModuls (fbBody reads) fuel (junk port.calls)
    ⟨port.calls, port.actions ++ [.writeByte xEvtSen]⟩ <;> rfl

theorem checkStatusGl_isSome (fuel : Nat) :
    (checkStatusGl reads junk fuel port).isSome =
      (readRecords reads moreLocos (glBody reads) fuel (junk port.calls)
        ⟨port.calls, port.actions ++ [.writeByte xEvtLok]⟩).isSome := by
  show ((readRecords reads moreLocos (glBody reads) fuel (junk port.calls)
    ⟨port.calls, port.actions ++ [.writeByte xEvtLok]⟩).bind _).isSome = _
  cases readRecords reads moreLocos (glBody reads) fuel (junk port.calls)
    ⟨port.calls, port.actions ++ [.writeByte xEvtLok]⟩ <;> rfl

/-- What a variable holds behind `i` reads. -/
def heldByte (bytes : List Byte) (old : Byte) (i : Nat) : Byte :=
  (bytes.take i).getLast?.getD old

theorem heldByte_succ (bytes : List Byte) (old : Byte) (i : Nat) :
    heldByte bytes old (i + 1) = bytes[i]?.getD (heldByte bytes old i) := by
  rw [heldByte, heldByte, List.take_add_one]
  cases bytes[i]? with
  | none => rw [Option.toList_none, List.append_nil, Option.getD_none]
  | some byte => simp

theorem boundary_fb (silent : FallsSilent reads port.calls bytes) (old : Byte) (k : Nat) :
    boundary reads 2 (afterFb reads) port.calls old k = heldByte bytes old (3 * k + 1) := by
  induction k with
  | zero =>
      rw [heldByte_succ, boundary, ← Nat.add_zero port.calls, silent 0]
      rfl
  | succ k ih =>
      rw [boundary, ih, afterFb]
      have first := silent (3 * k + 1)
      have second := silent (3 * k + 2)
      have third := silent (3 * k + 3)
      rw [show port.calls + (k + 1) * (2 + 1) = port.calls + (3 * k + 3) by ring,
        show port.calls + k * (2 + 1) + 1 = port.calls + (3 * k + 1) by ring,
        show port.calls + (3 * k + 1) + 1 = port.calls + (3 * k + 2) by ring, first, second,
        third, ← heldByte_succ, ← heldByte_succ, ← heldByte_succ]
      rfl

theorem heldByte_of_lt {i : Nat} (below : i < bytes.length) (old : Byte) :
    heldByte bytes old (i + 1) = bytes[i] := by
  rw [heldByte_succ, List.getElem?_eq_getElem below]
  rfl

theorem heldByte_of_le {i : Nat} (behind : bytes.length ≤ i) (heard : bytes ≠ []) (old : Byte) :
    heldByte bytes old i = bytes.getLast heard := by
  rw [heldByte, List.take_of_length_le behind, List.getLast?_eq_getLast_of_ne_nil heard]
  rfl

/-- The interface sends some bytes for `XEvtSen` and falls silent: the thread comes out of
`check_status_fb_IB` precisely where the place of a module number has a 0 or the last byte
is 0. -/
theorem checkStatusFb_returns_iff (junk : Nat → Byte) (heard : bytes ≠ [])
    (silent : FallsSilent reads port.calls bytes) :
    (∃ fuel, (checkStatusFb reads junk fuel port).isSome) ↔
      (∃ k, bytes[3 * k]? = some 0) ∨ bytes.getLast heard = 0 := by
  simp only [checkStatusFb_isSome]
  rw [readRecords_returns_iff (fbBody_reads reads)]
  dsimp only
  simp only [boundary_fb silent, moreModuls, decide_eq_false_iff_not, not_not]
  constructor
  · rintro ⟨k, zero⟩
    by_cases below : 3 * k < bytes.length
    · rw [heldByte_of_lt below] at zero
      exact Or.inl ⟨k, by rw [List.getElem?_eq_getElem below, zero]⟩
    · rw [heldByte_of_le (by omega) heard] at zero
      exact Or.inr zero
  · rintro (⟨k, zero⟩ | zero)
    · exact ⟨k, by rw [heldByte_succ, zero]; rfl⟩
    · refine ⟨bytes.length, ?_⟩
      rw [heldByte_of_le (by omega) heard, zero]

/-- A module number and one of its two bytes. -/
theorem checkStatusFb_returns_iff_broken :
    (∃ fuel, (checkStatusFb (fun n => ([2, 0x81] : List Byte)[n]?) (fun _ => 0) fuel
        ⟨0, []⟩).isSome) ↔
      (∃ k, ([2, 0x81] : List Byte)[3 * k]? = some 0) ∨
        ([2, 0x81] : List Byte).getLast (by decide) = 0 :=
  checkStatusFb_returns_iff (fun _ => 0) (by decide) fun i => by rw [Nat.zero_add]

theorem masked_lt (rr : Byte) : (rr &&& 0x3f).toNat < 0x80 := by
  rw [BitVec.toNat_and]
  exact lt_of_le_of_lt Nat.and_le_right (by decide)

theorem boundary_gl (silent : FallsSilent reads port.calls bytes) (old : Byte) (k : Nat) :
    boundary reads 4 (afterGl reads) port.calls old (k + 1) =
      bytes[5 * (k + 1)]?.getD (bytes[5 * k + 4]?.getD
        (bytes[5 * k + 3]?.getD (bytes[5 * k + 2]?.getD (bytes[5 * k + 1]?.getD
          (boundary reads 4 (afterGl reads) port.calls old k))) &&& 0x3f)) := by
  have first := silent (5 * k + 1)
  have second := silent (5 * k + 2)
  have third := silent (5 * k + 3)
  have fourth := silent (5 * k + 4)
  have last := silent (5 * (k + 1))
  rw [boundary, afterGl, ← last, ← first, ← second, ← third, ← fourth,
    show port.calls + (k + 1) * (4 + 1) = port.calls + 5 * (k + 1) by ring,
    show port.calls + k * (4 + 1) + 1 = port.calls + (5 * k + 1) by ring,
    show port.calls + (5 * k + 1) + 1 = port.calls + (5 * k + 2) by ring,
    show port.calls + (5 * k + 1) + 2 = port.calls + (5 * k + 3) by ring,
    show port.calls + (5 * k + 1) + 3 = port.calls + (5 * k + 4) by ring]

/-- A record that breaks off leaves a value below `0x80` in the variable, as the address is
masked there, and the loop takes it for the next record; where the line is silent, only the
last byte of a full record can stop it. -/
theorem checkStatusGl_returns_iff (junk : Nat → Byte) (heard : bytes ≠ [])
    (silent : FallsSilent reads port.calls bytes) :
    (∃ fuel, (checkStatusGl reads junk fuel port).isSome) ↔
      (∃ k byte, bytes[5 * k]? = some byte ∧ 0x80 ≤ byte.toNat) ∨
        5 ∣ bytes.length ∧ 0x80 ≤ (bytes.getLast heard).toNat := by
  simp only [checkStatusGl_isSome]
  rw [readRecords_returns_iff (glBody_reads reads)]
  dsimp only
  simp only [moreLocos, decide_eq_false_iff_not, not_lt]
  have some_heard : 0 < bytes.length := List.length_pos_iff.mpr heard
  constructor
  · rintro ⟨k, high⟩
    cases k with
    | zero =>
        have first := silent 0
        rw [Nat.add_zero] at first
        rw [boundary, first, List.getElem?_eq_getElem some_heard] at high
        exact Or.inl ⟨0, _, List.getElem?_eq_getElem some_heard, high⟩
    | succ k =>
        rw [boundary_gl silent] at high
        cases next : bytes[5 * (k + 1)]? with
        | some byte =>
            rw [next] at high
            exact Or.inl ⟨k + 1, byte, next, high⟩
        | none =>
            rw [next, Option.getD_none] at high
            cases before : bytes[5 * k + 4]? with
            | none =>
                rw [before, Option.getD_none] at high
                exact absurd (masked_lt _) (not_lt.mpr high)
            | some byte =>
                rw [before, Option.getD_some] at high
                rcases List.getElem?_eq_some_iff.mp before with ⟨below, rfl⟩
                have most := List.getElem?_eq_none_iff.mp next
                have length : bytes.length = 5 * (k + 1) := by omega
                refine Or.inr ⟨⟨k + 1, length⟩, ?_⟩
                rw [List.getLast_eq_getElem]
                have place : bytes.length - 1 = 5 * k + 4 := by omega
                simpa only [place] using high
  · rintro (⟨k, byte, sent, high⟩ | ⟨⟨k, length⟩, high⟩)
    · refine ⟨k, ?_⟩
      cases k with
      | zero =>
          have first := silent 0
          rw [Nat.add_zero] at first
          rw [boundary, first, sent]
          exact high
      | succ k =>
          rw [boundary_gl silent, sent]
          exact high
    · obtain ⟨k, rfl⟩ : ∃ j, k = j + 1 := ⟨k - 1, by omega⟩
      refine ⟨k + 1, ?_⟩
      have behind : bytes[5 * (k + 1)]? = none := List.getElem?_eq_none_iff.mpr (by omega)
      have last : bytes[5 * k + 4]? = some (bytes.getLast heard) := by
        rw [List.getElem?_eq_getElem (show 5 * k + 4 < bytes.length by omega),
          List.getLast_eq_getElem]
        congr 2
        omega
      rw [boundary_gl silent, behind, last]
      exact high

theorem checkStatusGl_returns_iff_broken :
    (∃ fuel, (checkStatusGl (fun n => ([10, 0, 3] : List Byte)[n]?) (fun _ => 0) fuel
        ⟨0, []⟩).isSome) ↔
      (∃ k byte, ([10, 0, 3] : List Byte)[5 * k]? = some byte ∧ 0x80 ≤ byte.toNat) ∨
        5 ∣ ([10, 0, 3] : List Byte).length ∧
          0x80 ≤ (([10, 0, 3] : List Byte).getLast (by decide)).toNat :=
  checkStatusGl_returns_iff (fun _ => 0) (by decide) fun i => by rw [Nat.zero_add]

end Silence

end Srcpd.Driver.IbEvents
