import Srcpd.Bits.Merge
import Srcpd.Driver.GlCommand

/-!
# Locomotive reports of the LI100

What `readAnswer_LI100` makes of the reports on a locomotive: it fills a local
record, of which some fields have no value yet, and hands it to `cacheSetGL`.
`Report.encodes` is what a report has for a locomotive; `meetsAlong_recorded_iff`
says for which reports this is what the cache has afterwards.
-/

namespace Srcpd.Driver.Li100

open Srcpd.Bits Srcpd.Command Srcpd.Transition

/-- The bytes behind the first ones of a message; its checksum is right. -/
inductive Report
  /-- 0x83, or 0xa3 when another device operates the locomotive. -/
  | information (operated : Bool) (addr speed functions : BitVec 8)
  /-- 0xe4, for the locomotive that was asked for. -/
  | normal (lastValue : BitVec 32) (identification speed functions functions5 : BitVec 8)
  /-- 0xe3 with 0x52, for the locomotive that was asked for. -/
  | functionStatus (getAddr : Int) (functions13 functions21 : BitVec 8)

/-- A report, with the values of the two local records before they are set. -/
structure Event where
  report : Report
  gltmp : GlState
  glakt : GlState

/-- A byte in the type of the function bits. -/
def widen (value : BitVec 8) : BitVec 32 :=
  value.setWidth 32

/-! ## The driver -/

/-- The byte behind the data of the message. -/
def checksum (operated : Bool) (addr speed functions : BitVec 8) : BitVec 8 :=
  (if operated then 0xa3 else 0x83) ^^^ addr ^^^ speed ^^^ functions

/-- Send only if something changed; the number of functions is that of the old data. -/
def store (gl : Gl) (addr : Int) (gltmp glakt : GlState) : Gl :=
  let glakt := (cacheGetGL gl addr).2.getD glakt
  let gltmp := { gltmp with nFunc := glakt.nFunc }
  if glakt.speed ≠ gltmp.speed ∨ glakt.direction ≠ gltmp.direction ∨ glakt.funcs ≠ gltmp.funcs then
    (cacheSetGL gl addr gltmp).2
  else gl

/-- Functions F5 to F12 are taken from the fifth byte of the buffer. -/
def readInformation (gltmp : GlState) (operated : Bool) (addr speed functions : BitVec 8) :
    GlState :=
  let code := speed &&& 0x0f
  let low := (widen functions &&& 0x0f) <<< 1
  let funcs := if speed &&& 0x20 ≠ 0 then low ||| 1 else low
  { gltmp with
    id := addr.toNat
    speed := if code = 1 then 0 else if 0 < code then (code.toNat : Int) - 1 else code.toNat
    direction := if code = 1 then 2 else if speed &&& 0x40 ≠ 0 then 1 else 0
    funcs := funcs ||| widen (checksum operated addr speed functions) <<< 5 }

/-- The speed for 14 and 128 steps. -/
def speedOf14 (speed : BitVec 8) : Int :=
  let code : Int := (speed &&& 0x7f).toNat
  if code = 1 then 0 else if 0 < code then code - 1 else code

/-- The speed for 27 and 28 steps. -/
def speedOf28 (speed : BitVec 8) : Int :=
  let code := widen (speed &&& 0x7f) <<< 1
  let code := if code &&& 0x20 ≠ 0 then code ||| 1 else code
  let code := code &&& 0xdf
  if code = 2 then 0 else if 0 < code then (code.toNat : Int) - 3 else code.toNat

/-- The speed is 0 before it is set. -/
def readNormal (gltmp : GlState) (lastValue : BitVec 32)
    (identification speed functions functions5 : BitVec 8) : GlState :=
  let low := (widen functions &&& 0x0f) <<< 1
  let tmpfuncs := if functions &&& 0x10 ≠ 0 then low ||| 1 else low
  { gltmp with
    id := (lastValue &&& 0x3fff).toNat
    direction := if speed &&& 0x80 ≠ 0 then 1 else 0
    speed :=
      if identification &&& 7 = 0 ∨ identification &&& 7 = 4 then speedOf14 speed
      else if identification &&& 7 = 1 ∨ identification &&& 7 = 2 then speedOf28 speed
      else 0
    funcs := widen functions5 <<< 5 ||| tmpfuncs }

/-- The bits are put together and compared; what is set is the old record. -/
def readFunctionStatus (gl : Gl) (getAddr : Int) (gltmp : GlState)
    (functions13 functions21 : BitVec 8) : Gl :=
  let gltmp := (cacheGetGL gl getAddr).2.getD gltmp
  let fncblock := (widen functions21 <<< 8 ||| widen functions13) <<< 13
  let tmpfuncs := (gltmp.funcs &&& ~~~ 0x1fffe000) ||| fncblock
  if gltmp.funcs ≠ tmpfuncs then (cacheSetGL gl getAddr gltmp).2 else gl

/-- A report about a locomotive goes to the cache. -/
def readAnswer (gl : Gl) (event : Event) : Gl :=
  match event.report with
  | .information operated addr speed functions =>
      store gl addr.toNat (readInformation event.gltmp operated addr speed functions) event.glakt
  | .normal lastValue identification speed functions functions5 =>
      store gl (lastValue &&& 0x3fff).toNat
        (readNormal event.gltmp lastValue identification speed functions functions5) event.glakt
  | .functionStatus getAddr functions13 functions21 =>
      readFunctionStatus gl getAddr event.gltmp functions13 functions21

/-- One report after the other. -/
def step : Step Gl Event := fun gl event =>
  some (readAnswer gl event)

/-! ## What a report encodes -/

/-- What a report says about a locomotive. -/
structure Encoded where
  /-- `none` when there is no such number of speed steps. -/
  speed : Option Int
  direction : Int
  /-- The function bits that the report has, and their values. -/
  mask : BitVec 32
  functions : BitVec 32

/-- The inverse of a speed that is sent with 1 added; 1 is an emergency stop. -/
def stepOf14 (code : BitVec 8) : Int :=
  if code ≤ 1 then 0 else code.toNat - 1

/-- The inverse of a speed that is sent with 3 added and its lowest bit as bit 4; there are
two codes each for a stop and an emergency stop. -/
def stepOf28 (code : BitVec 8) : Int :=
  let value := 2 * (code &&& 0x0f).toNat + if code &&& 0x10 ≠ 0 then 1 else 0
  if value ≤ 3 then 0 else value - 3

/-- F0 to F4, with F0 in bit `light`. -/
def lowFunctions (functions : BitVec 8) (light : Bool) : BitVec 32 :=
  let low := (widen functions &&& 0x0f) <<< 1
  if light then low ||| 1 else low

/-- What a report says by the protocol of the station. -/
def Report.encodes (old : GlState) : Report → Encoded
  | .information _ _ speed functions =>
      { speed := some (stepOf14 (speed &&& 0x0f))
        direction := if speed &&& 0x0f = 1 then 2 else if speed &&& 0x40 ≠ 0 then 1 else 0
        mask := 0x1f
        functions := lowFunctions functions (speed &&& 0x20 ≠ 0) }
  | .normal _ identification speed functions functions5 =>
      { speed :=
          if identification &&& 7 = 0 ∨ identification &&& 7 = 4 then
            some (stepOf14 (speed &&& 0x7f))
          else if identification &&& 7 = 1 ∨ identification &&& 7 = 2 then some (stepOf28 speed)
          else none
        direction := if speed &&& 0x80 ≠ 0 then 1 else 0
        mask := 0x1fff
        functions := lowFunctions functions (functions &&& 0x10 ≠ 0) ||| widen functions5 <<< 5 }
  | .functionStatus _ functions13 functions21 =>
      { speed := some old.speed
        direction := old.direction
        mask := 0x1fffe000
        functions := (widen functions21 <<< 8 ||| widen functions13) <<< 13 }

/-- The locomotive that a report is about. -/
def Report.address : Report → Int
  | .information _ addr _ _ => addr.toNat
  | .normal lastValue _ _ _ _ => (lastValue &&& 0x3fff).toNat
  | .functionStatus getAddr _ _ => getAddr

/-- The functions with those of the report. -/
def Encoded.funcs (encoded : Encoded) (old : GlState) : BitVec 32 :=
  encoded.functions ||| (old.funcs &&& ~~~ encoded.mask)

/-- Speed, direction and functions are those of the report. -/
structure Encoded.Is (encoded : Encoded) (old new : GlState) : Prop where
  speed : ∀ speed ∈ encoded.speed, new.speed = speed
  direction : new.direction = encoded.direction
  funcs : new.funcs = encoded.funcs old

/-- The record has what the report says, and keeps the rest. -/
structure Recorded (encoded : Encoded) (old new : GlState) : Prop where
  is : encoded.Is old new
  nFs : new.nFs = old.nFs
  nFunc : new.nFunc = old.nFunc

/-- The cache has a locomotive that it knows as the report does. -/
def Agrees (gl : Gl) (event : Event) : Prop :=
  let addr := event.report.address
  gl.isInitialized addr = true →
    Recorded (event.report.encodes (gl.glstate addr)) (gl.glstate addr)
      ((readAnswer gl event).glstate addr)

/-- The bits that the driver reads are the report's. -/
def Report.Understood (old : GlState) : Report → Prop
  | .information operated addr speed functions =>
      widen (checksum operated addr speed functions) <<< 5 = old.funcs &&& ~~~ 0x1f
  | .normal _ identification speed _ _ =>
      (identification &&& 7 = 1 ∨ identification &&& 7 = 2 →
        speed &&& 0x60 = 0 ∧ speed &&& 0x1f ≠ 0x10) ∧ old.funcs &&& ~~~ 0x1fff = 0
  | .functionStatus _ functions13 functions21 =>
      old.funcs &&& (0x1fffe000 : BitVec 32) =
        (widen functions21 <<< 8 ||| widen functions13) <<< 13

/-- The report has nothing new; without a speed it counts as a stop. -/
def Encoded.Repeats (encoded : Encoded) (old : GlState) : Prop :=
  old.speed = encoded.speed.getD 0 ∧ old.direction = encoded.direction ∧
    old.funcs = encoded.funcs old

/-- The report is understood, and it has nothing new or the local record happens to have the
number of speed steps. -/
def Fits (gl : Gl) (event : Event) : Prop :=
  let old := gl.glstate event.report.address
  gl.isInitialized event.report.address = true →
    event.report.Understood old ∧
      ((event.report.encodes old).Repeats old ∨ event.gltmp.nFs = old.nFs)

/-! ## The record after a report -/

section Records

variable {gl : Gl} {addr : Int} {gltmp glakt : GlState}

/-- Something changed. -/
def Changed (old gltmp : GlState) : Prop :=
  old.speed ≠ gltmp.speed ∨ old.direction ≠ gltmp.direction ∨ old.funcs ≠ gltmp.funcs

theorem cacheGetGL_of_isInitialized (initialised : gl.isInitialized addr = true) :
    cacheGetGL gl addr = (.ok, some (gl.glstate addr)) :=
  if_pos initialised

/-- What is stored is what was filled in, and the number of speed steps with it. -/
theorem recorded_store_iff (initialised : gl.isInitialized addr = true) (encoded : Encoded) :
    Recorded encoded (gl.glstate addr) ((store gl addr gltmp glakt).glstate addr) ↔
      encoded.Is (gl.glstate addr) gltmp ∧
        (¬ Changed (gl.glstate addr) gltmp ∨ gltmp.nFs = (gl.glstate addr).nFs) := by
  rw [store, cacheGetGL_of_isInitialized initialised]
  dsimp only
  rw [Option.getD_some]
  by_cases changed : Changed (gl.glstate addr) gltmp
  · have branch := changed
    rw [Changed] at branch
    rw [if_pos branch, cacheSetGL_of_isInitialized initialised]
    constructor
    · rintro ⟨⟨speed, direction, funcs⟩, nFs, _⟩
      exact ⟨⟨speed, direction, funcs⟩, Or.inr nFs⟩
    · rintro ⟨⟨speed, direction, funcs⟩, unchanged | nFs⟩
      · exact absurd changed unchanged
      · exact ⟨⟨speed, direction, funcs⟩, nFs, rfl⟩
  · have branch := changed
    rw [Changed] at branch
    rw [if_neg branch]
    rcases not_or.mp changed with ⟨sameSpeed, rest⟩
    rcases not_or.mp rest with ⟨sameDirection, sameFuncs⟩
    have speedEq := not_not.mp sameSpeed
    have directionEq := not_not.mp sameDirection
    have funcsEq := not_not.mp sameFuncs
    constructor
    · rintro ⟨⟨speed, direction, funcs⟩, _, _⟩
      refine ⟨⟨?_, directionEq.symm.trans direction, funcsEq.symm.trans funcs⟩, Or.inl changed⟩
      intro value encodes
      exact speedEq.symm.trans (speed value encodes)
    · rintro ⟨⟨speed, direction, funcs⟩, _⟩
      refine ⟨⟨?_, directionEq.trans direction, funcsEq.trans funcs⟩, rfl, rfl⟩
      intro value encodes
      exact speedEq.trans (speed value encodes)

/-- When a report is filled in as encoded, nothing changed exactly when it repeats the
record. -/
theorem not_changed_iff_repeats {encoded : Encoded} {old : GlState}
    (is : encoded.Is old gltmp) (speed : gltmp.speed = encoded.speed.getD 0) :
    ¬ Changed old gltmp ↔ encoded.Repeats old := by
  rw [Changed, Encoded.Repeats, not_or, not_or, not_not, not_not, not_not, speed, is.direction,
    is.funcs]

end Records

/-! ## Filling in -/

theorem speed_of_code (code : BitVec 8) :
    (if code = 1 then (0 : Int) else if 0 < code then (code.toNat : Int) - 1 else code.toNat) =
      stepOf14 code := by
  revert code
  decide

theorem speedOf14_eq (speed : BitVec 8) : speedOf14 speed = stepOf14 (speed &&& 0x7f) := by
  revert speed
  decide

/-- Code 16 is a stop that is read as -2. -/
theorem speedOf28_eq_iff (speed : BitVec 8) :
    speedOf28 speed = stepOf28 speed ↔ speed &&& 0x60 = 0 ∧ speed &&& 0x1f ≠ 0x10 := by
  revert speed
  decide

theorem lowFunctions_within (functions : BitVec 8) (light : Bool) :
    lowFunctions functions light &&& 0x1f = lowFunctions functions light := by
  revert functions light
  decide

theorem shiftLeft_low (value : BitVec 8) : widen value <<< 5 &&& (0x1f : BitVec 32) = 0 := by
  revert value
  decide

theorem shiftLeft_within (value : BitVec 8) :
    widen value <<< 5 &&& (0x1fff : BitVec 32) = widen value <<< 5 := by
  revert value
  decide

theorem lowFunctions_within13 (functions : BitVec 8) (light : Bool) :
    lowFunctions functions light &&& 0x1fff = lowFunctions functions light := by
  revert functions light
  decide

section Reports

variable {old gltmp : GlState}

theorem information_is_iff (operated : Bool) (addr speed functions : BitVec 8) :
    ((Report.information operated addr speed functions).encodes old).Is old
        (readInformation gltmp operated addr speed functions) ↔
      (Report.information operated addr speed functions).Understood old := by
  have funcs : (readInformation gltmp operated addr speed functions).funcs =
      ((Report.information operated addr speed functions).encodes old).funcs old ↔
        (Report.information operated addr speed functions).Understood old := by
    have low : (readInformation gltmp operated addr speed functions).funcs =
        lowFunctions functions (speed &&& 0x20 ≠ 0) |||
          widen (checksum operated addr speed functions) <<< 5 := by
      rw [readInformation, lowFunctions]
      simp only [decide_eq_true_eq]
    rw [low]
    exact or_left_inj_of_disjoint
      (and_eq_zero_of_and_eq_zero (lowFunctions_within _ _) (shiftLeft_low _))
      (and_eq_zero_of_and_eq_zero (lowFunctions_within _ _) and_not_and_self)
  constructor
  · rintro ⟨_, _, same⟩
    exact funcs.mp same
  · intro understood
    refine ⟨?_, rfl, funcs.mpr understood⟩
    rintro _ ⟨⟩
    exact speed_of_code _

theorem information_speed (operated : Bool) (addr speed functions : BitVec 8) :
    (readInformation gltmp operated addr speed functions).speed =
      ((Report.information operated addr speed functions).encodes old).speed.getD 0 :=
  speed_of_code _

theorem normal_is_iff (lastValue : BitVec 32)
    (identification speed functions functions5 : BitVec 8) :
    ((Report.normal lastValue identification speed functions functions5).encodes old).Is old
        (readNormal gltmp lastValue identification speed functions functions5) ↔
      (Report.normal lastValue identification speed functions functions5).Understood old := by
  have funcs : (readNormal gltmp lastValue identification speed functions functions5).funcs =
      ((Report.normal lastValue identification speed functions functions5).encodes old).funcs
        old ↔ old.funcs &&& ~~~ 0x1fff = 0 := by
    have low : (readNormal gltmp lastValue identification speed functions functions5).funcs =
        lowFunctions functions (functions &&& 0x10 ≠ 0) ||| widen functions5 <<< 5 := by
      rw [readNormal, lowFunctions, BitVec.or_comm]
      simp only [decide_eq_true_eq]
    rw [low]
    apply eq_or_self_iff
    refine and_eq_zero_of_and_eq_zero ?_ and_not_and_self
    change (lowFunctions functions (functions &&& 0x10 ≠ 0) ||| widen functions5 <<< 5) &&&
      (0x1fff : BitVec 32) = _
    rw [BitVec.and_or_distrib_right, shiftLeft_within, lowFunctions_within13]
  have speedOf : (∀ value ∈
      ((Report.normal lastValue identification speed functions functions5).encodes old).speed,
      (readNormal gltmp lastValue identification speed functions functions5).speed = value) ↔
      (identification &&& 7 = 1 ∨ identification &&& 7 = 2 →
        speed &&& 0x60 = 0 ∧ speed &&& 0x1f ≠ 0x10) := by
    rw [readNormal, Report.encodes]
    dsimp only
    by_cases steps14 : identification &&& 7 = 0 ∨ identification &&& 7 = 4
    · have other : ¬ (identification &&& 7 = 1 ∨ identification &&& 7 = 2) := by
        rcases steps14 with steps | steps <;> rw [steps] <;> decide
      rw [if_pos steps14, if_pos steps14]
      refine iff_of_true ?_ fun steps28 => absurd steps28 other
      rintro _ ⟨⟩
      exact speedOf14_eq speed
    · rw [if_neg steps14, if_neg steps14]
      by_cases steps28 : identification &&& 7 = 1 ∨ identification &&& 7 = 2
      · rw [if_pos steps28, if_pos steps28, forall_prop_of_true steps28, ← speedOf28_eq_iff]
        constructor
        · intro same
          exact same _ rfl
        · rintro same _ ⟨⟩
          exact same
      · rw [if_neg steps28, if_neg steps28]
        exact iff_of_true nofun fun given => absurd given steps28
  constructor
  · rintro ⟨same, _, sameFuncs⟩
    exact ⟨speedOf.mp same, funcs.mp sameFuncs⟩
  · rintro ⟨understood, clear⟩
    exact ⟨speedOf.mpr understood, rfl, funcs.mpr clear⟩

theorem normal_speed {lastValue : BitVec 32}
    {identification speed functions functions5 : BitVec 8}
    (is : ((Report.normal lastValue identification speed functions functions5).encodes old).Is old
      (readNormal gltmp lastValue identification speed functions functions5)) :
    (readNormal gltmp lastValue identification speed functions functions5).speed =
      ((Report.normal lastValue identification speed functions functions5).encodes
        old).speed.getD 0 := by
  cases encodes :
      ((Report.normal lastValue identification speed functions functions5).encodes old).speed with
  | some value => exact is.speed value encodes
  | none =>
      rw [Report.encodes] at encodes
      dsimp only at encodes
      split at encodes
      · contradiction
      · rename_i steps14
        split at encodes
        · contradiction
        · rename_i steps28
          rw [readNormal]
          dsimp only
          rw [if_neg steps14, if_neg steps28]
          rfl

theorem block_within (functions13 functions21 : BitVec 8) :
    ((widen functions21 <<< 8 ||| widen functions13) <<< 13) &&& (0x1fffe000 : BitVec 32) =
      (widen functions21 <<< 8 ||| widen functions13) <<< 13 := by
  have mask : (0x1fffe000 : BitVec 32) = (0xffff : BitVec 32) <<< 13 := by decide
  have within : ∀ value : BitVec 8, widen value &&& 0xffff = widen value ∧
      widen value <<< 8 &&& (0xffff : BitVec 32) = widen value <<< 8 := by decide
  rw [mask, ← BitVec.shiftLeft_and_distrib, BitVec.and_or_distrib_right, (within functions21).2,
    (within functions13).1]

end Reports

/-- Whether the bits differ or not, the record stays as it was. -/
theorem readFunctionStatus_glstate {gl : Gl} {addr : Int}
    (initialised : gl.isInitialized addr = true) (gltmp : GlState)
    (functions13 functions21 : BitVec 8) :
    let new := (readFunctionStatus gl addr gltmp functions13 functions21).glstate addr
    let old := gl.glstate addr
    new.speed = old.speed ∧ new.direction = old.direction ∧ new.funcs = old.funcs ∧
      new.nFs = old.nFs ∧ new.nFunc = old.nFunc := by
  rw [readFunctionStatus, cacheGetGL_of_isInitialized initialised]
  dsimp only
  rw [Option.getD_some]
  split
  · rw [cacheSetGL_of_isInitialized initialised]
    exact ⟨rfl, rfl, rfl, rfl, rfl⟩
  · exact ⟨rfl, rfl, rfl, rfl, rfl⟩

theorem functionStatus_recorded_iff {gl : Gl} {addr : Int}
    (initialised : gl.isInitialized addr = true) (gltmp : GlState)
    (functions13 functions21 : BitVec 8) :
    let report := Report.functionStatus addr functions13 functions21
    let old := gl.glstate addr
    Recorded (report.encodes old) old
        ((readFunctionStatus gl addr gltmp functions13 functions21).glstate addr) ↔
      report.Understood old ∧ ((report.encodes old).Repeats old ∨ gltmp.nFs = old.nFs) := by
  intro report old
  have understood : report.Understood old ↔ old.funcs = (report.encodes old).funcs old :=
    (eq_or_and_not_iff (block_within functions13 functions21)).symm
  rcases readFunctionStatus_glstate initialised gltmp functions13 functions21 with
    ⟨speed, direction, funcs, nFs, nFunc⟩
  rw [understood]
  constructor
  · rintro ⟨⟨_, _, sameFuncs⟩, _, _⟩
    have same := funcs.symm.trans sameFuncs
    exact ⟨same, Or.inl ⟨rfl, rfl, same⟩⟩
  · rintro ⟨same, _⟩
    refine ⟨⟨?_, direction, funcs.trans same⟩, nFs, nFunc⟩
    rintro _ ⟨⟩
    exact speed

/-- The cache has what a report encodes exactly when the report fits. -/
theorem agrees_iff_fits (gl : Gl) (event : Event) : Agrees gl event ↔ Fits gl event := by
  apply forall_congr'
  intro initialised
  rcases event with ⟨report, gltmp, glakt⟩
  cases report with
  | information operated addr speed functions =>
      refine (recorded_store_iff initialised _).trans ?_
      rw [information_is_iff]
      refine and_congr_right fun understood => ?_
      rw [not_changed_iff_repeats ((information_is_iff operated addr speed functions).mpr
        understood) (information_speed operated addr speed functions)]
      rfl
  | normal lastValue identification speed functions functions5 =>
      refine (recorded_store_iff initialised _).trans ?_
      rw [normal_is_iff]
      refine and_congr_right fun understood => ?_
      have is := (@normal_is_iff _ gltmp lastValue identification speed functions
        functions5).mpr understood
      rw [not_changed_iff_repeats is (normal_speed is)]
      rfl
  | functionStatus getAddr functions13 functions21 =>
      exact functionStatus_recorded_iff initialised gltmp functions13 functions21

/-- In every run each report is what the cache has afterwards exactly when each one fits. -/
theorem meetsAlong_recorded_iff (gl : Gl) (events : List Event) :
    MeetsAlong step Agrees gl events ↔ MeetsAlong step Fits gl events :=
  @meetsAlong_iff_of_invariant _ _ step Agrees Fits (fun _ => True)
    (fun gl event _ _ _ => agrees_iff_fits gl event) (fun _ _ _ _ _ _ => trivial) _ _ trivial

/-- Locomotive 3 with 28 speed steps. -/
def known3 : Gl where
  configured := true
  numberOfGl := 99
  glstate := fun addr =>
    if addr = 3 then { GlState.zero with state := 1, id := 3, nFs := 28, nFunc := 5 } else .zero
  clock := 0

/-- A report of speed 1 forward leaves another number of speed steps behind. -/
theorem not_agrees_uninitialised :
    ¬ ∀ (gl : Gl) (events : List Event), MeetsAlong step Agrees gl events := by
  intro always
  have agrees := (always known3 [⟨.normal 3 2 0x82 0 0, .zero, .zero⟩] _ rfl).1
  exact absurd (agrees (by decide)).nFs (by decide)

end Srcpd.Driver.Li100
