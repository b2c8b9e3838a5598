import Srcpd.Bits.Merge
import Srcpd.Driver.Loconet

/-!
# Slots of the LocoNet

Reports on slots come from the LocoNet and change the cached locomotives, and
commands for locomotives go to it.  A report carries some of the values of a
locomotive: `Report.apply` is what it says about them, after the layout of the
messages.  `meetsAlong_agrees_iff` says for which reports and commands the driver
agrees with it.
-/

namespace Srcpd.Driver.Loconet

open Srcpd.Bits Srcpd.Command Srcpd.Queue Srcpd.Transition

/-- `OPC_SL_RD_DATA`. -/
def opcSlRdData : BitVec 8 := 0xe7

/-- The driver of a LocoNet bus. -/
def driverLoconet : GlDriver :=
  { protocols := ['L', 'P', 'M', 'N'], initGlFunc := some fun gl => (.ok, gl) }

/-! ## Reports -/

/-- A report; its bytes behind the opcode have seven bits. -/
inductive Report
  | locoSpd (slot spd : BitVec 7)
  | locoDirf (slot dirf : BitVec 7)
  | locoSnd (slot snd : BitVec 7)
  | rwSlotData (slot stat adr spd dirf trk ss2 adr2 snd id1 id2 : BitVec 7)

/-- A byte of a message, whose highest bit is 0. -/
def widen (value : BitVec 7) : BitVec 8 :=
  value.setWidth 8

/-- The layout of the messages, up to the checksum. -/
def Report.packet : Report → Packet
  | .locoSpd slot spd => [opcLocoSpd, widen slot, widen spd]
  | .locoDirf slot dirf => [opcLocoDirf, widen slot, widen dirf]
  | .locoSnd slot snd => [opcLocoSnd, widen slot, widen snd]
  | .rwSlotData slot stat adr spd dirf trk ss2 adr2 snd id1 id2 =>
      [opcSlRdData, 0x0e, widen slot, widen stat, widen adr, widen spd, widen dirf, widen trk,
        widen ss2, widen adr2, widen snd, widen id1, widen id2]

/-- Speed 1 is an emergency stop. -/
def speedStep (spd : BitVec 7) : Int :=
  if spd ≤ 1 then 0 else spd.toNat - 1

/-- The direction bit is set for backwards. -/
def directionOf (dirf : BitVec 7) : Int :=
  if dirf.getLsbD 5 then 0 else 1

/-- F0 to F4. -/
def dirfFunctions (dirf : BitVec 7) : BitVec 32 :=
  ((dirf &&& 0x10) >>> 4 ||| (dirf &&& 0x0f) <<< 1).setWidth 32

/-- F5 to F8. -/
def sndFunctions (snd : BitVec 7) : BitVec 32 :=
  (snd &&& 0x0f).setWidth 32 <<< 5

/-- Direction and F0 to F4 of a report. -/
def applyDirf (dirf : BitVec 7) (gl : GlState) : GlState :=
  { gl with
    direction := directionOf dirf
    funcs := dirfFunctions dirf ||| (gl.funcs &&& ~~~ 0x1f) }

/-- F5 to F8 of a report. -/
def applySnd (snd : BitVec 7) (gl : GlState) : GlState :=
  { gl with funcs := sndFunctions snd ||| (gl.funcs &&& ~~~ 0x1e0) }

/-- The locomotive as the report has it, with what the report does not carry as before. -/
def Report.apply : Report → GlState → GlState
  | .locoSpd _ spd, gl => { gl with speed := speedStep spd }
  | .locoDirf _ dirf, gl => applyDirf dirf gl
  | .locoSnd _ snd, gl => applySnd snd gl
  | .rwSlotData _ _ _ spd dirf _ _ _ snd _ _, gl =>
      { gl with
        speed := speedStep spd
        direction := directionOf dirf
        funcs := dirfFunctions dirf ||| (sndFunctions snd ||| (gl.funcs &&& ~~~ 0x1ff)) }

/-! ## The way from the LocoNet -/

/-- The cache of the bus and what the driver knows about the slots. -/
structure State where
  slotmap : Nat → Nat
  gl : Gl
  queue : Log GlState
  /-- The local variable, which keeps its value when nothing is found in the cache. -/
  gltmp : GlState

/-- Get the record, change it and set it. -/
def State.change (state : State) (addr : Int) (assign : GlState → GlState) : State :=
  let gltmp := assign ((cacheGetGL state.gl addr).2.getD state.gltmp)
  { state with gl := (cacheSetGL state.gl addr gltmp).2, gltmp := gltmp }

/-- The default init for a locomotive that a slot was found for. -/
def State.initSlot (state : State) (slot addr : Nat) : State :=
  let init :=
    if state.gl.isInitialized addr then (state.gl, state.queue)
    else (cacheInitGL driverLoconet state.gl state.queue addr 'L' 1 128 9).2
  { state with
    slotmap := Function.update state.slotmap slot addr
    gl := init.1
    queue := init.2 }

/-- Bit shuffling. -/
def shuffle (tmp : BitVec 32) : BitVec 32 :=
  (tmp &&& 0x10) >>> 4 ||| (tmp &&& 0x0f) <<< 1

/-- The buffer is cleared before a packet is read into it. -/
def lnPacket (packet : Packet) (index : Nat) : BitVec 32 :=
  (packet.getD index 0).setWidth 32

/-- What the driver does with a message from the line. -/
def receive (state : State) (packet : Packet) : State :=
  let opcode := packet.getD 0 0
  let addr := state.slotmap (lnPacket packet 1).toNat
  let value := lnPacket packet 2
  if opcode = opcLocoSpd then
    if addr = 0 then state
    else state.change addr fun gltmp =>
      { gltmp with speed := if value = 1 then 0 else value.toNat }
  else if opcode = opcLocoDirf then
    if addr = 0 then state
    else state.change addr fun gltmp =>
      { gltmp with
        funcs := (gltmp.funcs &&& 0xffe0) ||| shuffle value
        direction := if value &&& 0x20 ≠ 0 then 0 else 1 }
  else if opcode = opcLocoSnd then
    if addr = 0 then state
    else state.change addr fun gltmp =>
      { gltmp with funcs := (gltmp.funcs &&& (0xfe1f : BitVec 32)) ||| (value &&& 0x0f) <<< 5 }
  else if opcode = opcSlRdData ∧ lnPacket packet 1 = 0x0e then
    let addr := (lnPacket packet 4 ||| lnPacket packet 9 <<< 7).toNat
    (state.initSlot value.toNat addr).change addr fun gltmp =>
      { gltmp with
        speed := (lnPacket packet 5).toNat
        funcs := shuffle (lnPacket packet 6) ||| lnPacket packet 7 <<< 5 }
  else state

/-! ## Agreement -/

/-- A packet of the driver as a report on the locomotive `id`. -/
def heard (slotmap : Nat → Nat) (id : Int) : Packet → Option Report
  | [opcode, slot, value, _] =>
      if slot < 0x80 ∧ value < 0x80 ∧ (slotmap slot.toNat : Int) = id then
        if opcode = opcLocoSpd then some (.locoSpd (slot.setWidth 7) (value.setWidth 7))
        else if opcode = opcLocoDirf then some (.locoDirf (slot.setWidth 7) (value.setWidth 7))
        else if opcode = opcLocoSnd then some (.locoSnd (slot.setWidth 7) (value.setWidth 7))
        else none
      else none
  | _ => none

/-- What the other parties take from a packet of the driver. -/
def hear (slotmap : Nat → Nat) (id : Int) (gl : GlState) (packet : Packet) : GlState :=
  (heard slotmap id packet).elim gl fun report => report.apply gl

/-- A report from the LocoNet, or a command; `stale` is what the driver compares it with when
the locomotive is not in the cache any more. -/
inductive Event
  | report (report : Report)
  | command (gltmp stale : GlState)

/-- The record that a command is compared with. -/
def State.glcur (state : State) (gltmp stale : GlState) : GlState :=
  (cacheGetGL state.gl gltmp.id).2.getD stale

/-- A report, or a command that was sent. -/
def step : Step State Event := fun state event =>
  match event with
  | .report report => some (receive state report.packet)
  | .command gltmp _ => some { state with gl := (cacheSetGL state.gl gltmp.id gltmp).2 }

/-- The address in the data of a slot. -/
def slotAddress (adr adr2 : BitVec 7) : Nat :=
  (adr.setWidth 32 ||| adr2.setWidth 32 <<< 7).toNat

/-- The address that a report is about; 0 for a slot that is not known. -/
def Report.address (state : State) : Report → Nat
  | .locoSpd slot _ | .locoDirf slot _ | .locoSnd slot _ => state.slotmap slot.toNat
  | .rwSlotData _ _ adr _ _ _ _ adr2 _ _ _ => slotAddress adr adr2

/-- The state before the report is applied; slot data makes a locomotive known first. -/
def Report.before (state : State) : Report → State
  | .rwSlotData slot _ adr _ _ _ _ adr2 _ _ _ =>
      state.initSlot slot.toNat (slotAddress adr adr2)
  | _ => state

/-- Two records agree in what LocoNet tells. -/
structure Same (gl other : GlState) : Prop where
  speed : gl.speed = other.speed
  direction : gl.direction = other.direction
  funcs : gl.funcs = other.funcs

/-- Speed, direction and F0 to F8. -/
structure SameF8 (gl other : GlState) : Prop where
  speed : gl.speed = other.speed
  direction : gl.direction = other.direction
  funcs : gl.funcs &&& 0x1ff = other.funcs &&& 0x1ff

/-- The cached locomotive is as reported, and the packets of a command give it back. -/
def Agrees (state : State) : Event → Prop
  | .report report =>
      let addr := report.address state
      (report.before state).gl.isInitialized addr = true →
        Same ((receive state report.packet).gl.glstate addr)
          (report.apply ((report.before state).gl.glstate addr))
  | .command gltmp stale =>
      let glcur := state.glcur gltmp stale
      SameF8 ((sendGl state.slotmap gltmp glcur).foldl (hear state.slotmap gltmp.id) glcur) gltmp

/-- The values for which a report is understood. -/
def Report.Understood (gl : GlState) : Report → Prop
  | .locoSpd _ spd => spd ≤ 1
  | .locoDirf _ _ | .locoSnd _ _ => gl.funcs &&& 0xffff0000 = 0
  | .rwSlotData _ _ _ spd dirf trk _ _ snd _ _ =>
      spd = 0 ∧ gl.direction = directionOf dirf ∧
        trk.setWidth 32 <<< 5 = sndFunctions snd ||| (gl.funcs &&& ~~~ 0x1ff)

/-- Reports that are understood, and commands that change nothing or are for a known slot
and have a speed and a direction that the packets can carry. -/
def Fits (state : State) : Event → Prop
  | .report report =>
      (report.before state).gl.isInitialized (report.address state) = true →
        report.Understood ((report.before state).gl.glstate (report.address state))
  | .command gltmp stale =>
      let glcur := state.glcur gltmp stale
      (∀ group : Group, ¬ group.Changed gltmp glcur) ∨
        ((∃ slot ∈ List.range' 1 127, (state.slotmap slot : Int) = gltmp.id) ∧
          (Group.speed.Changed gltmp glcur → 0 ≤ gltmp.speed ∧ gltmp.speed ≤ 126) ∧
          (Group.direction.Changed gltmp glcur → gltmp.direction = 0 ∨ gltmp.direction = 1))

/-! ## Bits -/

theorem shuffle_eq (dirf : BitVec 7) : shuffle (dirf.setWidth 32) = dirfFunctions dirf := by
  revert dirf
  decide

theorem dirfFunctions_within (dirf : BitVec 7) :
    dirfFunctions dirf &&& 0x1f = dirfFunctions dirf := by
  revert dirf
  decide

theorem dirfFunctions_clear (dirf : BitVec 7) : dirfFunctions dirf &&& 0xffff0000 = 0 := by
  revert dirf
  decide

theorem sndFunctions_clear (snd : BitVec 7) : sndFunctions snd &&& 0xffff0000 = 0 := by
  revert snd
  decide

theorem sndFunctions_low (snd : BitVec 7) : sndFunctions snd &&& 0x1f = 0 := by
  revert snd
  decide

theorem trk_low (trk : BitVec 7) : trk.setWidth 32 <<< 5 &&& (0x1f : BitVec 32) = 0 := by
  revert trk
  decide

theorem direction_eq (dirf : BitVec 7) :
    (if dirf.setWidth 32 &&& (0x20 : BitVec 32) ≠ 0 then (0 : Int) else 1) = directionOf dirf := by
  revert dirf
  decide

theorem snd_eq (snd : BitVec 7) :
    (snd.setWidth 32 &&& (0x0f : BitVec 32)) <<< 5 = sndFunctions snd := by
  revert snd
  decide

/-- The speed that is stored is right only for a stop. -/
theorem speed_eq_iff (spd : BitVec 7) :
    (if spd.setWidth 32 = (1 : BitVec 32) then (0 : Int) else ((spd.setWidth 32).toNat : Int)) =
      speedStep spd ↔ spd ≤ 1 := by
  revert spd
  decide

theorem slotData_speed_eq_iff (spd : BitVec 7) :
    (((spd.setWidth 32 : BitVec 32).toNat : Int)) = speedStep spd ↔ spd = 0 := by
  revert spd
  decide

/-! ## Reports -/

section Reports

variable {state : State} {addr : Int} {assign : GlState → GlState} {gl : GlState}

theorem same_change_iff (initialised : state.gl.isInitialized addr = true) :
    Same ((state.change addr assign).gl.glstate addr) gl ↔
      Same (assign (state.gl.glstate addr)) gl := by
  have stored : (state.change addr assign).gl.glstate addr =
      { state.gl.glstate addr with
        direction := (assign (state.gl.glstate addr)).direction
        speed := (assign (state.gl.glstate addr)).speed
        funcs := (assign (state.gl.glstate addr)).funcs
        nFs := (assign (state.gl.glstate addr)).nFs
        nFunc := (assign (state.gl.glstate addr)).nFunc
        tv := state.gl.clock } := by
    rw [State.change, cacheGetGL, if_pos initialised]
    exact cacheSetGL_of_isInitialized initialised
  rw [stored]
  constructor
  · rintro ⟨speed, direction, funcs⟩
    exact ⟨speed, direction, funcs⟩
  · rintro ⟨speed, direction, funcs⟩
    exact ⟨speed, direction, funcs⟩

theorem ne_zero_of_isInitialized {gl : Gl} {addr : Nat}
    (initialised : gl.isInitialized addr = true) : addr ≠ 0 := by
  rintro rfl
  simp [Gl.isInitialized, Gl.isValid] at initialised

theorem widen_setWidth (value : BitVec 7) :
    (widen value).setWidth 32 = value.setWidth 32 := by
  revert value
  decide

theorem toNat_setWidth (value : BitVec 7) : (value.setWidth 32).toNat = value.toNat := by
  revert value
  decide

theorem receive_locoSpd (state : State) (slot spd : BitVec 7) :
    receive state (Report.locoSpd slot spd).packet =
      if state.slotmap slot.toNat = 0 then state
      else state.change (state.slotmap slot.toNat) fun gltmp =>
        { gltmp with
          speed := if spd.setWidth 32 = (1 : BitVec 32) then 0
            else ((spd.setWidth 32).toNat : Int) } := by
  have slotByte : lnPacket (Report.locoSpd slot spd).packet 1 = slot.setWidth 32 :=
    widen_setWidth slot
  have spdByte : lnPacket (Report.locoSpd slot spd).packet 2 = spd.setWidth 32 :=
    widen_setWidth spd
  have opcode : (Report.locoSpd slot spd).packet.getD 0 0 = opcLocoSpd := rfl
  rw [receive]
  dsimp only
  rw [opcode, if_pos rfl, slotByte, spdByte, toNat_setWidth]

theorem receive_locoDirf (state : State) (slot dirf : BitVec 7) :
    receive state (Report.locoDirf slot dirf).packet =
      if state.slotmap slot.toNat = 0 then state
      else state.change (state.slotmap slot.toNat) fun gltmp =>
        { gltmp with
          funcs := (gltmp.funcs &&& 0xffe0) ||| dirfFunctions dirf
          direction := directionOf dirf } := by
  have slotByte : lnPacket (Report.locoDirf slot dirf).packet 1 = slot.setWidth 32 :=
    widen_setWidth slot
  have dirfByte : lnPacket (Report.locoDirf slot dirf).packet 2 = dirf.setWidth 32 :=
    widen_setWidth dirf
  have opcode : (Report.locoDirf slot dirf).packet.getD 0 0 = opcLocoDirf := rfl
  rw [receive]
  dsimp only
  rw [opcode, if_neg (by decide), if_pos rfl, slotByte, dirfByte, toNat_setWidth, shuffle_eq,
    direction_eq]

theorem receive_locoSnd (state : State) (slot snd : BitVec 7) :
    receive state (Report.locoSnd slot snd).packet =
      if state.slotmap slot.toNat = 0 then state
      else state.change (state.slotmap slot.toNat) fun gltmp =>
        { gltmp with funcs := (gltmp.funcs &&& 0xfe1f) ||| sndFunctions snd } := by
  have slotByte : lnPacket (Report.locoSnd slot snd).packet 1 = slot.setWidth 32 :=
    widen_setWidth slot
  have sndByte : lnPacket (Report.locoSnd slot snd).packet 2 = snd.setWidth 32 :=
    widen_setWidth snd
  have opcode : (Report.locoSnd slot snd).packet.getD 0 0 = opcLocoSnd := rfl
  rw [receive]
  dsimp only
  rw [opcode, if_neg (by decide), if_neg (by decide), if_pos rfl, slotByte, sndByte, toNat_setWidth,
    snd_eq]

theorem receive_rwSlotData (state : State)
    (slot stat adr spd dirf trk ss2 adr2 snd id1 id2 : BitVec 7) :
    receive state (Report.rwSlotData slot stat adr spd dirf trk ss2 adr2 snd id1 id2).packet =
      (state.initSlot slot.toNat (slotAddress adr adr2)).change (slotAddress adr adr2)
        fun gltmp =>
          { gltmp with
            speed := ((spd.setWidth 32).toNat : Int)
            funcs := dirfFunctions dirf ||| trk.setWidth 32 <<< 5 } := by
  have opcode :
      (Report.rwSlotData slot stat adr spd dirf trk ss2 adr2 snd id1 id2).packet.getD 0 0 =
      opcSlRdData := rfl
  have size :
      lnPacket (Report.rwSlotData slot stat adr spd dirf trk ss2 adr2 snd id1 id2).packet 1 =
      0x0e := rfl
  rw [receive]
  dsimp only
  rw [opcode, if_neg (by decide), if_neg (by decide), if_neg (by decide), if_pos ⟨rfl, size⟩]
  have bytes : ∀ value : BitVec 7, lnPacket [widen value] 0 = value.setWidth 32 := widen_setWidth
  change (state.initSlot (lnPacket [widen slot] 0).toNat
    (lnPacket [widen adr] 0 ||| lnPacket [widen adr2] 0 <<< 7).toNat).change
    ((lnPacket [widen adr] 0 ||| lnPacket [widen adr2] 0 <<< 7).toNat : Int) (fun gltmp =>
      { gltmp with
        speed := ((lnPacket [widen spd] 0).toNat : Int)
        funcs := shuffle (lnPacket [widen dirf] 0) ||| lnPacket [widen trk] 0 <<< 5 }) = _
  rw [bytes, bytes, bytes, bytes, bytes, bytes, shuffle_eq, toNat_setWidth slot]
  rfl

theorem same_dirf_iff {dirf : BitVec 7} :
    Same { gl with
        funcs := (gl.funcs &&& 0xffe0) ||| dirfFunctions dirf
        direction := directionOf dirf } (applyDirf dirf gl) ↔ gl.funcs &&& 0xffff0000 = 0 := by
  have masks : (~~~ 0x1f : BitVec 32) = 0xffe0 ||| 0xffff0000 := by decide
  rw [← or_and_eq_iff (by decide : (0xffe0 : BitVec 32) &&& 0xffff0000 = 0)
    (dirfFunctions_clear dirf), ← masks, BitVec.or_comm (gl.funcs &&& 0xffe0)]
  constructor
  · rintro ⟨_, _, funcs⟩
    exact funcs
  · intro funcs
    exact ⟨rfl, rfl, funcs⟩

theorem same_snd_iff {snd : BitVec 7} :
    Same { gl with funcs := (gl.funcs &&& 0xfe1f) ||| sndFunctions snd } (applySnd snd gl) ↔
      gl.funcs &&& 0xffff0000 = 0 := by
  have masks : (~~~ 0x1e0 : BitVec 32) = 0xfe1f ||| 0xffff0000 := by decide
  rw [← or_and_eq_iff (by decide : (0xfe1f : BitVec 32) &&& 0xffff0000 = 0)
    (sndFunctions_clear snd), ← masks, BitVec.or_comm (gl.funcs &&& 0xfe1f)]
  constructor
  · rintro ⟨_, _, funcs⟩
    exact funcs
  · intro funcs
    exact ⟨rfl, rfl, funcs⟩

theorem slotData_low (gl : GlState) (snd : BitVec 7) :
    (sndFunctions snd ||| (gl.funcs &&& ~~~ 0x1ff)) &&& 0x1f = 0 := by
  have masks : (~~~ 0x1ff : BitVec 32) &&& 0x1f = 0 := by decide
  rw [BitVec.and_or_distrib_right, sndFunctions_low, BitVec.and_assoc, masks]
  simp

/-- The record after a report is as reported exactly when the report is understood. -/
theorem Report.agrees_iff (state : State) (report : Report) :
    Agrees state (.report report) ↔ Fits state (.report report) := by
  apply forall_congr'
  intro initialised
  cases report with
  | locoSpd slot spd =>
      have known : state.slotmap slot.toNat ≠ 0 := ne_zero_of_isInitialized initialised
      rw [receive_locoSpd, if_neg known]
      refine (same_change_iff initialised).trans ?_
      rw [Report.Understood, ← speed_eq_iff]
      constructor
      · rintro ⟨speed, _, _⟩
        exact speed
      · intro speed
        exact ⟨speed, rfl, rfl⟩
  | locoDirf slot dirf =>
      have known : state.slotmap slot.toNat ≠ 0 := ne_zero_of_isInitialized initialised
      rw [receive_locoDirf, if_neg known]
      exact (same_change_iff initialised).trans same_dirf_iff
  | locoSnd slot snd =>
      have known : state.slotmap slot.toNat ≠ 0 := ne_zero_of_isInitialized initialised
      rw [receive_locoSnd, if_neg known]
      exact (same_change_iff initialised).trans same_snd_iff
  | rwSlotData slot stat adr spd dirf trk ss2 adr2 snd id1 id2 =>
      rw [receive_rwSlotData]
      refine (same_change_iff initialised).trans ?_
      rw [Report.Understood, ← slotData_speed_eq_iff, ← or_left_inj_of_disjoint
        (and_eq_zero_of_and_eq_zero (dirfFunctions_within dirf) (trk_low trk))
        (and_eq_zero_of_and_eq_zero (dirfFunctions_within dirf) (slotData_low _ snd))]
      constructor
      · rintro ⟨speed, direction, funcs⟩
        exact ⟨speed, direction, funcs⟩
      · rintro ⟨speed, direction, funcs⟩
        exact ⟨speed, direction, funcs⟩

end Reports

/-! ## Commands -/

theorem and_f8_eq_iff {f g : BitVec 32} : f &&& 0x1ff = g &&& 0x1ff ↔
    f &&& 0x1f = g &&& 0x1f ∧ f &&& 0x1e0 = g &&& 0x1e0 := by
  have masks : (0x1ff : BitVec 32) = 0x1f ||| 0x1e0 := by decide
  have low : (0x1ff : BitVec 32) &&& 0x1f = 0x1f := by decide
  have high : (0x1ff : BitVec 32) &&& 0x1e0 = 0x1e0 := by decide
  constructor
  · intro same
    constructor
    · rw [← low, ← BitVec.and_assoc, same, BitVec.and_assoc]
    · rw [← high, ← BitVec.and_assoc, same, BitVec.and_assoc]
  · rintro ⟨sameLow, sameHigh⟩
    rw [masks, BitVec.and_or_distrib_left, BitVec.and_or_distrib_left, sameLow, sameHigh]

/-- The data byte for direction and F0 to F4. -/
def dirfData (gltmp : GlState) : BitVec 8 :=
  (if gltmp.direction ≠ 0 then 0 else 0x20) + (if gltmp.funcs.getLsbD 0 then 0x10 else 0) +
    ((gltmp.funcs >>> 1).setWidth 8 &&& 0x0f)

/-- The data byte for F5 to F8. -/
def sndData (gltmp : GlState) : BitVec 8 :=
  (gltmp.funcs >>> 5).setWidth 8 &&& 0x0f

/-- The low bits of the functions decide the bytes. -/
theorem dirfData_functions (gltmp : GlState) :
    dirfData gltmp < 0x80 ∧ dirfFunctions ((dirfData gltmp).setWidth 7) = gltmp.funcs &&& 0x1f ∧
      directionOf ((dirfData gltmp).setWidth 7) = if gltmp.direction ≠ 0 then 1 else 0 := by
  have first : gltmp.funcs.getLsbD 0 = (gltmp.funcs.setWidth 5).getLsbD 0 := by
    simp
  have rest : (gltmp.funcs >>> 1).setWidth 8 &&& (0x0f : BitVec 8) =
      ((gltmp.funcs.setWidth 5) >>> 1).setWidth 8 := by
    apply BitVec.eq_of_getLsbD_eq
    intro i inside
    interval_cases i <;> simp
  have low : gltmp.funcs &&& (0x1f : BitVec 32) = (gltmp.funcs.setWidth 5).setWidth 32 := by
    apply BitVec.eq_of_getLsbD_eq
    intro i inside
    interval_cases i <;> simp
  rw [dirfData, first, rest, low]
  generalize gltmp.funcs.setWidth 5 = functions
  by_cases forward : gltmp.direction ≠ 0
  · rw [if_pos forward, if_pos forward]
    revert functions
    decide
  · rw [if_neg forward, if_neg forward]
    revert functions
    decide

theorem sndData_functions (gltmp : GlState) :
    sndData gltmp < 0x80 ∧
      sndFunctions ((sndData gltmp).setWidth 7) = gltmp.funcs &&& 0x1e0 := by
  have data : sndData gltmp = ((gltmp.funcs >>> 5).setWidth 4).setWidth 8 := by
    apply BitVec.eq_of_getLsbD_eq
    intro i inside
    rw [sndData]
    interval_cases i <;> simp
  have high : gltmp.funcs &&& (0x1e0 : BitVec 32) =
      ((gltmp.funcs >>> 5).setWidth 4).setWidth 32 <<< 5 := by
    apply BitVec.eq_of_getLsbD_eq
    intro i inside
    interval_cases i <;> simp
  rw [data, high]
  generalize (gltmp.funcs >>> 5).setWidth 4 = functions
  revert functions
  decide

theorem speedStep_range (spd : BitVec 7) : 0 ≤ speedStep spd ∧ speedStep spd ≤ 126 := by
  revert spd
  decide

theorem locoSpeed_speedStep {speed : Int} (nonneg : 0 ≤ speed) (le : speed ≤ 126) :
    locoSpeed speed < 0x80 ∧ speedStep ((locoSpeed speed).setWidth 7) = speed := by
  have all : ∀ n : Fin 127, locoSpeed (n.val : Int) < 0x80 ∧
      speedStep ((locoSpeed (n.val : Int)).setWidth 7) = (n.val : Int) := by decide
  rcases Int.eq_ofNat_of_zero_le nonneg with ⟨n, rfl⟩
  exact all ⟨n, by omega⟩

section Commands

variable {slotmap : Nat → Nat} {id : Int} {gltmp glcur gl : GlState}

theorem Report.apply_apply (report : Report) (gl : GlState) :
    report.apply (report.apply gl) = report.apply gl := by
  have clear : ∀ x g m : BitVec 32,
      x ||| ((x ||| (g &&& ~~~ m)) &&& ~~~ m) = x ||| (g &&& ~~~ m) := by
    intro x g m
    apply BitVec.eq_of_getLsbD_eq
    intro i inside
    simp only [BitVec.getLsbD_and, BitVec.getLsbD_or, BitVec.getLsbD_not]
    cases x.getLsbD i <;> cases g.getLsbD i <;> cases m.getLsbD i <;> simp
  cases report with
  | locoSpd slot spd => rfl
  | locoDirf slot dirf =>
      change applyDirf dirf (applyDirf dirf gl) = applyDirf dirf gl
      rw [applyDirf, applyDirf, clear]
  | locoSnd slot snd =>
      change applySnd snd (applySnd snd gl) = applySnd snd gl
      rw [applySnd, applySnd, clear]
  | rwSlotData slot stat adr spd dirf trk ss2 adr2 snd id1 id2 =>
      rw [Report.apply, Report.apply]
      dsimp only
      rw [← BitVec.or_assoc, ← BitVec.or_assoc, clear]

theorem hear_hear (packet : Packet) :
    hear slotmap id (hear slotmap id gl packet) packet = hear slotmap id gl packet := by
  rw [hear, hear]
  cases heard slotmap id packet with
  | none => rfl
  | some report => exact report.apply_apply gl

/-- Hearing a message once more changes nothing. -/
theorem foldl_hear_again (messages : List Message) :
    (messages.flatMap lnSendmessage ++ lnSendmessage (messages.getLast?.getD [opcIdle])).foldl
        (hear slotmap id) gl =
      (messages.flatMap lnSendmessage).foldl (hear slotmap id) gl := by
  rcases List.eq_nil_or_concat messages with rfl | ⟨before, last, rfl⟩
  · rfl
  · rw [List.concat_eq_append, List.foldl_append, List.flatMap_append, List.foldl_append]
    have again : (before ++ [last]).getLast?.getD [opcIdle] = last := by simp
    rw [again, List.flatMap_cons, List.flatMap_nil, List.append_nil, lnSendmessage]
    split
    · rfl
    · rw [List.foldl_cons, List.foldl_nil, List.foldl_cons, List.foldl_nil, hear_hear]

/-- The effect of one message when it is sent. -/
def hearMessage (slotmap : Nat → Nat) (id : Int) (opcode slot data : BitVec 8) (changed : Prop)
    [Decidable changed] (gl : GlState) : GlState :=
  if changed then hear slotmap id gl [opcode, slot, data, lnChecksum [opcode, slot, data]] else gl

theorem foldl_hear_message {opcode slot data : BitVec 8} {changed : Prop} [Decidable changed]
    (busy : opcode ≠ opcIdle) :
    ((message opcode slot data changed).flatMap lnSendmessage).foldl (hear slotmap id) gl =
      hearMessage slotmap id opcode slot data changed gl := by
  rw [message, hearMessage]
  split
  · have sent : lnSendmessage [opcode, slot, data] =
        [[opcode, slot, data, lnChecksum [opcode, slot, data]]] := by
      rw [lnSendmessage, if_neg (by simpa using busy)]
      rfl
    rw [List.flatMap_cons, List.flatMap_nil, List.append_nil, sent]
    rfl
  · rfl

theorem foldl_hear_sendGl :
    (sendGl slotmap gltmp glcur).foldl (hear slotmap id) gl =
      let slot := byte (cacheGetSlotNumberforAddr slotmap gltmp.id)
      hearMessage slotmap id opcLocoSnd slot (sndData gltmp) (Group.sound.Changed gltmp glcur)
        (hearMessage slotmap id opcLocoDirf slot (dirfData gltmp)
          (Group.direction.Changed gltmp glcur)
          (hearMessage slotmap id opcLocoSpd slot (locoSpeed gltmp.speed)
            (Group.speed.Changed gltmp glcur) gl)) := by
  have messages : (sendGlLoconet slotmap gltmp glcur).1 =
      message opcLocoSpd (byte (cacheGetSlotNumberforAddr slotmap gltmp.id))
          (locoSpeed gltmp.speed) (Group.speed.Changed gltmp glcur) ++
        message opcLocoDirf (byte (cacheGetSlotNumberforAddr slotmap gltmp.id))
          (dirfData gltmp) (Group.direction.Changed gltmp glcur) ++
        message opcLocoSnd (byte (cacheGetSlotNumberforAddr slotmap gltmp.id))
          (sndData gltmp) (Group.sound.Changed gltmp glcur) := rfl
  rw [sendGl, messages]
  dsimp only
  rw [foldl_hear_again, List.flatMap_append, List.flatMap_append, List.foldl_append,
    List.foldl_append, foldl_hear_message (by decide), foldl_hear_message (by decide),
    foldl_hear_message (by decide)]

theorem unchanged_iff :
    (∀ group : Group, ¬ group.Changed gltmp glcur) ↔ SameF8 glcur gltmp := by
  constructor
  · intro unchanged
    have direction := not_or.mp (unchanged .direction)
    constructor
    · exact (not_not.mp (unchanged .speed)).symm
    · exact (not_not.mp direction.1).symm
    · exact and_f8_eq_iff.mpr
        ⟨(not_not.mp direction.2).symm, (not_not.mp (unchanged .sound)).symm⟩
  · rintro ⟨speed, direction, funcs⟩ group changed
    rcases and_f8_eq_iff.mp funcs with ⟨low, high⟩
    cases group with
    | speed => exact changed speed.symm
    | direction =>
        rcases changed with changed | changed
        · exact changed direction.symm
        · exact changed low.symm
    | sound => exact changed high.symm

/-- Nobody hears a packet for a slot byte that is no data byte. -/
theorem heard_of_unknown (unknown : ¬ ∃ slot ∈ List.range' 1 127, (slotmap slot : Int) = id)
    (opcode data checksum : BitVec 8) :
    heard slotmap id [opcode, byte (cacheGetSlotNumberforAddr slotmap id), data, checksum] =
      none := by
  have missing : cacheGetSlotNumberforAddr slotmap id = -1 := by
    rw [cacheGetSlotNumberforAddr]
    cases found : (List.range' 1 127).find? fun i => (slotmap i : Int) = id with
    | none => rfl
    | some slot =>
        refine absurd ⟨slot, List.mem_of_find?_eq_some found, ?_⟩ unknown
        simpa using List.find?_some found
  rw [missing, heard]
  exact if_neg fun heard => absurd heard.1 (by decide)

/-- For a slot that is known a data byte is heard. -/
theorem heard_of_known (known : ∃ slot ∈ List.range' 1 127, (slotmap slot : Int) = id)
    (opcode data checksum : BitVec 8) :
    ∃ slot, heard slotmap id
        [opcode, byte (cacheGetSlotNumberforAddr slotmap id), data, checksum] =
      if data < 0x80 then
        if opcode = opcLocoSpd then some (Report.locoSpd slot (data.setWidth 7))
        else if opcode = opcLocoDirf then some (Report.locoDirf slot (data.setWidth 7))
        else if opcode = opcLocoSnd then some (Report.locoSnd slot (data.setWidth 7))
        else none
      else none := by
  rcases (cacheGetSlotNumberforAddr_slot slotmap id).mpr known with ⟨slot, mem, same, found⟩
  have bound := List.mem_range'_1.mp mem
  have number : (BitVec.ofNat 8 slot).toNat = slot := by
    rw [BitVec.toNat_ofNat, Nat.mod_eq_of_lt (by omega)]
  have small : BitVec.ofNat 8 slot < 0x80 := by
    change (BitVec.ofNat 8 slot).toNat < 128
    omega
  refine ⟨(BitVec.ofNat 8 slot).setWidth 7, ?_⟩
  rw [found, heard]
  by_cases isData : data < 0x80
  · rw [if_pos isData, if_pos ⟨small, isData, by rw [number]; exact same⟩]
  · rw [if_neg isData, if_neg fun heard => isData heard.2.1]

theorem hearMessage_of_unknown (unknown : ¬ ∃ slot ∈ List.range' 1 127, (slotmap slot : Int) = id)
    (opcode data : BitVec 8) (changed : Prop) [Decidable changed] :
    hearMessage slotmap id opcode (byte (cacheGetSlotNumberforAddr slotmap id)) data changed gl =
      gl := by
  rw [hearMessage, hear, heard_of_unknown unknown]
  split <;> rfl

section Known

variable (known : ∃ slot ∈ List.range' 1 127, (slotmap slot : Int) = id)
  {changed : Prop} [Decidable changed]

include known

theorem hearMessage_speed (data : BitVec 8) :
    hearMessage slotmap id opcLocoSpd (byte (cacheGetSlotNumberforAddr slotmap id)) data changed
        gl =
      if changed ∧ data < 0x80 then { gl with speed := speedStep (data.setWidth 7) } else gl := by
  rcases heard_of_known known opcLocoSpd data
    (lnChecksum [opcLocoSpd, byte (cacheGetSlotNumberforAddr slotmap id), data]) with ⟨slot, found⟩
  rw [if_pos rfl] at found
  rw [hearMessage]
  by_cases sent : changed
  · rw [if_pos sent, hear, found]
    by_cases isData : data < 0x80
    · rw [if_pos isData, if_pos ⟨sent, isData⟩]
      rfl
    · rw [if_neg isData, if_neg fun both => isData both.2]
      rfl
  · rw [if_neg sent, if_neg fun both => sent both.1]

theorem hearMessage_direction {data : BitVec 8} (isData : data < 0x80) :
    hearMessage slotmap id opcLocoDirf (byte (cacheGetSlotNumberforAddr slotmap id)) data changed
        gl =
      if changed then applyDirf (data.setWidth 7) gl else gl := by
  rcases heard_of_known known opcLocoDirf data
    (lnChecksum [opcLocoDirf, byte (cacheGetSlotNumberforAddr slotmap id), data]) with
    ⟨slot, found⟩
  rw [if_pos isData, if_neg (by decide), if_pos rfl] at found
  rw [hearMessage]
  by_cases sent : changed
  · rw [if_pos sent, if_pos sent, hear, found]
    rfl
  · rw [if_neg sent, if_neg sent]

theorem hearMessage_sound {data : BitVec 8} (isData : data < 0x80) :
    hearMessage slotmap id opcLocoSnd (byte (cacheGetSlotNumberforAddr slotmap id)) data changed
        gl =
      if changed then applySnd (data.setWidth 7) gl else gl := by
  rcases heard_of_known known opcLocoSnd data
    (lnChecksum [opcLocoSnd, byte (cacheGetSlotNumberforAddr slotmap id), data]) with
    ⟨slot, found⟩
  rw [if_pos isData, if_neg (by decide), if_neg (by decide), if_pos rfl] at found
  rw [hearMessage]
  by_cases sent : changed
  · rw [if_pos sent, if_pos sent, hear, found]
    rfl
  · rw [if_neg sent, if_neg sent]

end Known

/-- The functions of a message and the others of the record make up the word. -/
theorem applyDirf_functions (gl : GlState) :
    (applyDirf ((dirfData gltmp).setWidth 7) gl).funcs &&& 0x1f = gltmp.funcs &&& 0x1f ∧
      (applyDirf ((dirfData gltmp).setWidth 7) gl).funcs &&& 0x1e0 = gl.funcs &&& 0x1e0 := by
  rw [applyDirf]
  dsimp only
  rw [(dirfData_functions gltmp).2.1]
  exact ⟨merge_and_self, merge_and_other (by decide)⟩

theorem applySnd_functions (gl : GlState) :
    (applySnd ((sndData gltmp).setWidth 7) gl).funcs &&& 0x1e0 = gltmp.funcs &&& 0x1e0 ∧
      (applySnd ((sndData gltmp).setWidth 7) gl).funcs &&& 0x1f = gl.funcs &&& 0x1f := by
  rw [applySnd]
  dsimp only
  rw [(sndData_functions gltmp).2]
  exact ⟨merge_and_self, merge_and_other (by decide)⟩

/-- The speed that is heard. -/
theorem speed_heard_iff :
    (if gltmp.speed ≠ glcur.speed ∧ locoSpeed gltmp.speed < 0x80 then
        { glcur with speed := speedStep ((locoSpeed gltmp.speed).setWidth 7) }
      else glcur).speed = gltmp.speed ↔
      (gltmp.speed ≠ glcur.speed → 0 ≤ gltmp.speed ∧ gltmp.speed ≤ 126) := by
  constructor
  · intro same changed
    split at same
    · have range := speedStep_range ((locoSpeed gltmp.speed).setWidth 7)
      rw [← same]
      exact range
    · exact absurd same.symm changed
  · intro range
    by_cases changed : gltmp.speed ≠ glcur.speed
    · rcases range changed with ⟨nonneg, le⟩
      rcases locoSpeed_speedStep nonneg le with ⟨isData, step⟩
      rw [if_pos ⟨changed, isData⟩]
      exact step
    · rw [if_neg fun both => changed both.1]
      exact (not_not.mp changed).symm

theorem direction_heard_iff {changed : Prop} [Decidable changed]
    (unchanged : ¬ changed → gl.direction = gltmp.direction) :
    (if changed then applyDirf ((dirfData gltmp).setWidth 7) gl else gl).direction =
        gltmp.direction ↔
      (changed → gltmp.direction = 0 ∨ gltmp.direction = 1) := by
  by_cases sent : changed
  · rw [if_pos sent, applyDirf]
    dsimp only
    rw [(dirfData_functions gltmp).2.2, forall_prop_of_true sent]
    split <;> omega
  · rw [if_neg sent]
    exact iff_of_true (unchanged sent) fun changed => absurd changed sent

/-- The packets give back a speed of at most 126, a direction that is no stop and the
functions. -/
theorem sameF8_of_known (known : ∃ slot ∈ List.range' 1 127, (slotmap slot : Int) = gltmp.id) :
    SameF8 ((sendGl slotmap gltmp glcur).foldl (hear slotmap gltmp.id) glcur) gltmp ↔
      (Group.speed.Changed gltmp glcur → 0 ≤ gltmp.speed ∧ gltmp.speed ≤ 126) ∧
        (Group.direction.Changed gltmp glcur →
          gltmp.direction = 0 ∨ gltmp.direction = 1) := by
  rw [foldl_hear_sendGl]
  dsimp only
  rw [hearMessage_sound known (sndData_functions gltmp).1,
    hearMessage_direction known (dirfData_functions gltmp).1, hearMessage_speed known]
  generalize afterSpeed : (if Group.speed.Changed gltmp glcur ∧ locoSpeed gltmp.speed < 0x80 then
    { glcur with speed := speedStep ((locoSpeed gltmp.speed).setWidth 7) } else glcur) = first
  have firstSpeed : first.speed = gltmp.speed ↔
      (Group.speed.Changed gltmp glcur → 0 ≤ gltmp.speed ∧ gltmp.speed ≤ 126) := by
    rw [← afterSpeed]
    exact speed_heard_iff
  have firstRest : first.direction = glcur.direction ∧ first.funcs = glcur.funcs := by
    rw [← afterSpeed]
    split <;> exact ⟨rfl, rfl⟩
  generalize afterDirection : (if Group.direction.Changed gltmp glcur then
    applyDirf ((dirfData gltmp).setWidth 7) first else first) = second
  have secondDirection : second.direction = gltmp.direction ↔
      (Group.direction.Changed gltmp glcur → gltmp.direction = 0 ∨ gltmp.direction = 1) := by
    rw [← afterDirection]
    apply direction_heard_iff
    intro unchanged
    rw [firstRest.1]
    exact (not_not.mp (not_or.mp unchanged).1).symm
  have secondSpeed : second.speed = first.speed := by
    rw [← afterDirection]
    split <;> rfl
  have secondFuncs : second.funcs &&& 0x1f = gltmp.funcs &&& 0x1f ∧
      second.funcs &&& 0x1e0 = glcur.funcs &&& 0x1e0 := by
    rw [← afterDirection, ← firstRest.2]
    split
    · exact applyDirf_functions first
    · rename_i unchanged
      rw [firstRest.2]
      exact ⟨(not_not.mp (not_or.mp unchanged).2).symm, rfl⟩
  generalize afterSound : (if Group.sound.Changed gltmp glcur then
    applySnd ((sndData gltmp).setWidth 7) second else second) = third
  have thirdRest : third.speed = second.speed ∧ third.direction = second.direction := by
    rw [← afterSound]
    split <;> exact ⟨rfl, rfl⟩
  have thirdFuncs : third.funcs &&& 0x1ff = gltmp.funcs &&& 0x1ff := by
    rw [← afterSound, and_f8_eq_iff]
    split
    · rcases applySnd_functions second with ⟨high, low⟩
      exact ⟨low.trans secondFuncs.1, high⟩
    · rename_i unchanged
      exact ⟨secondFuncs.1, secondFuncs.2.trans (not_not.mp unchanged).symm⟩
  rw [← firstSpeed, ← secondDirection]
  constructor
  · rintro ⟨speed, direction, _⟩
    rw [thirdRest.1, secondSpeed] at speed
    rw [thirdRest.2] at direction
    exact ⟨speed, direction⟩
  · rintro ⟨speed, direction⟩
    constructor
    · rw [thirdRest.1, secondSpeed]
      exact speed
    · rw [thirdRest.2]
      exact direction
    · exact thirdFuncs

/-- The packets of a command give it back exactly when they can carry it. -/
theorem command_agrees_iff (state : State) (gltmp stale : GlState) :
    Agrees state (.command gltmp stale) ↔ Fits state (.command gltmp stale) := by
  rw [Agrees, Fits]
  by_cases known : ∃ slot ∈ List.range' 1 127, (state.slotmap slot : Int) = gltmp.id
  · rw [sameF8_of_known known]
    constructor
    · intro carried
      exact Or.inr ⟨known, carried⟩
    · rintro (unchanged | ⟨_, carried⟩)
      · exact ⟨fun changed => absurd changed (unchanged .speed),
          fun changed => absurd changed (unchanged .direction)⟩
      · exact carried
  · rw [foldl_hear_sendGl, unchanged_iff]
    dsimp only
    rw [hearMessage_of_unknown known, hearMessage_of_unknown known, hearMessage_of_unknown known]
    exact (or_iff_left fun both => known both.1).symm

end Commands

/-- In every run each report and each command agrees with the LocoNet exactly when it fits. -/
theorem meetsAlong_agrees_iff (start : State) (events : List Event) :
    MeetsAlong step Agrees start events ↔ MeetsAlong step Fits start events :=
  @meetsAlong_iff_of_invariant _ _ step Agrees Fits (fun _ => True)
    (fun state event _ _ _ => by
      cases event with
      | report report => exact report.agrees_iff state
      | command gltmp stale => exact command_agrees_iff state gltmp stale)
    (fun _ _ _ _ _ _ => trivial) _ _ trivial

/-- Locomotive 3 is initialised and known to be in slot 1. -/
def inSlot1 : State where
  slotmap := fun slot => if slot = 1 then 3 else 0
  gl := {
    configured := true
    numberOfGl := 9999
    glstate := fun addr => if addr = 3 then { GlState.zero with state := 1, id := 3 } else .zero
    clock := 0 }
  queue := {
    ring := { slots := fun _ => .zero, inIndex := 0, outIndex := 0 }
    added := []
    taken := [] }
  gltmp := .zero

/-- Step 4 is reported as 5 and stored as 5. -/
theorem not_agrees_speed_report :
    ¬ ∀ (start : State) (events : List Event), MeetsAlong step Agrees start events := by
  intro always
  have agrees := (always inSlot1 [.report (.locoSpd 1 5)] _ rfl).1
  have same := (agrees (by decide)).speed
  exact absurd same (by decide)

end Srcpd.Driver.Loconet
