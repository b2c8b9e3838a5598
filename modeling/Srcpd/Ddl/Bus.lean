import Srcpd.Command.Gl
import Srcpd.Ddl.MaerklinPool
import Srcpd.Ddl.Motorola
import Srcpd.Ddl.MultiFuncSends

/-!
# Locomotives on a DDL bus

`init_gl_DDL` accepts locomotives, and the bus thread hands each dequeued
command to a composer: two case trees over protocol, version, address and number
of speed steps.  `sendGl_sends` says what is sent for the commands that reach a
composer, and `sendGl_dropped` that nothing is sent for the others.
-/

namespace Srcpd.Ddl

open Srcpd.Command Srcpd.Motorola Srcpd.Dcc

/-- The check of an init. -/
def initGlDDL (gl : GlState) : SrcpCode :=
  if gl.protocol = 'M' then
    if gl.nFunc < 0 ∨ 5 < gl.nFunc then .wrongValue
    else if gl.protocolversion = 1 then
      if 0 ≤ gl.id ∧ gl.id < 80 ∧ gl.nFs = 14 ∧ gl.nFunc = 1 then .ok else .wrongValue
    else if gl.protocolversion = 2 then
      if 0 ≤ gl.id ∧ gl.id ≤ 255 ∧ (gl.nFs = 14 ∨ gl.nFs = 28) ∧ 0 ≤ gl.nFunc ∧ gl.nFunc ≤ 5 then
        .ok
      else .wrongValue
    else .wrongValue
  else if gl.protocol = 'N' then
    if gl.nFunc < 0 ∨ 32 < gl.nFunc then .wrongValue
    else if gl.protocolversion = 1 then
      if 0 ≤ gl.id ∧ gl.id < 128 ∧ (gl.nFs = 28 ∨ gl.nFs = 128) then .ok else .wrongValue
    else if gl.protocolversion = 2 then
      if 0 ≤ gl.id ∧ gl.id < 10240 ∧ (gl.nFs = 28 ∨ gl.nFs = 128) then .ok else .wrongValue
    else .wrongValue
  else .unsupportedDeviceProtocol

/-- The packets and the table of locomotives of a bus. -/
structure DdlBus where
  ddl : DdlData
  gl : Gl

/-- The speed handed to a Maerklin composer.  Never send FS1. -/
def maerklinSpeed (gltmp : GlState) : Int :=
  let speed := if gltmp.speed = 1 then gltmp.speed + 1 else gltmp.speed
  if gltmp.direction = 2 then 0 else speed

/-- The functions F1 to F4. -/
def maerklinFuncs (gltmp : GlState) : Fin 4 → Bool :=
  fun j => gltmp.funcs.getLsbD (j + 1)

/-- Motorola codes; `loco` is the record that `cacheGetGL` yields. -/
def sendMaerklin (ddl : DdlData) (gltmp loco : GlState) (pv : Int) : DdlData :=
  let addr := gltmp.id
  let speed := maerklinSpeed gltmp
  let func := gltmp.funcs.getLsbD 0
  let f := maerklinFuncs gltmp
  if pv = 1 then (compMaerklin1 ddl addr gltmp.direction speed func loco.direction).2
  else if pv = 2 then
    let ddl :=
      if gltmp.nFs = 14 then
        if addr ≤ 80 then (compMaerklin2 ddl addr gltmp.direction speed func f).2
        else (compMaerklin4 ddl addr gltmp.direction speed func f).2
      else ddl
    if gltmp.nFs = 28 ∧ addr ≤ 80 then
      (compMaerklin5 ddl addr gltmp.direction speed func f loco.speed).2
    else ddl
  else ddl

/-- NMRA codes; direction 2 is an emergency halt. -/
def nmraCall (gltmp : GlState) (pv : Int) : MultiFuncCall :=
  let speed := if gltmp.speed ≠ 0 then gltmp.speed + 1 else gltmp.speed
  if gltmp.direction ≠ 2 then
    ⟨gltmp.id, gltmp.direction, speed, gltmp.funcs, gltmp.nFs, gltmp.nFunc, pv⟩
  else ⟨gltmp.id, 0, 1, gltmp.funcs, gltmp.nFs, gltmp.nFunc, pv⟩

/-- Long addresses need version 2. -/
def sentVersion (gltmp : GlState) : Int :=
  if 127 < gltmp.id then 2 else gltmp.protocolversion

/-- What `cacheGetGL` leaves in a record on the stack. -/
def DdlBus.loco (bus : DdlBus) (memory : GlState) (addr : Int) : GlState :=
  (cacheGetGL bus.gl addr).2.getD memory

/-- What the bus thread does with a dequeued command.  `none` when a translation is
still running or the pool is locked. -/
def sendGl (fuel : Nat) (malloc : Option NmraPacket) (memory : GlState) (bus : DdlBus)
    (gltmp : GlState) : Option DdlBus :=
  let pv := sentVersion gltmp
  let sent :=
    if gltmp.protocol = 'M' then
      some (sendMaerklin bus.ddl gltmp (bus.loco memory gltmp.id) pv)
    else if gltmp.protocol = 'N' then
      (compNmraMultiFunc fuel malloc bus.ddl (nmraCall gltmp pv)).map Prod.snd
    else some bus.ddl
  sent.map fun ddl => { ddl := ddl, gl := (cacheSetGL bus.gl gltmp.id gltmp).2 }

/-! ## What is sent -/

/-- The commands that no composer takes: a reversal to emergency stop in the first
Maerklin version, 28 speed steps at an address above 80 in the second one, and a
packet that the first or second translation routine finds no bytes for. -/
def Dropped (nmradccTrV : Int) (gltmp : GlState) : Prop :=
  (gltmp.protocol = 'M' ∧ gltmp.protocolversion = 1 ∧ gltmp.direction = 2) ∨
    (gltmp.protocol = 'M' ∧ gltmp.protocolversion = 2 ∧ gltmp.nFs = 28 ∧ 80 < gltmp.id) ∨
    (gltmp.protocol = 'N' ∧ nmradccTrV ≠ 3 ∧
      ∃ stream ∈ (nmraCall gltmp (sentVersion gltmp)).streams, ¬ Translatable nmradccTrV stream)

/-- One packet in the old format, with the reversal code for a new direction. -/
def SendsM1 (before after : DdlData) (gltmp loco : GlState) (queued : List QData) : Prop :=
  ∃ data message, queued = [data] ∧ after.queue.added = before.queue.added ++ queued ∧
    data.addr = gltmp.id ∧ data.message = some message ∧ IsFor message gltmp.id ∧
    message.f0 = gltmp.funcs.getLsbD 0 ∧ message.part = none ∧
    message.speed = if gltmp.direction ≠ loco.direction then 1 else (maerklinSpeed gltmp).toNat

/-- Packets in the new format.  With 14 steps the speed is sent as it is, with 28
steps a decoder that ran at the cached speed ends at the new one; each packet tells
one more thing, and the pool has packets for everything. -/
def SendsM2 (before after : DdlData) (gltmp loco : GlState) (queued : List QData) : Prop :=
  ∃ speeds : List Nat,
    Sends before after gltmp.id gltmp.direction (gltmp.funcs.getLsbD 0) (maerklinFuncs gltmp) speeds
      queued ∧
    (∀ data ∈ queued, ∃ message, data.message = some message ∧ IsFor message gltmp.id) ∧
    (gltmp.nFs = 14 → speeds = [(maerklinSpeed gltmp).toNat]) ∧
    (gltmp.nFs = 28 → speeds ≠ [] ∧
      speeds.foldl receive (doubleStep loco.speed) = doubleStep (maerklinSpeed gltmp)) ∧
    (gltmp.direction = 2 → ∀ speed ∈ speeds, speed = 0)

/-- The direction and the step of a command as they are sent in NMRA packets: steps
from 2 on, at most 127; emergency stop for direction 2. -/
def nmraForward (gltmp : GlState) : Bool := gltmp.direction = 1

/-- The speed step that an NMRA decoder is to run at, with 1 for the emergency stop. -/
def nmraStep (gltmp : GlState) : Nat :=
  if gltmp.direction = 2 then 1
  else if gltmp.speed = 0 then 0
  else (min (gltmp.speed + 1) 127).toNat

/-- Packets whose streams drive the locomotive. -/
def SendsN (before after : DdlData) (gltmp : GlState) (queued : List QData) : Prop :=
  let call := nmraCall gltmp (sentVersion gltmp)
  after.queue.added = before.queue.added ++ queued ∧
    List.Forall₂ (fun data stream => data.Carries before.nmradccTrV
      (multiFuncAdr call.address call.mode) stream) queued call.streams ∧
    Drives call.streams (givenAddress gltmp.id (sentVersion gltmp)) (nmraForward gltmp)
      (nmraStep gltmp) gltmp.funcs.getLsbD gltmp.nFunc

/-- What the bus sends for a command. -/
structure DdlBus.SendsGl (before after : DdlBus) (gltmp loco : GlState) (queued : List QData) :
    Prop where
  nonempty : queued ≠ []
  m1 : gltmp.protocol = 'M' → gltmp.protocolversion = 1 →
    SendsM1 before.ddl after.ddl gltmp loco queued
  m2 : gltmp.protocol = 'M' → gltmp.protocolversion = 2 →
    SendsM2 before.ddl after.ddl gltmp loco queued
  n : gltmp.protocol = 'N' → SendsN before.ddl after.ddl gltmp queued

theorem initGlDDL_eq_ok {gl : GlState} (accepted : initGlDDL gl = .ok) :
    (gl.protocol = 'M' ∧ gl.protocolversion = 1 ∧ gl.nFs = 14 ∧ 0 ≤ gl.id ∧ gl.id < 80) ∨
      (gl.protocol = 'M' ∧ gl.protocolversion = 2 ∧ (gl.nFs = 14 ∨ gl.nFs = 28) ∧ 0 ≤ gl.id ∧
        gl.id ≤ 255) ∨
      (gl.protocol = 'N' ∧ (gl.protocolversion = 1 ∧ gl.id < 128 ∨
        gl.protocolversion = 2 ∧ gl.id < 10240) ∧ (gl.nFs = 28 ∨ gl.nFs = 128) ∧
        0 ≤ gl.nFunc) := by
  rw [initGlDDL] at accepted
  split_ifs at accepted with motorola _ first inFirst second inSecond nmra functions short inShort
    long inLong
  · exact Or.inl ⟨motorola, first, inFirst.2.2.1, inFirst.1, inFirst.2.1⟩
  · exact Or.inr (Or.inl ⟨motorola, second, inSecond.2.2.1, inSecond.1, inSecond.2.1⟩)
  · exact Or.inr (Or.inr ⟨nmra, Or.inl ⟨short, inShort.2.1⟩, inShort.2.2, by omega⟩)
  · exact Or.inr (Or.inr ⟨nmra, Or.inr ⟨long, inLong.2.1⟩, inLong.2.2, by omega⟩)

theorem maerklinSpeed_range {gltmp : GlState} (speed : 0 ≤ gltmp.speed ∧ gltmp.speed ≤ gltmp.nFs)
    (steps : gltmp.nFs = 14 ∨ gltmp.nFs = 28) :
    (0 ≤ maerklinSpeed gltmp ∧ maerklinSpeed gltmp ≤ gltmp.nFs) ∧ maerklinSpeed gltmp ≠ 1 := by
  rw [maerklinSpeed]
  split_ifs <;> omega

theorem isFor_messageOf {address : Int} (range : 0 ≤ address ∧ address ≤ 255) (func : Bool)
    (speed : Nat) (part : Part) : IsFor (messageOf address func speed part) address :=
  isFor_of_code range rfl

theorem sendMaerklin_m1 (ddl : DdlData) {gltmp : GlState} (loco : GlState)
    (steps : gltmp.nFs = 14) (address : 0 ≤ gltmp.id ∧ gltmp.id < 80)
    (speed : 0 ≤ gltmp.speed ∧ gltmp.speed ≤ gltmp.nFs)
    (direction : 0 ≤ gltmp.direction ∧ gltmp.direction ≤ 1) :
    ∃ queued, queued ≠ [] ∧ SendsM1 ddl (sendMaerklin ddl gltmp loco 1) gltmp loco queued := by
  have range := (maerklinSpeed_range speed (Or.inl steps)).1
  rw [steps] at range
  have inRange : 0 ≤ gltmp.id ∧ gltmp.id ≤ 80 := by omega
  rcases compMaerklin1_sends ddl (gltmp.funcs.getLsbD 0) loco.direction inRange direction
    ⟨range.1, range.2.trans (by decide)⟩ with ⟨data, added, addr, message⟩
  refine ⟨[data], List.cons_ne_nil _ _, data, _, rfl, ?_, addr, message, ?_, rfl, rfl, rfl⟩
  · rw [sendMaerklin, if_pos rfl]
    exact added
  · apply isFor_of_code _ rfl
    omega

/-- Everything the packets of a run of calls are, besides the speeds. -/
theorem Sends.isFor {before after : DdlData} {address direction : Int} {func : Bool}
    {f : Fin 4 → Bool} {speeds : List Nat} {queued : List QData}
    (sends : Sends before after address direction func f speeds queued)
    (range : 0 ≤ address ∧ address ≤ 255) :
    ∀ data ∈ queued, ∃ message, data.message = some message ∧ IsFor message address := by
  intro data mem
  rcases List.forall₂_iff_get.mp sends.packets with ⟨_, each⟩
  rcases List.mem_iff_get.mp mem with ⟨i, rfl⟩
  rcases (each i.1 i.2 (by rw [← sends.packets.length_eq]; exact i.2)).2 with ⟨part, _, message⟩
  exact ⟨_, message, isFor_messageOf range _ _ _⟩

theorem Sends.nonempty {before after : DdlData} {address direction : Int} {func : Bool}
    {f : Fin 4 → Bool} {speeds : List Nat} {queued : List QData}
    (sends : Sends before after address direction func f speeds queued) (some : speeds ≠ []) :
    queued ≠ [] := by
  rintro rfl
  exact some (List.forall₂_nil_left_iff.mp sends.packets)

theorem sendMaerklin_m2 (ddl : DdlData) {gltmp : GlState} (loco : GlState)
    (steps : gltmp.nFs = 14 ∨ gltmp.nFs = 28) (address : 0 ≤ gltmp.id ∧ gltmp.id ≤ 255)
    (speed : 0 ≤ gltmp.speed ∧ gltmp.speed ≤ gltmp.nFs)
    (taken : ¬ (gltmp.nFs = 28 ∧ 80 < gltmp.id)) :
    ∃ queued, queued ≠ [] ∧ SendsM2 ddl (sendMaerklin ddl gltmp loco 2) gltmp loco queued := by
  rcases maerklinSpeed_range speed steps with ⟨range, notOne⟩
  have stop (stopped : gltmp.direction = 2) : maerklinSpeed gltmp = 0 := by
    rw [maerklinSpeed, if_pos stopped]
  rcases steps with steps | steps
  · have noFive : ¬ (gltmp.nFs = 28 ∧ gltmp.id ≤ 80) := by omega
    have inRange : 0 ≤ maerklinSpeed gltmp ∧ maerklinSpeed gltmp ≤ 15 := by omega
    have sends : ∃ queued, Sends ddl (sendMaerklin ddl gltmp loco 2) gltmp.id gltmp.direction
        (gltmp.funcs.getLsbD 0) (maerklinFuncs gltmp) [(maerklinSpeed gltmp).toNat] queued := by
      rw [sendMaerklin]
      dsimp only
      rw [if_neg (by decide), if_pos rfl, if_neg noFive, if_pos steps]
      split
      · rename_i low
        rw [← sentSpeed_of_ne_one true range.1 notOne]
        exact (compMaerklinType2_sends true ddl gltmp.direction _ _ ⟨address.1, low⟩ inRange).2
      · rw [← sentSpeed_of_ne_one false range.1 notOne]
        exact (compMaerklinType2_sends false ddl gltmp.direction _ _ address inRange).2
    rcases sends with ⟨queued, sends⟩
    refine ⟨queued, sends.nonempty (List.cons_ne_nil _ _), _, sends, sends.isFor address,
      fun _ => rfl, ?_, ?_⟩
    · intro five
      omega
    · intro stopped speed mem
      rw [List.mem_singleton.mp mem, stop stopped]
      rfl
  · have five : gltmp.nFs = 28 ∧ gltmp.id ≤ 80 := by omega
    rw [steps] at range
    have noFourteen : ¬ gltmp.nFs = 14 := by omega
    rcases compMaerklin5_sends ddl gltmp.direction (gltmp.funcs.getLsbD 0) (maerklinFuncs gltmp)
      loco.speed ⟨address.1, five.2⟩ range notOne with ⟨queued, sends⟩
    have sent : sendMaerklin ddl gltmp loco 2 = (compMaerklin5 ddl gltmp.id gltmp.direction
        (maerklinSpeed gltmp) (gltmp.funcs.getLsbD 0) (maerklinFuncs gltmp) loco.speed).2 := by
      rw [sendMaerklin]
      dsimp only
      rw [if_neg (by decide), if_pos rfl, if_pos five, if_neg noFourteen]
    rw [← sent] at sends
    have some : stepSpeeds (maerklinSpeed gltmp) loco.speed ≠ [] := by
      rw [stepSpeeds]
      split <;> exact List.cons_ne_nil _ _
    refine ⟨queued, sends.nonempty some, _, sends, sends.isFor address, ?_, ?_, ?_⟩
    · intro fourteen
      omega
    · intro _
      exact ⟨some, foldl_receive_stepSpeeds loco.speed range notOne⟩
    · intro stopped speed mem
      rw [stop stopped] at mem
      exact List.mem_singleton.mp mem

theorem sentVersion_eq {gltmp : GlState}
    (version : gltmp.protocolversion = 1 ∧ gltmp.id < 128 ∨
      gltmp.protocolversion = 2 ∧ gltmp.id < 10240) :
    sentVersion gltmp = gltmp.protocolversion := by
  rw [sentVersion]
  split <;> omega

/-- The call for an accepted locomotive passes the range check. -/
theorem nmraCall_accepted {gltmp : GlState} (positive : 0 < gltmp.id)
    (version : gltmp.protocolversion = 1 ∧ gltmp.id < 128 ∨
      gltmp.protocolversion = 2 ∧ gltmp.id < 10240)
    (speed : 0 ≤ gltmp.speed ∧ gltmp.speed ≤ gltmp.nFs)
    (direction : 0 ≤ gltmp.direction ∧ gltmp.direction ≤ 2) :
    (nmraCall gltmp gltmp.protocolversion).accepted = true := by
  rw [MultiFuncCall.accepted, multiFuncAccepts_iff, nmraCall]
  split_ifs <;> dsimp only <;> omega

theorem nmraCall_drives {gltmp : GlState}
    (version : gltmp.protocolversion = 1 ∨ gltmp.protocolversion = 2)
    (steps : gltmp.nFs = 28 ∨ gltmp.nFs = 128)
    (accepted : (nmraCall gltmp gltmp.protocolversion).accepted = true) :
    Drives (nmraCall gltmp gltmp.protocolversion).streams
      (givenAddress gltmp.id gltmp.protocolversion) (nmraForward gltmp) (nmraStep gltmp)
      gltmp.funcs.getLsbD gltmp.nFunc := by
  by_cases halt : gltmp.direction = 2
  · have call : nmraCall gltmp gltmp.protocolversion =
        ⟨gltmp.id, 0, 1, gltmp.funcs, gltmp.nFs, gltmp.nFunc, gltmp.protocolversion⟩ := by
      rw [nmraCall, if_neg (not_not.mpr halt)]
    have forward : nmraForward gltmp = decide ((0 : Int) = 1) := by
      rw [nmraForward, halt]
      rfl
    have step : nmraStep gltmp = (min (1 : Int) 127).toNat := by
      rw [nmraStep, if_pos halt]
      rfl
    rw [call] at accepted ⊢
    rw [forward, step]
    exact handedStreams_drive gltmp.funcs version steps accepted
  · have step : nmraStep gltmp =
        (min (if gltmp.speed ≠ 0 then gltmp.speed + 1 else gltmp.speed) 127).toNat := by
      rw [nmraStep, if_neg halt]
      by_cases stop : gltmp.speed = 0
      · rw [if_pos stop, if_neg (not_not.mpr stop), stop]
        rfl
      · rw [if_neg stop, if_pos stop]
    have call : nmraCall gltmp gltmp.protocolversion = ⟨gltmp.id, gltmp.direction,
        if gltmp.speed ≠ 0 then gltmp.speed + 1 else gltmp.speed, gltmp.funcs, gltmp.nFs,
        gltmp.nFunc, gltmp.protocolversion⟩ := by
      rw [nmraCall, if_pos halt]
    rw [call] at accepted ⊢
    rw [step, nmraForward]
    exact handedStreams_drive gltmp.funcs version steps accepted

theorem MultiFuncCall.streams_ne_nil (call : MultiFuncCall) : call.streams ≠ [] :=
  List.cons_ne_nil _ _

/-- With the third routine nothing is left untranslated. -/
theorem translatable_of_kept {nmradccTrV : Int} {gltmp : GlState} (nmra : gltmp.protocol = 'N')
    (kept : ¬ Dropped nmradccTrV gltmp) :
    ∀ stream ∈ (nmraCall gltmp (sentVersion gltmp)).streams, Translatable nmradccTrV stream := by
  intro stream mem
  by_cases third : nmradccTrV = 3
  · rw [third]
    rcases translatable_v3 (MultiFuncCall.preamble_prefix mem) with
      ⟨fuel, n, packetstream, finished, bytes, _⟩
    exact ⟨fuel, n, packetstream, finished, bytes⟩
  · by_contra untranslatable
    exact kept (Or.inr (Or.inr ⟨nmra, third, stream, mem, untranslatable⟩))

/-- For every accepted locomotive and every command for it with a speed and a
direction in range that is not dropped: with enough fuel the bus thread ends,
unless the NMRA pool is locked for ever, and then the cache has the command and
packets for exactly this locomotive are in the queue.  They say the speed, the
direction and the functions as their protocol does. -/
theorem sendGl_sends (malloc : Option NmraPacket) (memory : GlState) (bus : DdlBus)
    (gltmp : GlState) (accepted : initGlDDL gltmp = .ok) (valid : bus.gl.isValid gltmp.id = true)
    (speed : 0 ≤ gltmp.speed ∧ gltmp.speed ≤ gltmp.nFs)
    (direction : 0 ≤ gltmp.direction ∧ gltmp.direction ≤ 2)
    (kept : ¬ Dropped bus.ddl.nmradccTrV gltmp) :
    ∃ enough, ∀ fuel, enough ≤ fuel →
      (bus.ddl.nmraPacketPool.locked = false →
        ∃ next, sendGl fuel malloc memory bus gltmp = some next) ∧
      ∀ next, sendGl fuel malloc memory bus gltmp = some next →
        next.gl = (cacheSetGL bus.gl gltmp.id gltmp).2 ∧
        ∃ queued, bus.SendsGl next gltmp (bus.loco memory gltmp.id) queued := by
  have positive : 0 < gltmp.id := by
    simp only [Gl.isValid, Bool.and_eq_true, decide_eq_true_eq] at valid
    exact valid.1.2
  rcases initGlDDL_eq_ok accepted with ⟨motorola, version, steps, address⟩ |
    ⟨motorola, version, steps, address⟩ | ⟨nmra, version, steps, _⟩
  · have sent : sentVersion gltmp = 1 := by
      rw [sentVersion, if_neg (by omega), version]
    have notStop : gltmp.direction ≠ 2 := fun stop => kept (Or.inl ⟨motorola, version, stop⟩)
    rcases sendMaerklin_m1 bus.ddl (bus.loco memory gltmp.id) steps address speed
      ⟨direction.1, by omega⟩ with ⟨queued, nonempty, sends⟩
    refine ⟨0, fun fuel _ => ?_⟩
    rw [sendGl, if_pos motorola, sent]
    refine ⟨fun _ => ⟨_, rfl⟩, ?_⟩
    rintro next ⟨⟩
    refine ⟨rfl, queued, nonempty, fun _ _ => sends, ?_, ?_⟩
    · intro _ second
      omega
    · intro nmra
      rw [motorola] at nmra
      cases nmra
  · have sent : sentVersion gltmp = 2 := by
      rw [sentVersion]
      split <;> omega
    have taken : ¬ (gltmp.nFs = 28 ∧ 80 < gltmp.id) :=
      fun above => kept (Or.inr (Or.inl ⟨motorola, version, above⟩))
    rcases sendMaerklin_m2 bus.ddl (bus.loco memory gltmp.id) steps address speed taken with
      ⟨queued, nonempty, sends⟩
    refine ⟨0, fun fuel _ => ?_⟩
    rw [sendGl, if_pos motorola, sent]
    refine ⟨fun _ => ⟨_, rfl⟩, ?_⟩
    rintro next ⟨⟩
    refine ⟨rfl, queued, nonempty, ?_, fun _ _ => sends, ?_⟩
    · intro _ first
      omega
    · intro nmra
      rw [motorola] at nmra
      cases nmra
  · have sent := sentVersion_eq version
    have other : gltmp.protocol ≠ 'M' := by
      rw [nmra]
      decide
    have call := nmraCall_accepted positive version speed direction
    have translatable := translatable_of_kept nmra kept
    rw [sent] at translatable
    rcases Translatable.eventually translatable with ⟨enough, translated⟩
    refine ⟨enough, fun fuel le => ?_⟩
    rcases compNmraMultiFunc_sends malloc call (translated fuel le) with ⟨ends, sends⟩
    rw [sendGl, if_neg other, if_pos nmra, sent]
    constructor
    · intro unlocked
      rcases ends unlocked with ⟨result, done⟩
      rw [done]
      exact ⟨_, rfl⟩
    · intro next done
      rw [Option.map_map] at done
      rcases Option.map_eq_some_iff.mp done with ⟨result, composed, rfl⟩
      rcases sends result composed with ⟨queued, added, carries⟩
      refine ⟨rfl, queued, ?_, fun motorola => absurd motorola other,
        fun motorola => absurd motorola other, ?_⟩
      · rintro rfl
        exact MultiFuncCall.streams_ne_nil _ (List.forall₂_nil_left_iff.mp carries)
      · intro _
        rw [SendsN, sent]
        exact ⟨added, carries, nmraCall_drives (by omega) steps call⟩

/-- A call for which one stream has no translation changes nothing. -/
theorem compNmraMultiFunc_untranslatable {fuel : Nat} {malloc : Option NmraPacket} {ddl : DdlData}
    {call : MultiFuncCall} {result : Nat × DdlData}
    (untranslatable : ∃ stream ∈ call.streams, ¬ Translatable ddl.nmradccTrV stream)
    (done : compNmraMultiFunc fuel malloc ddl call = some result) : result.2 = ddl := by
  rw [compNmraMultiFunc] at done
  by_cases accepted : call.accepted = true
  · rw [if_neg (by rw [accepted]; decide)] at done
    rcases Option.bind_eq_some_iff.mp done with ⟨⟨j, packetstream⟩, first, done⟩
    rcases Option.bind_eq_some_iff.mp done with ⟨⟨jj, packetstream2⟩, second, done⟩
    dsimp only at done
    split at done
    · rename_i bytes
      rcases untranslatable with ⟨stream, mem, none⟩
      simp only [MultiFuncCall.streams, handedStreams] at mem
      rcases List.mem_cons.mp mem with rfl | mem
      · exact absurd ⟨fuel, j, packetstream, first, bytes.1⟩ none
      · rw [Option.mem_toList] at mem
        rw [mem] at second
        exact absurd ⟨fuel, jj, packetstream2, second, bytes.2⟩ none
    · cases done
      rfl
  · rw [if_pos (by rw [Bool.not_eq_true] at accepted; rw [accepted]; rfl)] at done
    cases done
    rfl

/-- Nothing is sent for a dropped command, but the cache has it. -/
theorem sendGl_dropped {fuel : Nat} {malloc : Option NmraPacket} {memory : GlState}
    {bus next : DdlBus} {gltmp : GlState} (accepted : initGlDDL gltmp = .ok)
    (dropped : Dropped bus.ddl.nmradccTrV gltmp)
    (executed : sendGl fuel malloc memory bus gltmp = some next) :
    next.ddl = bus.ddl ∧ next.gl = (cacheSetGL bus.gl gltmp.id gltmp).2 := by
  rw [sendGl] at executed
  rcases Option.map_eq_some_iff.mp executed with ⟨ddl, sent, rfl⟩
  refine ⟨?_, rfl⟩
  rcases dropped with ⟨motorola, version, stop⟩ | ⟨motorola, version, steps, above⟩ |
    ⟨nmra, _, untranslatable⟩
  · rcases initGlDDL_eq_ok accepted with ⟨_, _, _, _, low⟩ | ⟨_, second, _⟩ | ⟨nmra, _⟩
    · have pv : sentVersion gltmp = 1 := by
        rw [sentVersion, if_neg (by omega), version]
      rw [if_pos motorola, pv] at sent
      cases sent
      have rejected (speed : Int) : maerklin1Accepts gltmp.id 2 speed = false := by
        simp [maerklin1Accepts]
      rw [sendMaerklin, if_pos rfl, compMaerklin1, stop, if_pos (by rw [rejected]; rfl)]
    · omega
    · rw [motorola] at nmra
      cases nmra
  · have pv : sentVersion gltmp = 2 := by
      rw [sentVersion]
      split <;> omega
    have noFourteen : ¬ gltmp.nFs = 14 := by omega
    have noFive : ¬ (gltmp.nFs = 28 ∧ gltmp.id ≤ 80) := by omega
    rw [if_pos motorola, pv, sendMaerklin] at sent
    dsimp only at sent
    rw [if_neg (by decide), if_pos rfl, if_neg noFive, if_neg noFourteen] at sent
    cases sent
    rfl
  · have other : gltmp.protocol ≠ 'M' := by
      rw [nmra]
      decide
    rw [if_neg other, if_pos nmra] at sent
    rcases Option.map_eq_some_iff.mp sent with ⟨result, composed, rfl⟩
    exact compNmraMultiFunc_untranslatable untranslatable composed

/-- A bus on which every locomotive runs forwards, without functions. -/
def runningBus (ddl : DdlData) : DdlBus where
  ddl := ddl
  gl :=
    { configured := true
      numberOfGl := 255
      glstate := fun addr => { GlState.zero with state := 1, id := addr, direction := 1 }
      clock := 0 }

/-- Address 3 backwards at step 5 of 14, with F1. -/
def reverseWithF1 : GlState :=
  { GlState.zero with
    protocol := 'M', protocolversion := 2, nFs := 14, nFunc := 5, id := 3, speed := 5, funcs := 2 }

theorem sendGl_sends_reverseWithF1 :
    ∃ enough, ∀ fuel, enough ≤ fuel →
      ((runningBus maerklinBus).ddl.nmraPacketPool.locked = false →
        ∃ next, sendGl fuel none .zero (runningBus maerklinBus) reverseWithF1 = some next) ∧
      ∀ next, sendGl fuel none .zero (runningBus maerklinBus) reverseWithF1 = some next →
        next.gl = (cacheSetGL (runningBus maerklinBus).gl 3 reverseWithF1).2 ∧
        ∃ queued, (runningBus maerklinBus).SendsGl next reverseWithF1
          ((runningBus maerklinBus).loco .zero 3) queued := by
  apply sendGl_sends none .zero (runningBus maerklinBus) reverseWithF1 rfl rfl (by decide)
    (by decide)
  rintro (⟨_, first, _⟩ | ⟨_, _, _, above⟩ | ⟨nmra, _⟩)
  · exact absurd first (by decide)
  · exact absurd above (by decide)
  · exact absurd nmra (by decide)

/-- A locomotive with 128 steps. -/
def nmraLoco (speed : Int) : GlState :=
  { GlState.zero with
    protocol := 'N', protocolversion := 1, nFs := 128, id := 3, speed := speed, direction := 1 }

/-- Emergency stop in the first Maerklin version. -/
def stopM1 : GlState :=
  { GlState.zero with
    protocol := 'M', protocolversion := 1, nFs := 14, nFunc := 1, id := 3, speed := 5,
    direction := 2 }

/-- The queue does not get everything a command says.  A new direction together
with F1 is one packet for F1 alone; speeds 126 and 128 are the same packets; and an
emergency stop in the first Maerklin version is in the cache, but in no packet. -/
theorem sendGl_not_all_told :
    ((sendGl 0 none .zero (runningBus maerklinBus) reverseWithF1).map fun next =>
        (next.ddl.queue.added.map QData.message, (next.gl.glstate 3).direction)) =
      some ([some (messageOf 3 false 5 (.function 1 true))], 0) ∧
    ((sendGl 200 none .zero (runningBus (nmraBus .empty)) (nmraLoco 126)).map fun next =>
        next.ddl.queue.added) =
      ((sendGl 200 none .zero (runningBus (nmraBus .empty)) (nmraLoco 128)).map fun next =>
        next.ddl.queue.added) ∧
    (sendGl 200 none .zero (runningBus (nmraBus .empty)) (nmraLoco 128)).isSome = true ∧
    ((sendGl 0 none .zero (runningBus maerklinBus) stopM1).map fun next =>
        (next.ddl.queue.added.length, (next.gl.glstate 3).direction)) = some (0, 2) := by
  refine ⟨?_, ?_, ?_, ?_⟩ <;> decide +kernel

end Srcpd.Ddl
