import Srcpd.Command.Gl

/-!
# Drivers that send differences

The DC-Car, Intellibox and LocoNet drivers compare a command for a locomotive
with the cached record and send messages only for what is different.
`Device.handle_stops_iff` says when that includes a stop, for a command that
asks for an emergency stop.
-/

namespace Srcpd.Driver

open Srcpd.Command

/-- The bytes written to the device for one message. -/
abbrev Message := List (BitVec 8)

/-- Conversion to `unsigned char`. -/
def byte (value : Int) : BitVec 8 :=
  BitVec.ofInt 8 value

theorem byte_toNat (value : Int) : ((byte value).toNat : Int) = value % 256 := by
  rw [byte, BitVec.toNat_ofInt]
  omega

theorem byte_shiftRight_toNat (value : Int) :
    ((byte (value >>> (8 : Nat))).toNat : Int) = value / 256 % 256 := by
  rw [byte_toNat, Int.shiftRight_eq_div_pow]
  rfl

/-! ## DC-Car -/

/-- Address low and address high. -/
def setAddressBytes (id : Int) : BitVec 8 × BitVec 8 :=
  (byte (id.tmod 64), byte (id.tdiv 64 + 64))

/-- The speed byte of a DCCar, with 0 for what is out of range. -/
def speedByte (speed : Int) : BitVec 8 :=
  if speed < 8 then byte (speed + 200)
  else if speed < 16 then byte (speed + 208)
  else if speed < 24 then byte (speed + 216)
  else if speed ≤ 28 then byte (speed + 224)
  else 200

/-- Six functions in the low bits. -/
def functionByte (f : Fin 6 → Bool) : BitVec 8 :=
  128 + (if f 0 then 1 else 0) + (if f 1 then 2 else 0) + (if f 2 then 4 else 0) +
    (if f 3 then 8 else 0) + (if f 4 then 16 else 0) + (if f 5 then 32 else 0)

/-- The messages, and what is handed to `cacheSetGL`; `mode` is whether the cars
are DC-Cars and not Infracars. -/
def handleGlCommand (mode : Bool) (gltmp glakt : GlState) : List Message × GlState :=
  let gltmp :=
    if gltmp.direction = 2 then
      { gltmp with speed := 0, direction := if glakt.direction = 0 then 1 else 0 }
    else gltmp
  let address := setAddressBytes gltmp.id
  let speed :=
    if gltmp.speed ≠ glakt.speed then [[address.1, address.2, speedByte gltmp.speed]] else []
  let functions :=
    if gltmp.funcs ≠ glakt.funcs then
      (if gltmp.funcs &&& 126 ≠ glakt.funcs &&& 126 then
        [[address.1, address.2, functionByte fun i => gltmp.funcs.getLsbD (i + 1)]]
      else []) ++
      (if gltmp.funcs &&& 3969 ≠ glakt.funcs &&& 3969 ∧ mode then
        [[address.1, address.2 + 32,
          functionByte fun i => gltmp.funcs.getLsbD (if i = 0 then 0 else i + 6)]]
      else [])
    else []
  (speed ++ functions, gltmp)

/-! ## Intellibox -/

/-- `SPEED_STEPS` of the Intellibox. -/
def speedSteps : Int := 126

/-- `XLok`. -/
def xLok : BitVec 8 := 0x80

/-- `XFunc`. -/
def xFunc : BitVec 8 := 0x88

/-- `XFuncX`. -/
def xFuncX : BitVec 8 := 0x89

/-- `XFunc34`. -/
def xFunc34 : BitVec 8 := 0x8a

/-- `accepted` is whether the answer of the box to the first message is one of
those the driver goes on after.  `none` is a division by zero. -/
def sendCommandGlIB (accepted : Bool) (gltmp glakt : GlState) :
    Option (List Message × Option GlState) :=
  if gltmp.direction ≠ glakt.direction ∨ gltmp.speed ≠ glakt.speed ∨
      gltmp.funcs ≠ glakt.funcs then
    let speed : Option (BitVec 8) :=
      if gltmp.direction = 2 then some 1
      else if glakt.nFs = 0 then none
      else
        let scaled := byte ((int32 (gltmp.speed * speedSteps)).tdiv glakt.nFs)
        some (if 0 < scaled then scaled + 1 else scaled)
    let low := byte gltmp.id
    let high := byte (gltmp.id >>> (8 : Nat))
    let flags :=
      ((gltmp.funcs >>> 1).setWidth 8 + (if gltmp.funcs.getLsbD 0 then 0x10 else 0)) ||| 0xc0 |||
        (if gltmp.direction ≠ 0 then 0x20 else 0)
    let functions :=
      if accepted then
        (if 5 < gltmp.nFunc then [[xFunc, low, high, (gltmp.funcs >>> 1).setWidth 8]] else []) ++
        (if 9 < gltmp.nFunc then [[xFuncX, low, high, (gltmp.funcs >>> 9).setWidth 8]] else []) ++
        (if 17 < gltmp.nFunc then
          [[xFunc34, low, high, (gltmp.funcs >>> 17).setWidth 8,
            (gltmp.funcs >>> 25).setWidth 8 &&& 0x0f]]
        else [])
      else []
    speed.map fun speed =>
      ([xLok, low, high, speed, flags] :: functions, if accepted then some gltmp else none)
  else some ([], none)

/-! ## LocoNet -/

/-- `OPC_LOCO_SPD`. -/
def opcLocoSpd : BitVec 8 := 0xa0

/-- `OPC_LOCO_DIRF`. -/
def opcLocoDirf : BitVec 8 := 0xa1

/-- `OPC_LOCO_SND`. -/
def opcLocoSnd : BitVec 8 := 0xa2

/-- -1 when no slot has the address. -/
def cacheGetSlotNumberforAddr (slotmap : Nat → Nat) (addr : Int) : Int :=
  match (List.range' 1 127).find? fun i => (slotmap i : Int) = addr with
  | some i => i
  | none => -1

/-- Speed step 1 is an emergency stop. -/
def locoSpeed (speed : Int) : BitVec 8 :=
  byte (speed + if 0 < speed then 1 else 0)

/-- The messages, without the checksum that `ln_sendmessage` appends. -/
def sendGlLoconet (slotmap : Nat → Nat) (gltmp glcur : GlState) : List Message × GlState :=
  let slot := byte (cacheGetSlotNumberforAddr slotmap gltmp.id)
  let speed :=
    if gltmp.speed ≠ glcur.speed then [[opcLocoSpd, slot, locoSpeed gltmp.speed]] else []
  let direction :=
    if gltmp.direction ≠ glcur.direction ∨ gltmp.funcs &&& 0x1f ≠ glcur.funcs &&& 0x1f then
      [[opcLocoDirf, slot,
        (if gltmp.direction ≠ 0 then 0 else 0x20) +
          (if gltmp.funcs.getLsbD 0 then 0x10 else 0) +
          ((gltmp.funcs >>> 1).setWidth 8 &&& 0x0f)]]
    else []
  let sound :=
    if gltmp.funcs &&& 0x1e0 ≠ glcur.funcs &&& 0x1e0 then
      [[opcLocoSnd, slot, (gltmp.funcs >>> 5).setWidth 8 &&& 0x0f]]
    else []
  (speed ++ direction ++ sound, gltmp)

/-! ## The three drivers -/

/-- The drivers whose locomotive commands are compared. -/
inductive Device
  | dccar (mode : Bool)
  | intellibox
  | loconet

/-- The messages for a command and what is stored behind them, if anything.
`slotmap` is the table of the LocoNet driver, `accepted` the answer of the
Intellibox. -/
def Device.handle (device : Device) (slotmap : Nat → Nat) (accepted : Bool)
    (gltmp glakt : GlState) : Option (List Message × Option GlState) :=
  match device with
  | .dccar mode =>
      let result := handleGlCommand mode gltmp glakt
      some (result.1, some result.2)
  | .intellibox => sendCommandGlIB accepted gltmp glakt
  | .loconet =>
      let result := sendGlLoconet slotmap gltmp glakt
      some (result.1, some result.2)

/-- A stop or an emergency stop of the locomotive. -/
def Device.IsStop (device : Device) (slotmap : Nat → Nat) (id : Int) (message : Message) : Prop :=
  match device with
  | .dccar _ => message = [(setAddressBytes id).1, (setAddressBytes id).2, 200]
  | .intellibox =>
      ∃ speed flags, (speed = 0 ∨ speed = 1) ∧
        message = [xLok, byte id, byte (id >>> (8 : Nat)), speed, flags]
  | .loconet =>
      ∃ (slot : Nat) (speed : BitVec 8), slot ∈ List.range' 1 127 ∧ (slotmap slot : Int) = id ∧
        (speed = 0 ∨ speed = 1) ∧ message = [opcLocoSpd, BitVec.ofNat 8 slot, speed]

/-- The record differs from the stop command in what the driver compares; the
LocoNet driver has to know the slot of the locomotive as well. -/
def Device.Differs (device : Device) (slotmap : Nat → Nat) (gltmp glakt : GlState) : Prop :=
  match device with
  | .dccar _ => glakt.speed ≠ 0
  | .intellibox =>
      glakt.direction ≠ gltmp.direction ∨ glakt.speed ≠ gltmp.speed ∨ glakt.funcs ≠ gltmp.funcs
  | .loconet =>
      glakt.speed ≠ gltmp.speed ∧ (locoSpeed gltmp.speed = 0 ∨ locoSpeed gltmp.speed = 1) ∧
        ∃ slot ∈ List.range' 1 127, (slotmap slot : Int) = gltmp.id

theorem functionByte_ne_stop (f : Fin 6 → Bool) : functionByte f ≠ 200 := by
  revert f
  decide

variable {gltmp glakt : GlState}

theorem handleGlCommand_stops_iff (mode : Bool) (emergency : gltmp.direction = 2) :
    (∃ message ∈ (handleGlCommand mode gltmp glakt).1,
      message = [(setAddressBytes gltmp.id).1, (setAddressBytes gltmp.id).2, 200]) ↔
      glakt.speed ≠ 0 := by
  rw [handleGlCommand, if_pos emergency]
  constructor
  · rintro ⟨message, mem, rfl⟩ stopped
    rw [stopped, if_neg (not_not.mpr rfl), List.nil_append] at mem
    dsimp only at mem
    split at mem
    · rcases List.mem_append.mp mem with mem | mem
      · split at mem
        · have same := List.mem_singleton.mp mem
          simp only [List.cons.injEq, and_true, true_and] at same
          exact functionByte_ne_stop _ same.symm
        · cases mem
      · split at mem
        · have same := List.mem_singleton.mp mem
          simp only [List.cons.injEq, and_true] at same
          exact functionByte_ne_stop _ same.2.2.symm
        · cases mem
    · cases mem
  · intro running
    refine ⟨_, List.mem_append_left _ ?_, rfl⟩
    rw [if_pos (Ne.symm running)]
    exact List.mem_singleton_self _

theorem sendCommandGlIB_stops_iff {accepted : Bool} {messages : List Message}
    {store : Option GlState} (emergency : gltmp.direction = 2)
    (handled : sendCommandGlIB accepted gltmp glakt = some (messages, store)) :
    (∃ message ∈ messages, ∃ speed flags, (speed = 0 ∨ speed = 1) ∧
      message = [xLok, byte gltmp.id, byte (gltmp.id >>> (8 : Nat)), speed, flags]) ↔
      glakt.direction ≠ gltmp.direction ∨ glakt.speed ≠ gltmp.speed ∨
        glakt.funcs ≠ gltmp.funcs := by
  rw [sendCommandGlIB, if_pos emergency] at handled
  split at handled
  · rename_i different
    dsimp only at handled
    rw [Option.map_some, Option.some.injEq, Prod.mk.injEq] at handled
    rw [← handled.1]
    constructor
    · intro _
      simpa only [ne_comm] using different
    · intro _
      exact ⟨_, List.mem_cons_self, 1, _, Or.inr rfl, rfl⟩
  · rename_i same
    cases handled
    constructor
    · rintro ⟨message, mem, _⟩
      cases mem
    · intro different
      exact absurd (by simpa only [ne_comm] using different) same

/-- The slot byte names a slot of the address exactly when there is one. -/
theorem cacheGetSlotNumberforAddr_slot (slotmap : Nat → Nat) (addr : Int) :
    (∃ slot ∈ List.range' 1 127, (slotmap slot : Int) = addr ∧
      byte (cacheGetSlotNumberforAddr slotmap addr) = BitVec.ofNat 8 slot) ↔
      ∃ slot ∈ List.range' 1 127, (slotmap slot : Int) = addr := by
  constructor
  · rintro ⟨slot, mem, same, _⟩
    exact ⟨slot, mem, same⟩
  · rintro ⟨slot, mem, same⟩
    have listed : ((List.range' 1 127).find? fun i => (slotmap i : Int) = addr).isSome := by
      rw [List.find?_isSome]
      exact ⟨slot, mem, by simpa using same⟩
    rcases Option.isSome_iff_exists.mp listed with ⟨first, found⟩
    refine ⟨first, List.mem_of_find?_eq_some found, ?_, ?_⟩
    · simpa using List.find?_some found
    · rw [cacheGetSlotNumberforAddr, found, byte]
      exact BitVec.ofInt_natCast 8 first

theorem sendGlLoconet_stops_iff (slotmap : Nat → Nat) :
    (∃ message ∈ (sendGlLoconet slotmap gltmp glakt).1, Device.loconet.IsStop slotmap gltmp.id
      message) ↔ Device.loconet.Differs slotmap gltmp glakt := by
  rw [sendGlLoconet, Device.Differs]
  dsimp only
  constructor
  · rintro ⟨message, mem, slot, speed, slotMem, slotAddr, isStop, rfl⟩
    rw [List.mem_append, List.mem_append] at mem
    rcases mem with (mem | mem) | mem
    · split at mem
      · rename_i different
        have same := List.mem_singleton.mp mem
        simp only [List.cons.injEq, and_true, true_and] at same
        rw [same.2] at isStop
        exact ⟨Ne.symm different, isStop, slot, slotMem, slotAddr⟩
      · cases mem
    · split at mem
      · have same := List.mem_singleton.mp mem
        simp [opcLocoSpd, opcLocoDirf] at same
      · cases mem
    · split at mem
      · have same := List.mem_singleton.mp mem
        simp [opcLocoSpd, opcLocoSnd] at same
      · cases mem
  · rintro ⟨different, isStop, known⟩
    rcases (cacheGetSlotNumberforAddr_slot slotmap gltmp.id).mpr known with
      ⟨slot, slotMem, slotAddr, slotByte⟩
    refine ⟨_, List.mem_append_left _ (List.mem_append_left _ ?_), slot, _, slotMem, slotAddr,
      isStop, rfl⟩
    rw [if_pos (Ne.symm different), slotByte]
    exact List.mem_singleton_self _

/-- A command that asks for an emergency stop makes the driver send a stop if and
only if the record differs from it. -/
theorem Device.handle_stops_iff (device : Device) (slotmap : Nat → Nat) {accepted : Bool}
    {messages : List Message} {store : Option GlState} (emergency : gltmp.direction = 2)
    (handled : device.handle slotmap accepted gltmp glakt = some (messages, store)) :
    (∃ message ∈ messages, device.IsStop slotmap gltmp.id message) ↔
      device.Differs slotmap gltmp glakt := by
  cases device with
  | dccar mode =>
      cases handled
      exact handleGlCommand_stops_iff mode emergency
  | intellibox => exact sendCommandGlIB_stops_iff emergency handled
  | loconet =>
      cases handled
      exact sendGlLoconet_stops_iff slotmap

/-- A record with another speed than 0 differs from a stop. -/
theorem Device.differs_of_running (device : Device) {slotmap : Nat → Nat}
    (stopped : gltmp.speed = 0) (running : glakt.speed ≠ 0)
    (known : ∃ slot ∈ List.range' 1 127, (slotmap slot : Int) = gltmp.id) :
    device.Differs slotmap gltmp glakt := by
  cases device with
  | dccar mode => exact running
  | intellibox =>
      right
      left
      rw [stopped]
      exact running
  | loconet =>
      rw [Device.Differs, stopped]
      exact ⟨running, Or.inl rfl, known⟩

end Srcpd.Driver
