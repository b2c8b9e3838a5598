import Srcpd.Driver.Li100Reports

/-!
# Locomotive commands of the LI100

`send_command_gl_LI100`: the messages that are sent for a command, which depend on
the version of the central unit, and the record that is stored when the last one
is answered.  `decode` reads a message as the central unit does.
`transmits_iff_fits` says which commands it gives back.
-/

namespace Srcpd.Driver.Li100

open Srcpd.Bits Srcpd.Command

/-! ## The driver -/

/-- The high byte of an address; long addresses have two more bits. -/
def addressHigh (addr : Int) : BitVec 8 :=
  if 99 < addr then byte (addr >>> (8 : Nat)) ||| 0xc0 else byte (addr >>> (8 : Nat))

/-- Speed for 14 and 128 steps. -/
def speed14 (speed : Int) : BitVec 8 :=
  if 0 < speed then byte speed + 1 else byte speed

/-- Speed for 27 and 28 steps. -/
def speed28 (speed : Int) : BitVec 8 :=
  let value := if 0 < speed then byte speed + 3 else byte speed
  let value := if value &&& 1 ≠ 0 then value ||| 0x20 else value
  value >>> 1

/-- Direction and light in the byte for the speed. -/
def speedFlags (gltmp : GlState) (value : BitVec 8) : BitVec 8 :=
  let value := if gltmp.direction ≠ 0 then value ||| 0x40 else value
  if gltmp.funcs.getLsbD 0 then value ||| 0x20 else value

/-- The telegram that stops one locomotive, which old stations know in a shorter form. -/
def emergencyStop (version : Nat) (gltmp : GlState) : Message :=
  if 0x0300 ≤ version then [0x92, addressHigh gltmp.id, byte gltmp.id] else [0x91, byte gltmp.id]

/-- Functions F1 to F4. -/
def functionsOld (gltmp : GlState) : BitVec 8 :=
  ((gltmp.funcs >>> 1) &&& 0x000f).setWidth 8

/-- Versions up to 1.50. -/
def sendV150 (gltmp : GlState) : Message :=
  [0xb3, byte gltmp.id, speedFlags gltmp (speed14 gltmp.speed), functionsOld gltmp]

/-- Versions between 1.50 and 3.00. -/
def sendV200 (gltmp : GlState) : Message :=
  if gltmp.nFs = 27 then
    [0xb4, byte gltmp.id, speedFlags gltmp (speed28 gltmp.speed), functionsOld gltmp, 0x01]
  else if gltmp.nFs = 28 then
    [0xb4, byte gltmp.id, speedFlags gltmp (speed28 gltmp.speed), functionsOld gltmp, 0x02]
  else [0xb4, byte gltmp.id, speedFlags gltmp (speed14 gltmp.speed), functionsOld gltmp, 0x00]

/-- The identification of a number of speed steps. -/
def stepMode (nFs : Int) : BitVec 8 :=
  if nFs = 14 then 0x10 else if nFs = 27 then 0x11 else if nFs = 28 then 0x12
  else if nFs = 126 then 0x13 else 0x12

/-- The test for 27 or 28 steps assigns 28. -/
def assignSteps (gltmp : GlState) : GlState :=
  if gltmp.nFs = 27 then gltmp else { gltmp with nFs := 28 }

/-- The speed is always sent as for 27 and 28 steps: the test behind the assignment holds. -/
def sendSpeed (gltmp : GlState) : Message :=
  let value := speed28 gltmp.speed
  [0xe4, stepMode gltmp.nFs, addressHigh gltmp.id, byte gltmp.id,
    if gltmp.direction ≠ 0 then value ||| 0x80 else value]

/-- A telegram with one group of functions. -/
def sendFunctions (gltmp : GlState) (identification value : BitVec 8) : Message :=
  [0xe4, identification, addressHigh gltmp.id, byte gltmp.id, value]

/-- F1 to F4 with F0 above them. -/
def functionsF0 (gltmp : GlState) : BitVec 8 :=
  let value := ((gltmp.funcs >>> 1) &&& 0x00ff).setWidth 8
  if gltmp.funcs.getLsbD 0 then value ||| 0x10 else value

/-- Versions from 3.00 on; functions above F12 since version 3.6. -/
def sendV300 (version : Nat) (gltmp : GlState) : List Message :=
  [sendSpeed gltmp, sendFunctions gltmp 0x20 (functionsF0 gltmp)] ++
    (if 5 < gltmp.nFunc then
      [sendFunctions gltmp 0x21 (((gltmp.funcs >>> 5) &&& 0x00ff).setWidth 8)] else []) ++
    (if 9 < gltmp.nFunc then
      [sendFunctions gltmp 0x22 (((gltmp.funcs >>> 9) &&& 0x00ff).setWidth 8)] else []) ++
    (if 0x0360 ≤ version ∧ 13 < gltmp.nFunc then
      [sendFunctions gltmp 0x23 (((gltmp.funcs >>> 13) &&& 0xffff).setWidth 8)] else []) ++
    (if 0x0360 ≤ version ∧ 21 < gltmp.nFunc then
      [sendFunctions gltmp 0x28 (((gltmp.funcs >>> 21) &&& 0xffff).setWidth 8)] else [])

/-- The messages, and what is stored.  `usb` is the driver for the USB interface, which
starts with version 3.00; `answered` is whether the last message was. -/
def sendCommandGl (usb : Bool) (version : Nat) (answered : Bool) (gltmp glakt : GlState) :
    List Message × Option GlState :=
  if gltmp.direction ≠ glakt.direction ∨ gltmp.speed ≠ glakt.speed ∨
      gltmp.funcs ≠ glakt.funcs then
    if gltmp.direction = 2 then
      ([emergencyStop version gltmp], if answered then some gltmp else none)
    else if ¬ usb ∧ version ≤ 0x0150 then
      ([sendV150 gltmp], if answered then some gltmp else none)
    else if ¬ usb ∧ version < 0x0300 then
      ([sendV200 gltmp], if answered then some gltmp else none)
    else (sendV300 version gltmp, if answered then some (assignSteps gltmp) else none)
  else ([], none)

/-! ## The central unit -/

/-- The groups in which functions are sent. -/
inductive Group
  | f0
  | f5
  | f9
  | f13
  | f21

/-- The functions of a group. -/
def Group.mask : Group → BitVec 32
  | .f0 => 0x1f
  | .f5 => 0x1e0
  | .f9 => 0x1e00
  | .f13 => 0x1fe000
  | .f21 => 0x1fe00000

/-- What a telegram orders. -/
inductive Order
  | stop
  | drive (speed : Int) (forward : Bool)
  | functions (group : Group) (values : BitVec 32)
  /-- Speed, direction and F0 to F4. -/
  | control (speed : Int) (forward : Bool) (values : BitVec 32)

/-- A telegram as the station reads it. -/
structure Meaning where
  addr : Nat
  order : Order

/-- The address in its two bytes. -/
def decodeAddress (high low : BitVec 8) : Option Nat :=
  if high = 0 then some low.toNat
  else if high &&& 0xc0 = 0xc0 then some ((high &&& 0x3f).toNat * 256 + low.toNat)
  else none

/-- A byte whose other bits are clear. -/
def only (mask value : BitVec 8) (order : Order) : Option Order :=
  if value &&& ~~~ mask = 0 then some order else none

/-- The meaning of a telegram of an old station, with all functions. -/
def decodeControl (steps14 : Bool) (value functions : BitVec 8) : Option Order :=
  (only (if steps14 then 0x6f else 0x7f) value .stop).bind fun _ =>
    only 0x0f functions (.control
      (if steps14 then stepOf14 (value &&& 0x0f) else stepOf28 value)
      (value.getLsbD 6) (lowFunctions functions (value.getLsbD 5)))

/-- The meaning of the data of a telegram by its identification. -/
def decodeOrder (identification value : BitVec 8) : Option Order :=
  if identification = 0x10 then
    only 0x8f value (.drive (stepOf14 (value &&& 0x0f)) (value.getLsbD 7))
  else if identification = 0x11 ∨ identification = 0x12 then
    only 0x9f value (.drive (stepOf28 value) (value.getLsbD 7))
  else if identification = 0x13 then
    some (.drive (stepOf14 (value &&& 0x7f)) (value.getLsbD 7))
  else if identification = 0x20 then
    only 0x1f value (.functions .f0 (lowFunctions value (value.getLsbD 4)))
  else if identification = 0x21 then only 0x0f value (.functions .f5 (widen value <<< 5))
  else if identification = 0x22 then only 0x0f value (.functions .f9 (widen value <<< 9))
  else if identification = 0x23 then some (.functions .f13 (widen value <<< 13))
  else if identification = 0x28 then some (.functions .f21 (widen value <<< 21))
  else none

/-- A message in the step mode that it announces; `none` when bits are set that have no
meaning in it. -/
def decode : Message → Option Meaning
  | [header, addr] => if header = 0x91 then some ⟨addr.toNat, .stop⟩ else none
  | [header, high, low] =>
      if header = 0x92 then (decodeAddress high low).map (⟨·, .stop⟩) else none
  | [header, addr, value, functions] =>
      if header = 0xb3 then (decodeControl true value functions).map (⟨addr.toNat, ·⟩) else none
  | [header, second, third, fourth, fifth] =>
      if header = 0xb4 then
        if fifth = 0 then (decodeControl true third fourth).map (⟨second.toNat, ·⟩)
        else if fifth = 1 ∨ fifth = 2 then
          (decodeControl false third fourth).map (⟨second.toNat, ·⟩)
        else none
      else if header = 0xe4 then
        (decodeAddress third fourth).bind fun addr =>
          (decodeOrder second fifth).map (⟨addr, ·⟩)
      else none
  | _ => none

/-! ## Commands that are given back -/

/-- An order says what the command says. -/
def Order.Is (gltmp : GlState) : Order → Prop
  | .stop => gltmp.direction = 2
  | .drive speed forward =>
      speed = gltmp.speed ∧ (if forward then 1 else 0) = gltmp.direction
  | .functions group values => values = gltmp.funcs &&& group.mask
  | .control speed forward values =>
      (speed = gltmp.speed ∧ (if forward then 1 else 0) = gltmp.direction) ∧
        values = gltmp.funcs &&& Group.f0.mask

/-- An order says something about a group. -/
def Order.Carries (group : Group) : Order → Prop
  | .functions other _ => other = group
  | .control _ _ _ => Group.f0 = group
  | _ => False

/-- A telegram means something that the command says. -/
def Decodes (gltmp : GlState) (message : Message) : Prop :=
  ∃ meaning ∈ decode message, (meaning.addr : Int) = gltmp.id ∧ meaning.order.Is gltmp

/-- The command has other functions in a group than the record. -/
def Group.Changed (gltmp glakt : GlState) (group : Group) : Prop :=
  gltmp.funcs &&& group.mask ≠ glakt.funcs &&& group.mask

/-- Each telegram says what the command says, each changed group is sent, and the stored
steps stay. -/
structure Transmits (gltmp glakt : GlState) (sent : List Message × Option GlState) : Prop where
  messages : ∀ message ∈ sent.1, Decodes gltmp message
  groups : ∀ group : Group, group.Changed gltmp glakt →
    ∃ message ∈ sent.1, ∃ meaning ∈ decode message, meaning.order.Carries group
  stored : ∀ stored ∈ sent.2, stored.nFs = gltmp.nFs

/-- A command for a number of steps that the driver distinguishes. -/
structure Accepted (gltmp : GlState) : Prop where
  id : 0 < gltmp.id
  nFs : gltmp.nFs = 14 ∨ gltmp.nFs = 27 ∨ gltmp.nFs = 28 ∨ gltmp.nFs = 126
  speed : 0 ≤ gltmp.speed ∧ gltmp.speed ≤ gltmp.nFs
  direction : 0 ≤ gltmp.direction ∧ gltmp.direction ≤ 2

/-- The groups that are sent from version 3.00 on. -/
def Group.Sent (version : Nat) (gltmp : GlState) : Group → Prop
  | .f0 => True
  | .f5 => 5 < gltmp.nFunc
  | .f9 => 9 < gltmp.nFunc
  | .f13 => 0x0360 ≤ version ∧ 13 < gltmp.nFunc
  | .f21 => 0x0360 ≤ version ∧ 21 < gltmp.nFunc

/-- The bits of other groups that would be sent with it are clear; F5 is sent as F0. -/
def Group.Alone (gltmp : GlState) : Group → Prop
  | .f0 => gltmp.funcs &&& (0x1c0 : BitVec 32) = 0 ∧
      (gltmp.funcs.getLsbD 5 = true → gltmp.funcs.getLsbD 0 = true)
  | .f5 => gltmp.funcs &&& (0x1e00 : BitVec 32) = 0
  | .f9 => gltmp.funcs &&& (0x1e000 : BitVec 32) = 0
  | _ => True

/-- With 14 and 126 steps only the speeds 0 and 1 are sent, and 28 is stored. -/
def FitsV300 (version : Nat) (answered : Bool) (gltmp glakt : GlState) : Prop :=
  gltmp.id ≤ 0x3fff ∧
    (gltmp.nFs = 27 ∨ gltmp.nFs = 28 ∨ (gltmp.speed ≤ 1 ∧ answered = false)) ∧
    ∀ group : Group, (group.Sent version gltmp → group.Alone gltmp) ∧
      (group.Changed gltmp glakt → group.Sent version gltmp)

/-- What a message of the version can carry. -/
def FitsGl (usb : Bool) (version : Nat) (answered : Bool) (gltmp glakt : GlState) : Prop :=
  (gltmp.direction ≠ glakt.direction ∨ gltmp.speed ≠ glakt.speed ∨ gltmp.funcs ≠ glakt.funcs) →
    if gltmp.direction = 2 then
      gltmp.id ≤ (if 0x0300 ≤ version then 0x3fff else 0xff) ∧
        ∀ group : Group, ¬ group.Changed gltmp glakt
    else if ¬ usb ∧ version < 0x0300 then
      gltmp.id ≤ 0xff ∧
        (version ≤ 0x0150 ∨ gltmp.nFs ≠ 27 ∧ gltmp.nFs ≠ 28 → gltmp.speed ≤ 14) ∧
        ∀ group : Group, group.Changed gltmp glakt → group = .f0
    else FitsV300 version answered gltmp glakt

/-! ## Addresses and speeds -/

/-- Long addresses have 14 bits. -/
theorem decodeAddress_eq_iff {id : Int} (positive : 0 < id) :
    (∃ addr ∈ decodeAddress (addressHigh id) (byte id), (addr : Int) = id) ↔ id ≤ 0x3fff := by
  have low := byte_toNat id
  by_cases long : 99 < id
  · have high := byte_shiftRight_toNat id
    have bits : ∀ value : BitVec 8, value ||| 0xc0 ≠ 0 ∧ (value ||| 0xc0) &&& 0xc0 = 0xc0 ∧
        ((value ||| 0xc0) &&& 0x3f).toNat = value.toNat % 64 := by
      decide
    obtain ⟨nonzero, marked, rest⟩ := bits (byte (id >>> (8 : Nat)))
    rw [addressHigh, if_pos long, decodeAddress, if_neg nonzero, if_pos marked]
    simp only [Option.mem_some_iff, exists_eq_left', rest]
    push_cast
    rw [high, low]
    omega
  · have high : byte (id >>> (8 : Nat)) = 0 := by
      rw [Int.shiftRight_eq_div_pow, show id / (2 ^ 8 : Nat) = 0 by omega]
      rfl
    rw [addressHigh, if_neg long, decodeAddress, if_pos high]
    simp only [Option.mem_some_iff, exists_eq_left', low]
    omega

theorem byte_toNat_eq_iff {id : Int} (positive : 0 < id) :
    ((byte id).toNat : Int) = id ↔ id ≤ 0xff := by
  simp only [byte, BitVec.toNat_ofInt]
  omega

/-- The byte for the speed in the formats of the versions before 3.00. -/
def flags (forward light : Bool) (value : BitVec 8) : BitVec 8 :=
  let value := if forward then value ||| 0x40 else value
  if light then value ||| 0x20 else value

theorem control14_iff : ∀ (speed : Fin 127) (forward light : Bool),
    (flags forward light (speed14 speed) &&& ~~~ 0x6f = 0 ∧
      stepOf14 (flags forward light (speed14 speed) &&& 0x0f) = speed ∧
      (flags forward light (speed14 speed)).getLsbD 6 = forward ∧
      (flags forward light (speed14 speed)).getLsbD 5 = light) ↔ (speed : Nat) ≤ 14 := by
  decide

theorem control28 : ∀ (speed : Fin 29) (forward light : Bool),
    flags forward light (speed28 speed) &&& ~~~ 0x7f = 0 ∧
      stepOf28 (flags forward light (speed28 speed)) = speed ∧
      (flags forward light (speed28 speed)).getLsbD 6 = forward ∧
      (flags forward light (speed28 speed)).getLsbD 5 = light := by
  decide

/-- The byte for the speed from version 3.00 on. -/
def driveByte (forward : Bool) (speed : Int) : BitVec 8 :=
  if forward then speed28 speed ||| 0x80 else speed28 speed

theorem drive28 : ∀ (speed : Fin 29) (forward : Bool),
    driveByte forward speed &&& ~~~ 0x9f = 0 ∧ stepOf28 (driveByte forward speed) = speed ∧
      (driveByte forward speed).getLsbD 7 = forward := by
  decide

/-- Speeds for 28 steps that are read as speeds for 14 steps. -/
theorem drive14_iff : ∀ (speed : Fin 15) (forward : Bool),
    (driveByte forward speed &&& ~~~ 0x8f = 0 ∧
      stepOf14 (driveByte forward speed &&& 0x0f) = speed ∧
      (driveByte forward speed).getLsbD 7 = forward) ↔ (speed : Nat) ≤ 1 := by
  decide

theorem drive126_iff : ∀ (speed : Fin 127) (forward : Bool),
    (stepOf14 (driveByte forward speed &&& 0x7f) = speed ∧
      (driveByte forward speed).getLsbD 7 = forward) ↔ (speed : Nat) ≤ 1 := by
  decide

/-! ## Functions -/

theorem functionsOld_within (gltmp : GlState) : functionsOld gltmp &&& ~~~ 0x0f = 0 := by
  rw [functionsOld]
  ext i inside
  interval_cases i <;> simp

theorem lowFunctions_functionsOld (gltmp : GlState) :
    lowFunctions (functionsOld gltmp) (gltmp.funcs.getLsbD 0) = gltmp.funcs &&& Group.f0.mask := by
  rw [functionsOld, lowFunctions, Group.mask]
  ext i inside
  cases light : gltmp.funcs.getLsbD 0 <;>
  interval_cases i <;> simp_all [widen]

theorem functionsF0_bits (gltmp : GlState) (i : Nat) (inside : i < 8) :
    (functionsF0 gltmp).getLsbD i =
      (gltmp.funcs.getLsbD (i + 1) || (decide (i = 4) && gltmp.funcs.getLsbD 0)) := by
  rw [functionsF0]
  cases light : gltmp.funcs.getLsbD 0 <;> interval_cases i <;> simp

theorem functionsF0_within_iff (gltmp : GlState) :
    functionsF0 gltmp &&& ~~~ 0x1f = 0 ↔ gltmp.funcs &&& (0x1c0 : BitVec 32) = 0 := by
  constructor
  · intro clear
    have bit (i : Nat) (inside : i < 8) :
        ((gltmp.funcs.getLsbD (i + 1) || (decide (i = 4) && gltmp.funcs.getLsbD 0)) &&
          (~~~ 0x1f : BitVec 8).getLsbD i) = false := by
      rw [← functionsF0_bits gltmp i inside, ← BitVec.getLsbD_and, clear]
      exact BitVec.getLsbD_zero
    have bit5 := bit 5 (by decide)
    have bit6 := bit 6 (by decide)
    have bit7 := bit 7 (by decide)
    simp at bit5 bit6 bit7
    ext i inside
    interval_cases i <;> simp_all
  · intro clear
    have bit (i : Nat) : (gltmp.funcs &&& (0x1c0 : BitVec 32)).getLsbD i = false := by
      rw [clear]
      exact BitVec.getLsbD_zero
    have bit6 := bit 6
    have bit7 := bit 7
    have bit8 := bit 8
    simp at bit6 bit7 bit8
    ext i inside
    rw [← BitVec.getLsbD_eq_getElem, BitVec.getLsbD_and, functionsF0_bits gltmp i inside]
    interval_cases i <;> simp_all

theorem lowFunctions_bits (functions : BitVec 8) (light : Bool) (i : Nat) (inside : i < 32) :
    (lowFunctions functions light).getLsbD i =
      if i = 0 then light else decide (i < 5) && functions.getLsbD (i - 1) := by
  rw [lowFunctions]
  cases light <;> interval_cases i <;> simp [widen]

theorem lowFunctions_functionsF0_iff (gltmp : GlState) :
    lowFunctions (functionsF0 gltmp) ((functionsF0 gltmp).getLsbD 4) =
        gltmp.funcs &&& Group.f0.mask ↔
      (gltmp.funcs.getLsbD 5 = true → gltmp.funcs.getLsbD 0 = true) := by
  constructor
  · intro same
    have bit0 := congrArg (BitVec.getLsbD · 0) same
    simp only [BitVec.getLsbD_and, lowFunctions_bits _ _ 0 (by decide), if_true,
      functionsF0_bits gltmp 4 (by decide)] at bit0
    simp [Group.mask] at bit0
    exact bit0
  · intro light
    ext i inside
    rw [← BitVec.getLsbD_eq_getElem, ← BitVec.getLsbD_eq_getElem, lowFunctions_bits _ _ i inside,
      functionsF0_bits gltmp 4 (by decide), BitVec.getLsbD_and, Group.mask]
    by_cases low : i - 1 < 8
    · rw [functionsF0_bits gltmp (i - 1) low]
      interval_cases i <;> simp_all
    · have high : ¬ i < 5 := by omega
      interval_cases i <;> simp_all

theorem lowFunctions_inj : ∀ (functions : BitVec 8) (first second : Bool),
    lowFunctions functions first = lowFunctions functions second ↔ first = second := by
  decide

/-- The bits that are sent for a group. -/
def Group.value (gltmp : GlState) : Group → BitVec 8
  | .f0 => functionsF0 gltmp
  | .f5 => ((gltmp.funcs >>> 5) &&& 0x00ff).setWidth 8
  | .f9 => ((gltmp.funcs >>> 9) &&& 0x00ff).setWidth 8
  | .f13 => ((gltmp.funcs >>> 13) &&& 0xffff).setWidth 8
  | .f21 => ((gltmp.funcs >>> 21) &&& 0xffff).setWidth 8

/-- The identification of a group of functions. -/
def Group.identification : Group → BitVec 8
  | .f0 => 0x20
  | .f5 => 0x21
  | .f9 => 0x22
  | .f13 => 0x23
  | .f21 => 0x28

/-- The eight functions from `shift` on. -/
def functionsAt (funcs : BitVec 32) (shift : Nat) : BitVec 8 :=
  (funcs >>> shift).setWidth 8

theorem setWidth_and_byte (value : BitVec 32) :
    (value &&& 0x00ff).setWidth 8 = value.setWidth 8 := by
  ext i inside
  interval_cases i <;> simp

theorem setWidth_and_word (value : BitVec 32) :
    (value &&& 0xffff).setWidth 8 = value.setWidth 8 := by
  ext i inside
  interval_cases i <;> simp

theorem shiftRight_and_shiftLeft (value mask : BitVec 32) (shift : Nat) :
    (value >>> shift &&& mask) <<< shift = value &&& mask <<< shift := by
  ext i inside
  rw [← BitVec.getLsbD_eq_getElem, ← BitVec.getLsbD_eq_getElem]
  simp only [BitVec.getLsbD_shiftLeft, BitVec.getLsbD_ushiftRight, BitVec.getLsbD_and]
  by_cases above : i < shift
  · simp [above]
  · rw [show shift + (i - shift) = i by omega]
    cases value.getLsbD i <;> simp

theorem widen_functionsAt (funcs : BitVec 32) (shift : Nat) :
    widen (functionsAt funcs shift) <<< shift = funcs &&& (0xff : BitVec 32) <<< shift := by
  rw [← shiftRight_and_shiftLeft, widen, functionsAt]
  congr 1
  ext i inside
  interval_cases i <;> simp

theorem functionsAt_within_iff (funcs : BitVec 32) (shift : Nat) (fits : shift ≤ 24) :
    functionsAt funcs shift &&& ~~~ 0x0f = 0 ↔ funcs &&& (0xf0 : BitVec 32) <<< shift = 0 := by
  constructor
  · intro clear
    rw [← shiftRight_and_shiftLeft]
    have high : funcs >>> shift &&& 0xf0 = widen (functionsAt funcs shift &&& ~~~ 0x0f) := by
      rw [widen, functionsAt]
      ext i inside
      interval_cases i <;> simp
    rw [high, clear, widen]
    simp
  · intro clear
    have bit (i : Nat) : (funcs &&& (0xf0 : BitVec 32) <<< shift).getLsbD (shift + i) = false := by
      rw [clear]
      exact BitVec.getLsbD_zero
    simp only [BitVec.getLsbD_and, BitVec.getLsbD_shiftLeft] at bit
    ext i inside
    have within : shift + i < 32 := by omega
    have bit := bit i
    rw [show shift + i - shift = i by omega] at bit
    simp only [within, decide_true, Bool.true_and, show ¬ shift + i < shift by omega, decide_false,
      Bool.not_false] at bit
    rw [functionsAt, ← BitVec.getLsbD_eq_getElem, BitVec.getLsbD_and, BitVec.getLsbD_setWidth,
      BitVec.getLsbD_ushiftRight]
    interval_cases i <;> simp_all

/-- The upper half of the byte is clear, or a message with four functions has no meaning. -/
theorem functionsAt_half_iff (funcs : BitVec 32) (shift : Nat) (fits : shift ≤ 24) :
    (functionsAt funcs shift &&& ~~~ 0x0f = 0 ∧
        widen (functionsAt funcs shift) <<< shift = funcs &&& (0x0f : BitVec 32) <<< shift) ↔
      funcs &&& (0xf0 : BitVec 32) <<< shift = 0 := by
  rw [functionsAt_within_iff funcs shift fits]
  apply and_iff_left_of_imp
  intro clear
  have halves : (0xff : BitVec 32) = 0x0f ||| 0xf0 := by decide
  rw [widen_functionsAt, halves, BitVec.shiftLeft_or_distrib, BitVec.and_or_distrib_left, clear]
  exact BitVec.or_zero

theorem exists_only_iff {gltmp : GlState} {mask value : BitVec 8} {order : Order} :
    (∃ decoded ∈ only mask value order, decoded.Is gltmp) ↔
      value &&& ~~~ mask = 0 ∧ order.Is gltmp := by
  rw [only]
  by_cases within : value &&& ~~~ mask = 0#8
  · simp [within]
  · simp [within]

theorem Group.order_iff (group : Group) (gltmp : GlState) :
    (∃ order ∈ decodeOrder group.identification (group.value gltmp), order.Is gltmp) ↔
      group.Alone gltmp := by
  cases group with
  | f0 =>
      refine exists_only_iff.trans ?_
      exact and_congr (functionsF0_within_iff gltmp) (lowFunctions_functionsF0_iff gltmp)
  | f5 =>
      refine exists_only_iff.trans ?_
      rw [Group.value, setWidth_and_byte]
      exact functionsAt_half_iff gltmp.funcs 5 (by decide)
  | f9 =>
      refine exists_only_iff.trans ?_
      rw [Group.value, setWidth_and_byte]
      exact functionsAt_half_iff gltmp.funcs 9 (by decide)
  | f13 =>
      refine iff_of_true ⟨_, rfl, ?_⟩ trivial
      rw [Group.value, setWidth_and_word]
      exact widen_functionsAt gltmp.funcs 13
  | f21 =>
      refine iff_of_true ⟨_, rfl, ?_⟩ trivial
      rw [Group.value, setWidth_and_word]
      exact widen_functionsAt gltmp.funcs 21

/-! ## Messages -/

section Messages

variable {gltmp glakt : GlState}

theorem decodes_e4_iff (positive : 0 < gltmp.id) (identification value : BitVec 8) :
    Decodes gltmp [0xe4, identification, addressHigh gltmp.id, byte gltmp.id, value] ↔
      gltmp.id ≤ 0x3fff ∧ ∃ order ∈ decodeOrder identification value, order.Is gltmp := by
  rw [← decodeAddress_eq_iff positive, Decodes, decode]
  constructor
  · rintro ⟨meaning, decoded, address, order⟩
    obtain ⟨addr, found, rest⟩ := Option.bind_eq_some_iff.1 decoded
    obtain ⟨decodedOrder, read, rfl⟩ := Option.map_eq_some_iff.1 rest
    exact ⟨⟨addr, found, address⟩, decodedOrder, read, order⟩
  · rintro ⟨⟨addr, found, address⟩, order, read, is⟩
    refine ⟨⟨addr, order⟩, ?_, address, is⟩
    rw [Option.mem_def] at found read
    simp [found, read]

theorem decodes_stop_iff (version : Nat) (positive : 0 < gltmp.id) (stop : gltmp.direction = 2) :
    Decodes gltmp (emergencyStop version gltmp) ↔
      gltmp.id ≤ (if 0x0300 ≤ version then 0x3fff else 0xff) := by
  rw [emergencyStop]
  by_cases new : 0x0300 ≤ version
  · rw [if_pos new, if_pos new, ← decodeAddress_eq_iff positive, Decodes, decode]
    constructor
    · rintro ⟨meaning, decoded, address, order⟩
      obtain ⟨addr, found, rfl⟩ := Option.map_eq_some_iff.1 decoded
      exact ⟨addr, found, address⟩
    · rintro ⟨addr, found, address⟩
      refine ⟨⟨addr, .stop⟩, ?_, address, stop⟩
      rw [Option.mem_def] at found
      simp [found]
  · rw [if_neg new, if_neg new, ← byte_toNat_eq_iff positive]
    constructor
    · rintro ⟨meaning, decoded, address, order⟩
      obtain rfl := Option.some.inj decoded
      exact address
    · intro address
      exact ⟨_, rfl, address, stop⟩

/-- A direction that is not an emergency stop. -/
theorem Accepted.forward (accepted : Accepted gltmp) (moving : gltmp.direction ≠ 2) :
    ∃ forward : Bool, gltmp.direction = if forward then 1 else 0 := by
  obtain ⟨least, most⟩ := accepted.direction
  by_cases backward : gltmp.direction = 0
  · exact ⟨false, backward⟩
  · refine ⟨true, ?_⟩
    show gltmp.direction = 1
    omega

theorem Accepted.speed_eq (accepted : Accepted gltmp) (bound : Nat) (within : gltmp.nFs ≤ bound) :
    ∃ speed : Fin (bound + 1), gltmp.speed = (speed : Nat) := by
  obtain ⟨least, most⟩ := accepted.speed
  refine ⟨⟨gltmp.speed.toNat, ?_⟩, ?_⟩
  · omega
  · exact (Int.toNat_of_nonneg least).symm

theorem direction_eq_iff (first second : Bool) :
    ((if first then 1 else 0 : Int) = if second then 1 else 0) ↔ first = second := by
  revert first second
  decide

theorem decodes_sendSpeed_iff (accepted : Accepted gltmp) (moving : gltmp.direction ≠ 2) :
    Decodes gltmp (sendSpeed gltmp) ↔
      gltmp.id ≤ 0x3fff ∧ (gltmp.nFs = 27 ∨ gltmp.nFs = 28 ∨ gltmp.speed ≤ 1) := by
  obtain ⟨forward, direction⟩ := accepted.forward moving
  have value : (if gltmp.direction ≠ 0 then speed28 gltmp.speed ||| 0x80 else speed28 gltmp.speed) =
      driveByte forward gltmp.speed := by
    rw [driveByte, direction]
    cases forward <;> rfl
  have sent : sendSpeed gltmp = [0xe4, stepMode gltmp.nFs, addressHigh gltmp.id, byte gltmp.id,
      driveByte forward gltmp.speed] := by
    rw [← value]
    rfl
  rw [sent, decodes_e4_iff accepted.id]
  apply and_congr_right
  intro _
  have drive (decoded : Int) (heading : Bool) : (Order.drive decoded heading).Is gltmp ↔
      decoded = gltmp.speed ∧ heading = forward := by
    rw [Order.Is, direction, direction_eq_iff]
  obtain steps | steps | steps | steps := accepted.nFs
  · obtain ⟨speed, known⟩ := accepted.speed_eq 14 (by omega)
    rw [stepMode, if_pos steps, known]
    refine exists_only_iff.trans ?_
    rw [drive, known, drive14_iff]
    omega
  · obtain ⟨speed, known⟩ := accepted.speed_eq 28 (by omega)
    rw [steps, known]
    refine iff_of_true (exists_only_iff.2 ?_) (Or.inl rfl)
    rw [drive, known]
    exact drive28 speed forward
  · obtain ⟨speed, known⟩ := accepted.speed_eq 28 (by omega)
    rw [steps, known]
    refine iff_of_true (exists_only_iff.2 ?_) (Or.inr (Or.inl rfl))
    rw [drive, known]
    exact drive28 speed forward
  · obtain ⟨speed, known⟩ := accepted.speed_eq 126 (by omega)
    have read : decodeOrder (stepMode gltmp.nFs) (driveByte forward speed) =
        some (.drive (stepOf14 (driveByte forward speed &&& 0x7f))
          ((driveByte forward speed).getLsbD 7)) := by
      rw [steps]
      rfl
    rw [known, read]
    simp only [Option.mem_some_iff, exists_eq_left', drive, known, drive126_iff]
    omega

theorem speedFlags_eq {forward : Bool} (direction : gltmp.direction = if forward then 1 else 0)
    (value : BitVec 8) :
    speedFlags gltmp value = flags forward (gltmp.funcs.getLsbD 0) value := by
  rw [speedFlags, flags, direction]
  cases forward <;> rfl

/-- Order and address of a message for the versions before 3.00. -/
theorem decodes_old_iff (positive : 0 < gltmp.id) {message : Message} {order : Option Order}
    (read : decode message = order.map (⟨(byte gltmp.id).toNat, ·⟩)) :
    Decodes gltmp message ↔ gltmp.id ≤ 0xff ∧ ∃ decoded ∈ order, decoded.Is gltmp := by
  rw [← byte_toNat_eq_iff positive, Decodes, read]
  constructor
  · rintro ⟨meaning, decoded, address, is⟩
    obtain ⟨found, known, rfl⟩ := Option.map_eq_some_iff.1 decoded
    exact ⟨address, found, known, is⟩
  · rintro ⟨address, found, known, is⟩
    exact ⟨_, Option.map_eq_some_iff.2 ⟨found, known, rfl⟩, address, is⟩

theorem exists_control_iff (steps14 : Bool) (value : BitVec 8) {forward : Bool}
    (direction : gltmp.direction = if forward then 1 else 0) :
    (∃ order ∈ decodeControl steps14 value (functionsOld gltmp), order.Is gltmp) ↔
      value &&& ~~~ (if steps14 then 0x6f else 0x7f) = 0 ∧
        (if steps14 then stepOf14 (value &&& 0x0f) else stepOf28 value) = gltmp.speed ∧
        value.getLsbD 6 = forward ∧ value.getLsbD 5 = gltmp.funcs.getLsbD 0 := by
  have is (speed : Int) (heading light : Bool) :
      (Order.control speed heading (lowFunctions (functionsOld gltmp) light)).Is gltmp ↔
        speed = gltmp.speed ∧ heading = forward ∧ light = gltmp.funcs.getLsbD 0 := by
    rw [Order.Is, direction, direction_eq_iff, ← lowFunctions_functionsOld, lowFunctions_inj,
      and_assoc]
  rw [decodeControl, ← is]
  by_cases within : value &&& ~~~ (if steps14 then 0x6f else 0x7f) = 0
  · rw [only, if_pos within]
    refine exists_only_iff.trans ?_
    rw [and_iff_right (functionsOld_within gltmp)]
    exact (and_iff_right within).symm
  · rw [only, if_neg within]
    exact iff_of_false (fun ⟨_, found, _⟩ => nomatch found) fun both => within both.1

theorem control14_fits_iff {forward : Bool} {speed : Fin 127} (light : Bool) :
    (flags forward light (speed14 speed) &&& ~~~ (if true then 0x6f else 0x7f) = 0 ∧
      (if true then stepOf14 (flags forward light (speed14 speed) &&& 0x0f)
        else stepOf28 (flags forward light (speed14 speed))) = speed ∧
      (flags forward light (speed14 speed)).getLsbD 6 = forward ∧
      (flags forward light (speed14 speed)).getLsbD 5 = light) ↔ ((speed : Nat) : Int) ≤ 14 := by
  refine (control14_iff speed forward light).trans ?_
  omega

theorem decodes_sendV150_iff (accepted : Accepted gltmp) (moving : gltmp.direction ≠ 2) :
    Decodes gltmp (sendV150 gltmp) ↔ gltmp.id ≤ 0xff ∧ gltmp.speed ≤ 14 := by
  obtain ⟨forward, direction⟩ := accepted.forward moving
  obtain ⟨speed, known⟩ := accepted.speed_eq 126 (by have := accepted.nFs; omega)
  refine (decodes_old_iff accepted.id rfl).trans (and_congr_right fun _ => ?_)
  rw [exists_control_iff _ _ direction, speedFlags_eq direction, known]
  exact control14_fits_iff _

theorem decodes_sendV200_iff (accepted : Accepted gltmp) (moving : gltmp.direction ≠ 2) :
    Decodes gltmp (sendV200 gltmp) ↔
      gltmp.id ≤ 0xff ∧ (gltmp.nFs ≠ 27 ∧ gltmp.nFs ≠ 28 → gltmp.speed ≤ 14) := by
  obtain ⟨forward, direction⟩ := accepted.forward moving
  rw [sendV200]
  by_cases steps27 : gltmp.nFs = 27
  · obtain ⟨speed, known⟩ := accepted.speed_eq 28 (by omega)
    rw [if_pos steps27]
    refine (decodes_old_iff accepted.id rfl).trans (and_congr_right fun _ => ?_)
    rw [exists_control_iff _ _ direction, speedFlags_eq direction, known]
    exact iff_of_true (control28 speed forward _) fun others => absurd steps27 others.1
  · rw [if_neg steps27]
    by_cases steps28 : gltmp.nFs = 28
    · obtain ⟨speed, known⟩ := accepted.speed_eq 28 (by omega)
      rw [if_pos steps28]
      refine (decodes_old_iff accepted.id rfl).trans (and_congr_right fun _ => ?_)
      rw [exists_control_iff _ _ direction, speedFlags_eq direction, known]
      exact iff_of_true (control28 speed forward _) fun others => absurd steps28 others.2
    · obtain ⟨speed, known⟩ := accepted.speed_eq 126 (by have := accepted.nFs; omega)
      rw [if_neg steps28]
      refine (decodes_old_iff accepted.id rfl).trans (and_congr_right fun _ => ?_)
      rw [exists_control_iff _ _ direction, speedFlags_eq direction, known, control14_fits_iff]
      exact ⟨fun small _ => small, fun all => all ⟨steps27, steps28⟩⟩

/-! ## Groups -/

theorem carries_iff_of_mem_only {mask value : BitVec 8} {order decoded : Order} {group : Group}
    (found : decoded ∈ only mask value order) : decoded.Carries group ↔ order.Carries group := by
  rw [only] at found
  split at found
  · rw [Option.some.inj found]
  · contradiction

theorem carries_control_iff {steps14 : Bool} {value functions : BitVec 8} {order : Order}
    {group : Group} (found : order ∈ decodeControl steps14 value functions) :
    order.Carries group ↔ group = .f0 := by
  obtain ⟨_, _, found⟩ := Option.bind_eq_some_iff.1 found
  rw [carries_iff_of_mem_only found]
  exact eq_comm

theorem carries_group_iff {group other : Group} {value : BitVec 8} {order : Order}
    (found : order ∈ decodeOrder group.identification value) :
    order.Carries other ↔ other = group := by
  rw [eq_comm]
  cases group with
  | f0 => exact carries_iff_of_mem_only found
  | f5 => exact carries_iff_of_mem_only found
  | f9 => exact carries_iff_of_mem_only found
  | f13 =>
      obtain rfl := Option.some.inj found
      rfl
  | f21 =>
      obtain rfl := Option.some.inj found
      rfl

theorem not_carries_drive {nFs : Int} {value : BitVec 8} {order : Order} {group : Group}
    (found : order ∈ decodeOrder (stepMode nFs) value) : ¬ order.Carries group := by
  rw [stepMode] at found
  split at found
  · exact (carries_iff_of_mem_only found).1
  · split at found
    · exact (carries_iff_of_mem_only found).1
    · split at found
      · exact (carries_iff_of_mem_only found).1
      · split at found
        · obtain rfl := Option.some.inj found
          exact id
        · exact (carries_iff_of_mem_only found).1

theorem order_mem_of_e4 {identification high low value : BitVec 8} {meaning : Meaning}
    (decoded : meaning ∈ decode [0xe4, identification, high, low, value]) :
    meaning.order ∈ decodeOrder identification value := by
  obtain ⟨addr, found, rest⟩ := Option.bind_eq_some_iff.1 decoded
  obtain ⟨order, read, rfl⟩ := Option.map_eq_some_iff.1 rest
  exact read

theorem mem_sendV300_iff (version : Nat) (message : Message) :
    message ∈ sendV300 version gltmp ↔
      message = sendSpeed gltmp ∨ ∃ group : Group, group.Sent version gltmp ∧
        message = sendFunctions gltmp group.identification (group.value gltmp) := by
  rw [sendV300]
  simp only [List.mem_append, List.mem_cons, List.mem_ite_nil_right, List.not_mem_nil, or_false]
  constructor
  · rintro (((((rfl | rfl) | ⟨sent, rfl⟩) | ⟨sent, rfl⟩) | ⟨sent, rfl⟩) | ⟨sent, rfl⟩)
    · exact Or.inl rfl
    · exact Or.inr ⟨.f0, trivial, rfl⟩
    · exact Or.inr ⟨.f5, sent, rfl⟩
    · exact Or.inr ⟨.f9, sent, rfl⟩
    · exact Or.inr ⟨.f13, sent, rfl⟩
    · exact Or.inr ⟨.f21, sent, rfl⟩
  · rintro (rfl | ⟨group, sent, rfl⟩)
    · simp
    · cases group with
      | f0 => exact Or.inl (Or.inl (Or.inl (Or.inl (Or.inr rfl))))
      | f5 => exact Or.inl (Or.inl (Or.inl (Or.inr ⟨sent, rfl⟩)))
      | f9 => exact Or.inl (Or.inl (Or.inr ⟨sent, rfl⟩))
      | f13 => exact Or.inl (Or.inr ⟨sent, rfl⟩)
      | f21 => exact Or.inr ⟨sent, rfl⟩

theorem decodes_group_iff (positive : 0 < gltmp.id) (group : Group) :
    Decodes gltmp (sendFunctions gltmp group.identification (group.value gltmp)) ↔
      gltmp.id ≤ 0x3fff ∧ group.Alone gltmp := by
  rw [sendFunctions, decodes_e4_iff positive, group.order_iff]

/-- When the messages can be read, they carry the groups that are sent. -/
theorem carried_sendV300_iff (version : Nat) (group : Group)
    (decodes : ∀ message ∈ sendV300 version gltmp, Decodes gltmp message) :
    (∃ message ∈ sendV300 version gltmp, ∃ meaning ∈ decode message, meaning.order.Carries group) ↔
      group.Sent version gltmp := by
  constructor
  · rintro ⟨message, member, meaning, decoded, carries⟩
    obtain rfl | ⟨other, sent, rfl⟩ := (mem_sendV300_iff version message).1 member
    · exact absurd carries (not_carries_drive (order_mem_of_e4 decoded))
    · rw [(carries_group_iff (order_mem_of_e4 decoded)).1 carries]
      exact sent
  · intro sent
    have member := (mem_sendV300_iff version _).2 (Or.inr ⟨group, sent, rfl⟩)
    obtain ⟨meaning, decoded, -, -⟩ := decodes _ member
    exact ⟨_, member, meaning, decoded, (carries_group_iff (order_mem_of_e4 decoded)).2 rfl⟩

theorem decodes_sendV300_iff (accepted : Accepted gltmp) (moving : gltmp.direction ≠ 2)
    (version : Nat) :
    (∀ message ∈ sendV300 version gltmp, Decodes gltmp message) ↔
      gltmp.id ≤ 0x3fff ∧ (gltmp.nFs = 27 ∨ gltmp.nFs = 28 ∨ gltmp.speed ≤ 1) ∧
        ∀ group : Group, group.Sent version gltmp → group.Alone gltmp := by
  constructor
  · intro decodes
    have speed := (decodes_sendSpeed_iff accepted moving).1
      (decodes _ ((mem_sendV300_iff version _).2 (Or.inl rfl)))
    refine ⟨speed.1, speed.2, fun group sent => ?_⟩
    exact ((decodes_group_iff accepted.id group).1
      (decodes _ ((mem_sendV300_iff version _).2 (Or.inr ⟨group, sent, rfl⟩)))).2
  · rintro ⟨address, steps, alone⟩ message member
    obtain rfl | ⟨group, sent, rfl⟩ := (mem_sendV300_iff version message).1 member
    · exact (decodes_sendSpeed_iff accepted moving).2 ⟨address, steps⟩
    · exact (decodes_group_iff accepted.id group).2 ⟨address, alone group sent⟩

theorem stored_assignSteps_iff (answered : Bool) :
    (∀ stored ∈ if answered then some (assignSteps gltmp) else none, stored.nFs = gltmp.nFs) ↔
      answered = false ∨ gltmp.nFs = 27 ∨ gltmp.nFs = 28 := by
  cases answered with
  | false => simp
  | true =>
      simp only [if_true, Option.mem_some_iff, forall_eq', assignSteps]
      by_cases steps : gltmp.nFs = 27
      · simp [steps]
      · simp [steps, eq_comm]

theorem transmits_sendV300_iff (accepted : Accepted gltmp) (moving : gltmp.direction ≠ 2)
    (version : Nat) (answered : Bool) :
    Transmits gltmp glakt
        (sendV300 version gltmp, if answered then some (assignSteps gltmp) else none) ↔
      FitsV300 version answered gltmp glakt := by
  constructor
  · rintro ⟨messages, groups, stored⟩
    obtain ⟨address, steps, alone⟩ := (decodes_sendV300_iff accepted moving version).1 messages
    refine ⟨address, ?_, fun group => ⟨alone group, fun changed => ?_⟩⟩
    · have kept := (stored_assignSteps_iff answered).1 stored
      tauto
    · exact (carried_sendV300_iff version group messages).1 (groups group changed)
  · rintro ⟨address, steps, fits⟩
    have messages := (decodes_sendV300_iff accepted moving version).2
      ⟨address, by tauto, fun group => (fits group).1⟩
    refine ⟨messages, fun group changed => ?_, ?_⟩
    · exact (carried_sendV300_iff version group messages).2 ((fits group).2 changed)
    · exact (stored_assignSteps_iff answered).2 (by tauto)

/-- A single message, when the record is stored as it is. -/
theorem transmits_single_iff {message : Message} (answered : Bool) :
    Transmits gltmp glakt ([message], if answered then some gltmp else none) ↔
      Decodes gltmp message ∧ ∀ group : Group, group.Changed gltmp glakt →
        ∃ meaning ∈ decode message, meaning.order.Carries group := by
  constructor
  · rintro ⟨messages, groups, -⟩
    refine ⟨messages _ (List.mem_singleton_self _), fun group changed => ?_⟩
    obtain ⟨other, sent, carried⟩ := groups group changed
    rw [List.mem_singleton.1 sent] at carried
    exact carried
  · rintro ⟨decodes, groups⟩
    refine ⟨?_, fun group changed => ⟨_, List.mem_singleton_self _, groups group changed⟩, ?_⟩
    · intro other sent
      rw [List.mem_singleton.1 sent]
      exact decodes
    · cases answered with
      | false => simp
      | true => simp

theorem transmits_old_iff {message : Message} {steps14 : Bool} {value functions : BitVec 8}
    (answered : Bool)
    (read : decode message =
      (decodeControl steps14 value functions).map (⟨(byte gltmp.id).toNat, ·⟩)) :
    Transmits gltmp glakt ([message], if answered then some gltmp else none) ↔
      Decodes gltmp message ∧ ∀ group : Group, group.Changed gltmp glakt → group = .f0 := by
  rw [transmits_single_iff]
  refine and_congr_right ?_
  rintro ⟨meaning, decoded, -, -⟩
  have control (other : Meaning) (found : other ∈ decode message) (group : Group) :
      other.order.Carries group ↔ group = .f0 := by
    rw [read] at found
    obtain ⟨order, control, rfl⟩ := Option.map_eq_some_iff.1 found
    exact carries_control_iff control
  refine forall_congr' fun group => imp_congr_right fun _ => ?_
  constructor
  · rintro ⟨other, found, carries⟩
    exact (control other found group).1 carries
  · intro first
    exact ⟨meaning, decoded, (control meaning decoded group).2 first⟩

theorem transmits_sendV150_iff (accepted : Accepted gltmp) (moving : gltmp.direction ≠ 2)
    (answered : Bool) :
    Transmits gltmp glakt ([sendV150 gltmp], if answered then some gltmp else none) ↔
      gltmp.id ≤ 0xff ∧ gltmp.speed ≤ 14 ∧
        ∀ group : Group, group.Changed gltmp glakt → group = .f0 := by
  have read : decode (sendV150 gltmp) =
      (decodeControl true (speedFlags gltmp (speed14 gltmp.speed)) (functionsOld gltmp)).map
        (⟨(byte gltmp.id).toNat, ·⟩) :=
    rfl
  rw [transmits_old_iff answered read, decodes_sendV150_iff accepted moving, and_assoc]

theorem transmits_sendV200_iff (accepted : Accepted gltmp) (moving : gltmp.direction ≠ 2)
    (answered : Bool) :
    Transmits gltmp glakt ([sendV200 gltmp], if answered then some gltmp else none) ↔
      gltmp.id ≤ 0xff ∧ (gltmp.nFs ≠ 27 ∧ gltmp.nFs ≠ 28 → gltmp.speed ≤ 14) ∧
        ∀ group : Group, group.Changed gltmp glakt → group = .f0 := by
  have read : ∃ (steps14 : Bool) (value : BitVec 8), decode (sendV200 gltmp) =
      (decodeControl steps14 value (functionsOld gltmp)).map (⟨(byte gltmp.id).toNat, ·⟩) := by
    rw [sendV200]
    by_cases steps27 : gltmp.nFs = 27
    · rw [if_pos steps27]
      exact ⟨false, _, rfl⟩
    · rw [if_neg steps27]
      by_cases steps28 : gltmp.nFs = 28
      · rw [if_pos steps28]
        exact ⟨false, _, rfl⟩
      · rw [if_neg steps28]
        exact ⟨true, _, rfl⟩
  obtain ⟨steps14, value, read⟩ := read
  rw [transmits_old_iff answered read, decodes_sendV200_iff accepted moving, and_assoc]

theorem transmits_stop_iff (version : Nat) (answered : Bool) (accepted : Accepted gltmp)
    (stop : gltmp.direction = 2) :
    Transmits gltmp glakt
        ([emergencyStop version gltmp], if answered then some gltmp else none) ↔
      gltmp.id ≤ (if 0x0300 ≤ version then 0x3fff else 0xff) ∧
        ∀ group : Group, ¬ group.Changed gltmp glakt := by
  rw [transmits_single_iff, decodes_stop_iff version accepted.id stop]
  refine and_congr_right fun _ => forall_congr' fun group => ?_
  have nothing : ¬ ∃ meaning ∈ decode (emergencyStop version gltmp),
      meaning.order.Carries group := by
    rintro ⟨meaning, decoded, carries⟩
    rw [emergencyStop] at decoded
    split at decoded
    · obtain ⟨addr, -, rfl⟩ := Option.map_eq_some_iff.1 decoded
      exact carries
    · obtain rfl := Option.some.inj decoded
      exact carries
  exact imp_congr_right fun _ => iff_false_intro nothing

end Messages

/-- The messages of a command give it back just when it fits. -/
theorem transmits_iff_fits (usb : Bool) (version : Nat) (answered : Bool) (gltmp glakt : GlState)
    (accepted : Accepted gltmp) :
    Transmits gltmp glakt (sendCommandGl usb version answered gltmp glakt) ↔
      FitsGl usb version answered gltmp glakt := by
  rw [sendCommandGl, FitsGl]
  by_cases changed : gltmp.direction ≠ glakt.direction ∨ gltmp.speed ≠ glakt.speed ∨
      gltmp.funcs ≠ glakt.funcs
  · rw [if_pos changed, forall_prop_of_true changed]
    by_cases stop : gltmp.direction = 2
    · rw [if_pos stop, if_pos stop]
      exact transmits_stop_iff version answered accepted stop
    · rw [if_neg stop, if_neg stop]
      by_cases v150 : ¬ usb ∧ version ≤ 0x0150
      · have old : ¬ usb ∧ version < 0x0300 := ⟨v150.1, by omega⟩
        rw [if_pos v150, if_pos old, transmits_sendV150_iff accepted stop]
        simp only [v150.2, true_or, forall_const]
      · rw [if_neg v150]
        by_cases old : ¬ usb ∧ version < 0x0300
        · have newer : ¬ version ≤ 0x0150 := fun least => v150 ⟨old.1, least⟩
          rw [if_pos old, if_pos old, transmits_sendV200_iff accepted stop]
          simp only [newer, false_or]
        · rw [if_neg old, if_neg old]
          exact transmits_sendV300_iff accepted stop version answered
  · rw [if_neg changed]
    refine iff_of_true ⟨by simp, fun group different => ?_, by simp⟩ fun sent => absurd sent changed
    have same : gltmp.funcs = glakt.funcs := by tauto
    exact absurd (congrArg (· &&& group.mask) same) different

/-- A command without functions for a locomotive with a long address. -/
def driving (nFs speed : Int) : GlState :=
  { GlState.zero with id := 100, nFs, nFunc := 5, speed, direction := 1 }

theorem transmits_iff_fits_steps28 :
    Transmits (driving 28 9) GlState.zero
      (sendCommandGl false 0x0300 true (driving 28 9) GlState.zero) := by
  refine (transmits_iff_fits false 0x0300 true _ GlState.zero
    ⟨by decide, by decide, by decide, by decide⟩).2 ?_
  intro changed
  rw [if_neg (by decide), if_neg (by decide)]
  refine ⟨by decide, Or.inr (Or.inl rfl), fun group => ⟨fun _ => ?_, fun different => ?_⟩⟩
  · cases group with
    | f0 => exact ⟨by decide, fun light => light⟩
    | f5 => exact (by decide : (driving 28 9).funcs &&& (0x1e00 : BitVec 32) = 0)
    | f9 => exact (by decide : (driving 28 9).funcs &&& (0x1e000 : BitVec 32) = 0)
    | f13 => trivial
    | f21 => trivial
  · exact absurd rfl different

/-- Speed 5 of 14 is sent as for 28 steps, and read as 3. -/
theorem not_transmits_steps14 :
    Accepted (driving 14 5) ∧
      ¬ Transmits (driving 14 5) GlState.zero
        (sendCommandGl false 0x0300 true (driving 14 5) GlState.zero) := by
  refine ⟨⟨by decide, by decide, by decide, by decide⟩, ?_⟩
  rintro ⟨messages, -, -⟩
  obtain ⟨meaning, decoded, -, is⟩ := messages (sendSpeed (driving 14 5)) (by decide)
  have read : decode (sendSpeed (driving 14 5)) = some ⟨100, .drive 3 true⟩ := rfl
  obtain rfl := Option.some.inj (read.symm.trans decoded)
  exact absurd is.1 (by decide)

end Srcpd.Driver.Li100
