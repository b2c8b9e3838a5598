import Srcpd.Ddl.State

/-!
# Packets of the Maerklin composers

The functions of `ddl_maerklin.c` for locomotives.  A packet is nine trits of
two bytes each: four for the address, one for the function, four for the speed.
In the new protocol the second bytes of the speed trits carry the direction, or
one of the functions F1 to F4.

The arguments `func` and `f1` to `f4` of the composers are bits here; the
callers mask them.
-/

namespace Srcpd.Ddl

/-- One of the four values of a trit: two low, two high, or one of each. -/
inductive Trit
  | l
  | h
  | o
  | u
  deriving DecidableEq, Repr

/-- The two bytes of a trit on the serial line. -/
def Trit.bytes : Trit → Packetstream
  | .l => [lo, lo]
  | .h => [hi, hi]
  | .o => [hi, lo]
  | .u => [lo, hi]

/-- Four trits for an address. -/
structure MotorolaCode where
  trit0 : Trit
  trit1 : Trit
  trit2 : Trit
  trit3 : Trit
  deriving DecidableEq, Repr

/-- The code from its first trit on. -/
def MotorolaCode.trits (code : MotorolaCode) : List Trit :=
  [code.trit0, code.trit1, code.trit2, code.trit3]

open Trit in

/-- `MotorolaCodes`, the trits of the addresses 0 to 80. -/
def motorolaCodes : List MotorolaCode :=
  [⟨o, o, o, o⟩, ⟨h, l, l, l⟩, ⟨o, l, l, l⟩, ⟨l, h, l, l⟩, ⟨h, h, l, l⟩, ⟨o, h, l, l⟩,
    ⟨l, o, l, l⟩, ⟨h, o, l, l⟩, ⟨o, o, l, l⟩, ⟨l, l, h, l⟩, ⟨h, l, h, l⟩, ⟨o, l, h, l⟩,
    ⟨l, h, h, l⟩, ⟨h, h, h, l⟩, ⟨o, h, h, l⟩, ⟨l, o, h, l⟩, ⟨h, o, h, l⟩, ⟨o, o, h, l⟩,
    ⟨l, l, o, l⟩, ⟨h, l, o, l⟩, ⟨o, l, o, l⟩, ⟨l, h, o, l⟩, ⟨h, h, o, l⟩, ⟨o, h, o, l⟩,
    ⟨l, o, o, l⟩, ⟨h, o, o, l⟩, ⟨o, o, o, l⟩, ⟨l, l, l, h⟩, ⟨h, l, l, h⟩, ⟨o, l, l, h⟩,
    ⟨l, h, l, h⟩, ⟨h, h, l, h⟩, ⟨o, h, l, h⟩, ⟨l, o, l, h⟩, ⟨h, o, l, h⟩, ⟨o, o, l, h⟩,
    ⟨l, l, h, h⟩, ⟨h, l, h, h⟩, ⟨o, l, h, h⟩, ⟨l, h, h, h⟩, ⟨h, h, h, h⟩, ⟨o, h, h, h⟩,
    ⟨l, o, h, h⟩, ⟨h, o, h, h⟩, ⟨o, o, h, h⟩, ⟨l, l, o, h⟩, ⟨h, l, o, h⟩, ⟨o, l, o, h⟩,
    ⟨l, h, o, h⟩, ⟨h, h, o, h⟩, ⟨o, h, o, h⟩, ⟨l, o, o, h⟩, ⟨h, o, o, h⟩, ⟨o, o, o, h⟩,
    ⟨l, l, l, o⟩, ⟨h, l, l, o⟩, ⟨o, l, l, o⟩, ⟨l, h, l, o⟩, ⟨h, h, l, o⟩, ⟨o, h, l, o⟩,
    ⟨l, o, l, o⟩, ⟨h, o, l, o⟩, ⟨o, o, l, o⟩, ⟨l, l, h, o⟩, ⟨h, l, h, o⟩, ⟨o, l, h, o⟩,
    ⟨l, h, h, o⟩, ⟨h, h, h, o⟩, ⟨o, h, h, o⟩, ⟨l, o, h, o⟩, ⟨h, o, h, o⟩, ⟨o, o, h, o⟩,
    ⟨l, l, o, o⟩, ⟨h, l, o, o⟩, ⟨o, l, o, o⟩, ⟨l, h, o, o⟩, ⟨h, h, o, o⟩, ⟨o, h, o, o⟩,
    ⟨l, o, o, o⟩, ⟨h, o, o, o⟩, ⟨l, l, l, l⟩, ⟨u, l, l, l⟩, ⟨u, o, l, l⟩, ⟨o, u, u, h⟩,
    ⟨u, h, l, l⟩, ⟨u, l, o, l⟩, ⟨u, o, o, l⟩, ⟨u, u, o, l⟩, ⟨u, h, o, l⟩, ⟨u, l, u, l⟩,
    ⟨u, o, u, l⟩, ⟨u, u, u, l⟩, ⟨u, h, u, l⟩, ⟨u, l, h, l⟩, ⟨u, o, h, l⟩, ⟨u, u, h, l⟩,
    ⟨u, h, h, l⟩, ⟨u, l, l, o⟩, ⟨u, o, l, o⟩, ⟨u, u, l, o⟩, ⟨u, h, l, o⟩, ⟨u, l, o, o⟩,
    ⟨u, o, o, o⟩, ⟨u, u, o, o⟩, ⟨u, h, o, o⟩, ⟨u, l, u, o⟩, ⟨u, o, u, o⟩, ⟨u, u, u, o⟩,
    ⟨u, h, u, o⟩, ⟨u, l, h, o⟩, ⟨u, o, h, o⟩, ⟨u, u, h, o⟩, ⟨u, h, h, o⟩, ⟨u, l, l, u⟩,
    ⟨u, o, l, u⟩, ⟨u, u, l, u⟩, ⟨u, h, l, u⟩, ⟨u, l, o, u⟩, ⟨u, o, o, u⟩, ⟨u, u, o, u⟩,
    ⟨u, h, o, u⟩, ⟨u, l, u, u⟩, ⟨u, o, u, u⟩, ⟨o, u, h, h⟩, ⟨u, h, u, u⟩, ⟨u, l, h, u⟩,
    ⟨u, o, h, u⟩, ⟨u, u, h, u⟩, ⟨u, h, h, u⟩, ⟨u, l, l, h⟩, ⟨u, o, l, h⟩, ⟨u, u, l, h⟩,
    ⟨u, h, l, h⟩, ⟨u, l, o, h⟩, ⟨u, o, o, h⟩, ⟨u, u, o, h⟩, ⟨u, h, o, h⟩, ⟨u, l, u, h⟩,
    ⟨u, o, u, h⟩, ⟨u, u, u, h⟩, ⟨u, h, u, h⟩, ⟨u, l, h, h⟩, ⟨u, o, h, h⟩, ⟨u, u, h, h⟩,
    ⟨u, h, h, h⟩, ⟨l, u, l, l⟩, ⟨l, u, o, l⟩, ⟨l, u, u, l⟩, ⟨l, u, h, l⟩, ⟨l, u, l, o⟩,
    ⟨l, u, o, o⟩, ⟨l, u, u, o⟩, ⟨l, u, h, o⟩, ⟨l, u, l, u⟩, ⟨l, u, o, u⟩, ⟨l, u, u, u⟩,
    ⟨l, u, h, u⟩, ⟨l, u, l, h⟩, ⟨l, u, o, h⟩, ⟨l, u, u, h⟩, ⟨l, u, h, h⟩, ⟨h, u, l, l⟩,
    ⟨h, u, o, l⟩, ⟨h, u, u, l⟩, ⟨h, u, h, l⟩, ⟨h, u, l, o⟩, ⟨h, u, o, o⟩, ⟨h, u, u, o⟩,
    ⟨h, u, h, o⟩, ⟨h, u, l, u⟩, ⟨h, u, o, u⟩, ⟨h, u, u, u⟩, ⟨h, u, h, u⟩, ⟨h, u, l, h⟩,
    ⟨h, u, o, h⟩, ⟨h, u, u, h⟩, ⟨h, u, h, h⟩, ⟨o, u, l, l⟩, ⟨o, u, o, l⟩, ⟨o, u, u, l⟩,
    ⟨o, u, h, l⟩, ⟨o, u, l, o⟩, ⟨o, u, o, o⟩, ⟨o, u, u, o⟩, ⟨o, u, h, o⟩, ⟨o, u, l, u⟩,
    ⟨o, u, o, u⟩, ⟨o, u, u, u⟩, ⟨o, u, h, u⟩, ⟨o, u, l, h⟩, ⟨o, u, o, h⟩, ⟨u, u, l, l⟩,
    ⟨u, u, u, u⟩, ⟨l, l, u, l⟩, ⟨l, l, u, o⟩, ⟨l, l, u, u⟩, ⟨l, l, u, h⟩, ⟨h, l, u, l⟩,
    ⟨h, l, u, o⟩, ⟨h, l, u, u⟩, ⟨h, l, u, h⟩, ⟨o, l, u, l⟩, ⟨o, l, u, o⟩, ⟨o, l, u, u⟩,
    ⟨o, l, u, h⟩, ⟨l, h, u, l⟩, ⟨l, h, u, o⟩, ⟨l, h, u, u⟩, ⟨l, h, u, h⟩, ⟨h, h, u, l⟩,
    ⟨h, h, u, o⟩, ⟨h, h, u, u⟩, ⟨h, h, u, h⟩, ⟨o, h, u, l⟩, ⟨o, h, u, o⟩, ⟨o, h, u, u⟩,
    ⟨o, h, u, h⟩, ⟨l, o, u, l⟩, ⟨l, o, u, o⟩, ⟨l, o, u, u⟩, ⟨l, o, u, h⟩, ⟨h, o, u, l⟩,
    ⟨h, o, u, o⟩, ⟨h, o, u, u⟩, ⟨h, o, u, h⟩, ⟨o, o, u, l⟩, ⟨o, o, u, o⟩, ⟨o, o, u, u⟩,
    ⟨o, o, u, h⟩, ⟨l, l, l, u⟩, ⟨h, l, l, u⟩, ⟨o, l, l, u⟩, ⟨l, h, l, u⟩, ⟨h, h, l, u⟩,
    ⟨o, h, l, u⟩, ⟨l, o, l, u⟩, ⟨h, o, l, u⟩, ⟨o, o, l, u⟩, ⟨l, l, h, u⟩, ⟨h, l, h, u⟩,
    ⟨o, l, h, u⟩, ⟨l, h, h, u⟩, ⟨h, h, h, u⟩, ⟨o, h, h, u⟩, ⟨l, o, h, u⟩, ⟨h, o, h, u⟩,
    ⟨o, o, h, u⟩, ⟨l, l, o, u⟩, ⟨h, l, o, u⟩, ⟨o, l, o, u⟩, ⟨l, h, o, u⟩, ⟨h, h, o, u⟩,
    ⟨o, h, o, u⟩, ⟨l, o, o, u⟩, ⟨h, o, o, u⟩, ⟨o, o, o, u⟩]

/-- The address trits of a packet. -/
def addressTrits (address : Int) : List Trit :=
  (motorolaCodes.getD address.toNat ⟨.l, .l, .l, .l⟩).trits

/-- The trit of the function F0. -/
def funcTrit (func : Bool) : Trit :=
  if func then .h else .l

/-- Trits of the four low bits of a speed, the least significant one first. -/
def speedTrits (speed : Nat) : List Trit :=
  (List.range 4).map fun i => if speed / 2 ^ i % 2 = 0 then .l else .h

/-- The bytes of a row of trits. -/
def tritPacket (trits : List Trit) : Packetstream :=
  trits.flatMap Trit.bytes

/-! ## Protocol type 1 -/

/-- The tests of `comp_maerklin_1` on its arguments. -/
def maerklin1Accepts (address direction speed : Int) : Bool :=
  !(address < 0 || 80 < address || speed < 0 || 15 < speed || direction < 0 || 1 < direction)

/-- The packet; speed 1 is the reversal code, for a direction other than the
cached one. -/
def maerklin1Packet (address direction speed : Int) (func : Bool) (locoDirection : Int) :
    Packetstream :=
  let speed := if direction ≠ locoDirection then 1 else speed
  tritPacket (addressTrits address ++ [funcTrit func] ++ speedTrits speed.toNat)

/-- `locoDirection` is the direction of the record that `cacheGetGL` yields. -/
def compMaerklin1 (ddl : DdlData) (address direction speed : Int) (func : Bool)
    (locoDirection : Int) : Nat × DdlData :=
  if !maerklin1Accepts address direction speed then (1, ddl)
  else
    let packet := maerklin1Packet address direction speed func locoDirection
    (0, { ddl with
      maerklinPacketPool := updateMaerklinPacketPool ddl.maerklinPacketPool
        ⟨address.toNat, ⟨packet, fun _ => packet⟩⟩
      queue := queueAdd ddl.queue address packet .m1LocoPkt 18 })

/-! ## Protocol type 2 -/

/-- The trits that the second bytes of the speed trits are taken from; `speed`
has the sign of `direction`.  The source has no case for the speeds from -7 to -1 of a command:
it leaves the trits uninitialised, which are those of the last case here. -/
def speedMask (direction speed : Int) : List Trit :=
  if 7 < speed then [.l, .h, .l, .l]
  else if 0 ≤ speed ∧ speed ≤ 7 ∧ direction = 1 then [.l, .h, .l, .h]
  else if speed ≤ 0 ∧ -7 ≤ speed ∧ direction = -1 then [.h, .l, .h, .h]
  else [.h, .l, .h, .l]

/-- A trit that takes its second half from another one. -/
def maskTrit (trit mask : Trit) : Trit :=
  if trit = .h ∧ mask = .l then .o
  else if trit = .l ∧ mask = .h then .u
  else trit

/-- The packet for speed and direction. -/
def maerklin2Packet (address direction speed : Int) (func speed1Obsolete : Bool) :
    Packetstream :=
  let direction := if direction = 0 then -1 else 1
  let speed := direction * speed
  let mspeed := speed.natAbs
  let sent := if speed1Obsolete ∧ mspeed = 1 then 0 else mspeed
  tritPacket (addressTrits address ++ [funcTrit func] ++
    List.zipWith maskTrit (speedTrits sent) (speedMask direction speed))

/-- The bytes 11, 13 and 15 of the packet for F1, F2, F3 or F4. -/
def functionCode (j : Fin 4) : BitVec 8 × BitVec 8 × BitVec 8 :=
  match j with
  | 0 => (hi, hi, lo)
  | 1 => (lo, lo, hi)
  | 2 => (lo, hi, hi)
  | 3 => (hi, hi, hi)

/-- Speeds for which the function code would be a speed code, for a function
that is off and for one that is on. -/
def exceptionSpeeds (j : Fin 4) : Nat × Nat :=
  match j with
  | 0 => (3, 11)
  | 1 => (4, 12)
  | 2 => (6, 14)
  | 3 => (7, 15)

/-- A packet whose speed trits also carry one of the functions F1 to F4. -/
def functionPacket (packet : Packetstream) (mspeed : Nat) (j : Fin 4) (f : Bool) :
    Packetstream :=
  let code :=
    if mspeed = (exceptionSpeeds j).2 ∧ f then (lo, hi, lo)
    else if mspeed = (exceptionSpeeds j).1 ∧ ¬ f then (hi, lo, hi)
    else functionCode j
  (((packet.set 11 code.1).set 13 code.2.1).set 15 code.2.2).set 17 (if f then hi else lo)

/-- The tests of `comp_maerklin_2` on its arguments, with a signed speed. -/
def maerklin2Accepts (maxAddress address direction speed : Int) : Bool :=
  let speed := (if direction = 0 then -1 else 1) * speed
  !(address < 0 || maxAddress < address || speed < -15 || 15 < speed)

/-- The first function packet that differs from the one in the pool. -/
def changedFunction (pool : MaerklinPacketPool) (adr : Nat) (fPackets : Fin 4 → Packetstream) :
    Option (Fin 4) :=
  (List.finRange 4).find? fun i =>
    ((pool.packets adr).fPackets i).getD 17 lo ≠ (fPackets i).getD 17 lo

/-- The common body of the composers for protocol type 2.  All packets go to the
pool, one of them to the queue: the first changed function packet, if there is
one, else the packet for speed and direction. -/
def compMaerklinType2 (maxAddress : Int) (speed1Obsolete : Bool) (ddl : DdlData)
    (address direction speed : Int) (func : Bool) (f : Fin 4 → Bool) : Nat × DdlData :=
  if !maerklin2Accepts maxAddress address direction speed then (1, ddl)
  else
    let packet := maerklin2Packet address direction speed func speed1Obsolete
    let fPackets := fun j => functionPacket packet speed.natAbs j (f j)
    let adr := address.toNat
    let queue :=
      match changedFunction ddl.maerklinPacketPool adr fPackets with
      | none => queueAdd ddl.queue address packet .m2LocoPkt 18
      | some fx => queueAdd ddl.queue address (fPackets fx) .m2FxPkt 18
    (0, { ddl with
      maerklinPacketPool :=
        updateMaerklinPacketPool ddl.maerklinPacketPool ⟨adr, ⟨packet, fPackets⟩⟩
      queue := queue })

/-- `comp_maerklin_2`, for 80 addresses. -/
def compMaerklin2 := compMaerklinType2 80 true

/-- Speed 1 is sent. -/
def compMaerklin4 := compMaerklinType2 255 false

/-- The two steps for a speed of 28, the second one 0 when one command is
enough. -/
def halfSteps (speed speedOld : Int) : Int × Int :=
  let acceleration := speedOld < speed
  let twoCommands := (acceleration ∧ speed % 2 = 1) ∨ (¬ acceleration ∧ speed % 2 = 0)
  if 0 < speed then
    if twoCommands then
      if speed % 2 = 1 then (speed / 2 + 2, speed / 2 + 1)
      else (if speed / 2 = 1 then 0 else speed / 2, speed / 2 + 1)
    else (speed / 2 + 1, 0)
  else (0, 0)

/-- `locoSpeed` is the speed of the record that `cacheGetGL` yields. -/
def compMaerklin5 (ddl : DdlData) (address direction speed : Int) (func : Bool)
    (f : Fin 4 → Bool) (locoSpeed : Int) : Nat × DdlData :=
  if speed < 0 ∨ 28 < speed then (1, ddl)
  else
    let steps := halfSteps speed locoSpeed
    let first := compMaerklin2 ddl address direction steps.1 func f
    if 0 < steps.2 ∧ first.1 = 0 then compMaerklin2 first.2 address direction steps.2 func f
    else first

end Srcpd.Ddl
