import Srcpd.Dcc.Packet
import Srcpd.Ddl.State

/-!
# Bit streams of the NMRA composers

The functions of `ddl_nmra.c` that calculate bytes as arrays of eight
characters and put them together to bit streams, up to
`comp_nmra_multi_func`, which hands the streams to the translation routine and
the packets to the pool and the queue.

A C `int` is an integer; where the source looks at its bits, it is the machine
word `i32`.  Below the definitions each array of characters is related to the
byte it spells.
-/

namespace Srcpd.Ddl

open Srcpd.Dcc

/-- The machine word of a C `int`. -/
def i32 (value : Int) : BitVec 32 := BitVec.ofInt 32 value

/-! ## Bytes -/

/-- Transform the lower 8 bit of the input into a bit stream byte. -/
def calcSingleByte (value : BitVec 32) : Bitstream :=
  (List.range 8).map fun i => value.getLsbD (7 - i)

/-- `11AAAAAA AAAAAAAA`. -/
def calc14bitAddressByte (address : Int) : Bitstream × Bitstream :=
  (calcSingleByte (0xc0 ||| (i32 address).sshiftRight 8), calcSingleByte (i32 address))

/-- `01DUSSSS`. -/
def calcBaselineSpeedByte (direction speed : Int) (func : BitVec 32) : Bitstream :=
  let byte := calcSingleByte (0x40 ||| i32 direction <<< 5 ||| i32 speed)
  if func &&& 1 ≠ 0 then byte.set 3 true else byte

/-- `01DSSSSS`, with the least significant speed bit at position 3. -/
def calc28spstSpeedByte (direction speed : Int) : Bitstream :=
  if 1 < speed then
    let speed := speed + 2
    let byte := calcSingleByte (0x40 ||| i32 direction <<< 5 ||| (i32 speed).sshiftRight 1)
    if i32 speed &&& 1 ≠ 0 then byte.set 3 true else byte
  else
    calcSingleByte (0x40 ||| i32 direction <<< 5 ||| i32 speed)

/-- `100DDDDD`; F0 is out of order. -/
def calcFunctionGroupOneByte (func : BitVec 32) : Bitstream :=
  let func := func &&& 0x1f
  let byte := calcSingleByte (0x80 ||| func.sshiftRight 1)
  if func &&& 1 ≠ 0 then byte.set 3 true else byte

/-- `101SDDDD`. -/
def calcFunctionGroupTwoByte (func : BitVec 32) (lower : Bool) : Bitstream :=
  if lower then
    calcSingleByte ((func.sshiftRight 5 &&& 0xf) ||| 0xb0)
  else
    calcSingleByte ((func.sshiftRight 9 &&& 0xf) ||| 0xa0)

/-- The instruction byte for 128 speed steps, and the byte with speed and direction. -/
def calc128spstAdvOpBytes (direction speed : Int) : Bitstream × Bitstream :=
  let byte2 := calcSingleByte (i32 speed)
  ([false, false, true, true, true, true, true, true],
    if direction = 1 then byte2.set 0 true else byte2)

/-- The error byte, bit by bit. -/
def xorTwoBytes (byte1 byte2 : Bitstream) : Bitstream :=
  List.zipWith (fun bit1 bit2 => if bit1 = bit2 then false else true) byte1 byte2

/-! ## Streams -/

/-- The 15 bits in front of each packet. -/
def preamble : Bitstream := List.replicate 15 true

/-- Between two commands to the same address there has to be a gap of at least
5 ms; the preamble holds the other 15 ones. -/
def wait : Bitstream := List.replicate 35 true

/-- The stream for the address bytes and the error detection byte of them;
mode 1 is the 7 bit form, mode 2 the 14 bit form. -/
def calcAddressStream (address mode : Int) : Bitstream × Bitstream :=
  let addrbytes := if mode = 1 then (calcSingleByte (i32 address &&& 0x7f), [])
    else calc14bitAddressByte address
  let addrerrbyte := if mode = 1 then addrbytes.1 else xorTwoBytes addrbytes.1 addrbytes.2
  let addrstream := preamble ++ [false] ++ addrbytes.1 ++ [false]
  (if mode = 2 then addrstream ++ addrbytes.2 ++ [false] else addrstream, addrerrbyte)

/-- Up to four command sequences, depending on the number of functions; because
of the long stream for 28 functions it is split into two parts. -/
def calcFunctionStream (bitstream addrerrbyte addrstream : Bitstream) (func : BitVec 32)
    (nfuncs : Int) : Bitstream × Bitstream :=
  let funcbyte := calcFunctionGroupOneByte func
  let errdbyte := xorTwoBytes addrerrbyte funcbyte
  let bitstream2 := addrstream ++ funcbyte ++ [false] ++ errdbyte ++ [true]
  if 5 < nfuncs then
    let funcbyte := calcFunctionGroupTwoByte func true
    let errdbyte := xorTwoBytes addrerrbyte funcbyte
    let bitstream :=
      bitstream ++ wait ++ addrstream ++ funcbyte ++ [false] ++ errdbyte ++ [true]
    if 8 < nfuncs then
      let funcbyte := calcFunctionGroupTwoByte func false
      let errdbyte := xorTwoBytes addrerrbyte funcbyte
      let bitstream2 :=
        bitstream2 ++ wait ++ addrstream ++ funcbyte ++ [false] ++ errdbyte ++ [true]
      if 12 < nfuncs then
        let funcbyte2 := [true, true, false, true, true, true, true, false]
        let funcbyte := calcSingleByte (func.sshiftRight 13)
        let errdbyte := xorTwoBytes (xorTwoBytes addrerrbyte funcbyte2) funcbyte
        let bitstream :=
          bitstream ++ wait ++ addrstream ++ funcbyte2 ++ [false] ++ funcbyte ++ [false] ++
            errdbyte ++ [true]
        if 20 < nfuncs then
          let funcbyte2 := funcbyte2.set 7 true
          let funcbyte := calcSingleByte (func.sshiftRight 21)
          let errdbyte := xorTwoBytes (xorTwoBytes addrerrbyte funcbyte2) funcbyte
          let bitstream2 :=
            bitstream2 ++ wait ++ addrstream ++ funcbyte2 ++ [false] ++ funcbyte ++ [false] ++
              errdbyte ++ [true]
          (bitstream, bitstream2)
        else (bitstream, bitstream2)
      else (bitstream, bitstream2)
    else (bitstream, bitstream2)
  else (bitstream, bitstream2)

/-- The range check of `comp_nmra_multi_func`. -/
def multiFuncAccepts (address direction speed nspeed mode : Int) : Bool :=
  !(address < 1 || 10239 < address || direction < 0 || 1 < direction ||
    speed < 0 || nspeed + 1 < speed || (127 < address && mode == 1))

/-- The stream of the speed packet.  Commands for stop and emergency stop are
identical for all numbers of speed steps. -/
def calcSpeedStream (addrstream addrerrbyte : Bitstream) (direction speed : Int)
    (func : BitVec 32) (nspeed : Int) : Bitstream :=
  let adv := calc128spstAdvOpBytes direction speed
  let spdrbyte :=
    if speed < 2 ∨ nspeed < 15 then calcBaselineSpeedByte direction speed func
    else if 29 < nspeed then adv.1
    else calc28spstSpeedByte direction speed
  let errdbyte := xorTwoBytes addrerrbyte spdrbyte
  if 29 < nspeed ∧ 1 < speed then
    addrstream ++ spdrbyte ++ [false] ++ adv.2 ++ [false] ++ xorTwoBytes errdbyte adv.2 ++ [true]
  else
    addrstream ++ spdrbyte ++ [false] ++ errdbyte ++ [true]

/-- The streams that `comp_nmra_multi_func` hands to the translation routine;
the second one only for decoders with functions and more than 14 speed
steps. -/
def multiFuncStreams (address direction speed : Int) (func : BitVec 32)
    (nspeed nfuncs mode : Int) : Bitstream × Option Bitstream :=
  let speed := if 127 < speed then 127 else speed
  let addr := calcAddressStream address mode
  let bitstream := calcSpeedStream addr.1 addr.2 direction speed func nspeed
  if nfuncs ≠ 0 ∧ 14 < nspeed then
    let streams := calcFunctionStream bitstream addr.2 addr.1 func nfuncs
    (streams.1, some streams.2)
  else
    (bitstream, none)

/-- Internal offset of the long addresses. -/
def addr14bitOffset : Int := 128

/-- The identifier that is only used to store the packets. -/
def multiFuncAdr (address mode : Int) : Int :=
  if mode = 2 then address + addr14bitOffset else address

/-- The arguments of `comp_nmra_multi_func`. -/
structure MultiFuncCall where
  address : Int
  direction : Int
  speed : Int
  func : BitVec 32
  nspeed : Int
  nfuncs : Int
  mode : Int
  deriving DecidableEq, Repr

/-- The tests of `comp_nmra_multi_func` on its arguments. -/
def MultiFuncCall.accepted (call : MultiFuncCall) : Bool :=
  multiFuncAccepts call.address call.direction call.speed call.nspeed call.mode

/-- Returns 0 when everything is done, and 1 on an error.  `none` when a
translation is still running or the pool is locked. -/
def compNmraMultiFunc (fuel : Nat) (malloc : Option NmraPacket) (ddl : DdlData)
    (call : MultiFuncCall) : Option (Nat × DdlData) :=
  let adr := multiFuncAdr call.address call.mode
  if !call.accepted then some (1, ddl)
  else
    let streams := multiFuncStreams call.address call.direction call.speed call.func call.nspeed
      call.nfuncs call.mode
    let translate := fun bitstream =>
      translateBitstream2Packetstream ddl.nmradccTrV fuel bitstream false
    (translate streams.1).bind fun (j, packetstream) =>
      ((streams.2.map translate).getD (some (j, packetstream))).bind fun (jj, packetstream2) =>
        if 0 < j ∧ 0 < jj then
          (updateNmraPacketPool ddl.nmraPacketPool malloc
            ⟨adr.toNat, packetstream, j, packetstream2, jj⟩).map fun pool =>
              let queue := queueAdd ddl.queue adr packetstream .nbLocoPkt j
              let queue :=
                if streams.2.isSome then queueAdd queue adr packetstream2 .nbLocoPkt jj else queue
              (0, { ddl with nmraPacketPool := pool, queue := queue })
        else some (1, ddl)

/-! ## The bytes the characters spell -/

theorem calcSingleByte_eq (value : BitVec 32) :
    calcSingleByte value = byteBits (value.setWidth 8) := by
  simp [calcSingleByte, byteBits, List.range, List.range.loop]

@[simp]
theorem xorTwoBytes_byteBits (byte1 byte2 : Byte) :
    xorTwoBytes (byteBits byte1) (byteBits byte2) = byteBits (byte1 ^^^ byte2) := by
  have differ (bit1 bit2 : Bool) : (if bit1 = bit2 then false else true) = (bit1 ^^ bit2) := by
    cases bit1 <;> cases bit2 <;> rfl
  simp [xorTwoBytes, byteBits, differ]

theorem byteBits_set_three : ∀ byte : Byte,
    (byteBits byte).set 3 true = byteBits (byte ||| 0x10) := by
  decide

theorem byteBits_set_zero : ∀ byte : Byte,
    (byteBits byte).set 0 true = byteBits (byte ||| 0x80) := by
  decide

end Srcpd.Ddl
