import Srcpd.Dcc.Program
import Srcpd.Ddl.MultiFunc

/-!
# The programming composers

The functions of `ddl_nmra.c` that write and verify registers, pages and configuration
variables: the bit stream of each packet, the loops that put the packets of a command
together, and the range checks in front of them.  `meets_iff` says which commands tell
the decoder what was asked for, and are told apart.
-/

namespace Srcpd.Ddl.Program

open Srcpd.Dcc

/-! ## Packets -/

/-- A string constant of the source as bits. -/
def bits (text : String) : Bitstream :=
  text.toList.map (· == '1')

/-- The preamble of 30 bits in service mode. -/
def longpreamble : Bitstream := bits "111111111111111111111111111111"

/-- The reset packet in service mode. -/
def resetPacket : Bitstream :=
  bits "1111111111111111111111111111110000000000000000000000000001"

/-- The packet that presets the page register. -/
def pagePresetPacket : Bitstream :=
  bits "1111111111111111111111111111110011111010000000010011111001"

/-- The idle packet of `ddl_nmra.c`, behind a preamble of 30 bits. -/
def idlePacket : Bitstream :=
  bits "1111111111111111111111111111110111111110000000000111111111"

/-- The stream for the CV programming sequence, behind the address. -/
def calcByteProgramStream (addrerrbyte : Bitstream) (cv value : Int) (verify pom : Bool) :
    Bitstream :=
  let byte3 := calcSingleByte (i32 cv)
  let byte2 := if pom then calcSingleByte (0xec ||| (i32 cv).sshiftRight 8)
    else calcSingleByte (0x7c ||| (i32 cv).sshiftRight 8)
  let byte2 := if verify then byte2.set 4 false else byte2
  let byte4 := calcSingleByte (i32 value)
  let byte5 := xorTwoBytes (xorTwoBytes (xorTwoBytes addrerrbyte byte2) byte3) byte4
  byte2 ++ [false] ++ byte3 ++ [false] ++ byte4 ++ [false] ++ byte5 ++ [true]

/-- The same for a single bit. -/
def calcBitProgramStream (addrerrbyte : Bitstream) (cv bit value : Int) (verify pom : Bool) :
    Bitstream :=
  let byte3 := calcSingleByte (i32 cv)
  let byte2 := if pom then calcSingleByte (0xe8 ||| (i32 cv).sshiftRight 8)
    else calcSingleByte (0x78 ||| (i32 cv).sshiftRight 8)
  let byte4 := calcSingleByte (0xf0 ||| i32 value <<< 3 ||| i32 bit)
  let byte4 := if verify then byte4.set 3 false else byte4
  let byte5 := xorTwoBytes (xorTwoBytes (xorTwoBytes addrerrbyte byte2) byte3) byte4
  byte2 ++ [false] ++ byte3 ++ [false] ++ byte4 ++ [false] ++ byte5 ++ [true]

/-- The stream to access a physical register: `0111CRRR DDDDDDDD`. -/
def calcRegStream (reg value : Int) (verify : Bool) : Bitstream :=
  let byte1 := calcSingleByte (0x78 ||| i32 reg)
  let byte1 := if verify then byte1.set 4 false else byte1
  let byte2 := calcSingleByte (i32 value)
  let byte3 := xorTwoBytes byte1 byte2
  longpreamble ++ [false] ++ byte1 ++ [false] ++ byte2 ++ [false] ++ byte3 ++ [true]

/-! ## Commands

The packets of a command in the order in which they are written; `none` when
the arguments are refused. -/

/-- Write or verify a byte of a physical register. -/
def protocolNmraSmPhregister (reg value : Int) (verify : Bool) : Option (List Bitstream) :=
  if reg < 1 ∨ 8 < reg ∨ value < 0 ∨ 255 < value then none
  else
    let packetstream := calcRegStream (reg - 1) value verify
    some (loops (if !verify then
      [(50, idlePacket), (6, resetPacket), (10, pagePresetPacket), (12, resetPacket),
        (12, resetPacket), (20, packetstream), (24, packetstream), (24, resetPacket)]
    else [(30, idlePacket), (5, resetPacket), (20, packetstream)]))

/-- The same with paged mode addressing. -/
def protocolNmraSmPage (page reg value : Int) (verify : Bool) : Option (List Bitstream) :=
  if reg < 0 ∨ 3 < reg ∨ page < 0 ∨ 255 < page ∨ value < 0 ∨ 255 < value then none
  else
    let packetstream := calcRegStream reg value verify
    -- set page to register 6 (number 5)
    let packetstreamPage := calcRegStream 5 page false
    some (loops [(50, idlePacket), (6, resetPacket), (10, packetstreamPage), (12, resetPacket),
      (12, resetPacket), (15, packetstream), (15, packetstream), (24, resetPacket)])

/-- Verify or write a byte of a configuration variable. -/
def protocolNmraSmDirectCvbyte (cv value : Int) (verify : Bool) : Option (List Bitstream) :=
  let number := cv - 1
  if number < 0 ∨ 1024 < number ∨ value < 0 ∨ 255 < value then none
  -- address only mode
  else if number = 0 ∧ value < 128 then protocolNmraSmPhregister 1 value verify
  else
    let progstream := calcByteProgramStream (bits "00000000") number value verify false
    let packetstream := longpreamble ++ [false] ++ progstream
    some (loops (if !verify then [(30, idlePacket), (15, resetPacket), (20, packetstream)]
      else [(30, idlePacket), (5, resetPacket), (20, packetstream)]))

/-- Verify or write a single bit of a configuration variable. -/
def protocolNmraSmDirectCvbit (cv bit value : Int) (verify : Bool) : Option (List Bitstream) :=
  let number := cv - 1
  if number < 0 ∨ 1023 < number ∨ bit < 0 ∨ 7 < bit ∨ value < 0 ∨ 1 < value then none
  else
    let progstream := calcBitProgramStream (bits "00000000") number bit value verify false
    let packetstream := longpreamble ++ [false] ++ progstream
    some (loops [(30, idlePacket), (15, resetPacket), (20, packetstream)])

/-- Write a configuration variable on the main. -/
def protocolNmraSmWriteCvbytePom (address cv value mode : Int) : Option (List Bitstream) :=
  let number := cv - 1
  if address < 1 ∨ 10239 < address ∨ number < 0 ∨ 1023 < number ∨ value < 0 ∨ 255 < value ∨
      (127 < address ∧ mode = 1) then none
  else
    let addr := calcAddressStream address mode
    some [addr.1 ++ calcByteProgramStream addr.2 number value false true]

/-- Write a single bit of a configuration variable on the main; CV 1 is
disabled. -/
def protocolNmraSmWriteCvbitPom (address cv bit value mode : Int) : Option (List Bitstream) :=
  let number := cv - 1
  if address < 1 ∨ 10239 < address ∨ number < 1 ∨ 1023 < number ∨ bit < 0 ∨ 7 < bit ∨
      value < 0 ∨ 1 < value ∨ (127 < address ∧ mode = 1) then none
  else
    let addr := calcAddressStream address mode
    some [addr.1 ++ calcBitProgramStream addr.2 number bit value false true]

/-- The page number for a given CV. -/
def calcPage (cv : Int) : Int :=
  (cv - 1).tdiv 4 + 1

/-- `(cv - 1) & 3`. -/
def pageRegister (cv : Int) : Int :=
  ((i32 (cv - 1) &&& 3).toNat : Int)

/-- `protocol_nmra_sm_write_page` and `protocol_nmra_sm_verify_page`. -/
def protocolNmraSmAccessPage (cv value : Int) (verify : Bool) : Option (List Bitstream) :=
  protocolNmraSmPage (calcPage cv) (pageRegister cv) value verify

/-- A command for one of the composers; `long` is the 14 bit address of PoM. -/
inductive Command
  | phregister (reg value : Int) (verify : Bool)
  | page (cv value : Int) (verify : Bool)
  | directCvbyte (cv value : Int) (verify : Bool)
  | directCvbit (cv bit value : Int) (verify : Bool)
  | cvbytePom (address cv value : Int) (long : Bool)
  | cvbitPom (address cv bit value : Int) (long : Bool)
  deriving DecidableEq, Repr

/-- The version of the protocol for a short or a long address. -/
def addressMode (long : Bool) : Int :=
  if long then 2 else 1

/-- The streams that the function of a command sends; `none` when it refuses. -/
def Command.sent : Command → Option (List Bitstream)
  | .phregister reg value verify => protocolNmraSmPhregister reg value verify
  | .page cv value verify => protocolNmraSmAccessPage cv value verify
  | .directCvbyte cv value verify => protocolNmraSmDirectCvbyte cv value verify
  | .directCvbit cv bit value verify => protocolNmraSmDirectCvbit cv bit value verify
  | .cvbytePom address cv value long =>
      protocolNmraSmWriteCvbytePom address cv value (addressMode long)
  | .cvbitPom address cv bit value long =>
      protocolNmraSmWriteCvbitPom address cv bit value (addressMode long)

/-! ## What is asked for -/

/-- Direct access to CV 1 with a value below 128 is sent as physical register 1. -/
def Command.physical : Command → Command
  | .directCvbyte cv value verify =>
      if cv = 1 ∧ value < 128 then .phregister 1 value verify else .directCvbyte cv value verify
  | command => command

/-- The packets of a command for the main are read behind an address. -/
def Command.decode : Command → List Byte → Option Programming
  | .cvbytePom .. | .cvbitPom .. => decodeOnMain
  | _ => decodeService

/-- The instructions do what the command says.  A write to a register presets page 1, and
a variable is in the page and register that its number names. -/
def Command.Means : Command → List Programming → Prop
  | .phregister reg value verify, instructions =>
      instructions = (if verify then [] else [.register false 6 1]) ++
        [.register verify reg.toNat value.toNat]
  | .page cv value verify, instructions =>
      ∃ page register, instructions =
        [.register false 6 page, .register verify register value.toNat] ∧
          (pagedCv page register : Int) = cv
  | .directCvbyte cv value verify, instructions =>
      instructions = [.direct (.byte verify cv.toNat value.toNat)]
  | .directCvbit cv bit value verify, instructions =>
      instructions = [.direct (.bit verify cv.toNat bit.toNat (decide (value = 1)))]
  | .cvbytePom address cv value long, instructions =>
      instructions = [.onMain (givenAddress address (addressMode long))
        (.byte false cv.toNat value.toNat)]
  | .cvbitPom address cv bit value long, instructions =>
      instructions = [.onMain (givenAddress address (addressMode long))
        (.bit false cv.toNat bit.toNat (decide (value = 1)))]

/-- The packets tell what is asked for. -/
def Command.Told (command : Command) (packets : List Bitstream) : Prop :=
  ∃ instructions, command.physical.Means instructions ∧
    Tells command.decode packets.flatten instructions

/-- If both commands are accepted, they tell what is asked for, and if they differ, so do
their packets. -/
def Meets (first second : Command) : Prop :=
  ∀ packets ∈ first.sent, ∀ packets' ∈ second.sent,
    first.Told packets ∧ second.Told packets' ∧
      (first.physical ≠ second.physical → packets ≠ packets')

/-- The number of the variable is one of the decoder; the checks let others pass in two
places. -/
def Command.Numbered : Command → Prop
  | .directCvbyte cv _ _ => cv ≤ 1024
  | .page cv _ _ => 1 ≤ cv
  | _ => True

/-! ## Bytes -/

theorem byteBits_clear_four : ∀ byte : Byte,
    (byteBits byte).set 4 false = byteBits (byte &&& 0xf7) := by
  decide

theorem byteBits_clear_three : ∀ byte : Byte,
    (byteBits byte).set 3 false = byteBits (byte &&& 0xef) := by
  decide

theorem ite_clear_four (verify : Bool) (byte : Byte) :
    (if verify then (byteBits byte).set 4 false else byteBits byte) =
      byteBits (if verify then byte &&& 0xf7 else byte) := by
  cases verify with
  | false => rfl
  | true => exact byteBits_clear_four byte

theorem ite_clear_three (verify : Bool) (byte : Byte) :
    (if verify then (byteBits byte).set 3 false else byteBits byte) =
      byteBits (if verify then byte &&& 0xef else byte) := by
  cases verify with
  | false => rfl
  | true => exact byteBits_clear_three byte

/-- `0111CRRR`. -/
def registerByte (register : BitVec 32) (verify : Bool) : Byte :=
  let byte : Byte := (0x78 ||| register).setWidth 8
  if verify then byte &&& 0xf7 else byte

/-- `011111AA` and `111011AA`. -/
def cvbyteByte (high : BitVec 32) (verify pom : Bool) : Byte :=
  let byte : Byte := ((if pom then 0xec else 0x7c) ||| high).setWidth 8
  if verify then byte &&& 0xf7 else byte

/-- `011110AA` and `111010AA`. -/
def cvbitByte (high : BitVec 32) (pom : Bool) : Byte :=
  ((if pom then 0xe8 else 0x78) ||| high).setWidth 8

/-- `111CDBBB`. -/
def bitByte (value bit : BitVec 32) (verify : Bool) : Byte :=
  let byte : Byte := (0xf0 ||| value <<< 3 ||| bit).setWidth 8
  if verify then byte &&& 0xef else byte

theorem registerByte_table : ∀ (register : Fin 8) (verify : Bool),
    registerByte (BitVec.ofNat 32 register) verify &&& 0xf0 = 0x70 ∧
      (!(registerByte (BitVec.ofNat 32 register) verify).getLsbD 3) = verify ∧
      (registerByte (BitVec.ofNat 32 register) verify).toNat % 8 = register := by
  decide

/-- The fifth value is the high byte of 1024; its bit is one of the opcode anyway. -/
theorem cvbyteByte_table : ∀ (high : Fin 5) (verify pom : Bool),
    let byte := cvbyteByte (BitVec.ofNat 32 high) verify pom
    byte &&& 0xf0 = (if pom then 0xe0 else 0x70) ∧
      byte &&& 0x0c = (if verify then 0x04 else 0x0c) ∧ byte.toNat % 4 = high % 4 := by
  decide

theorem cvbitByte_table : ∀ (high : Fin 4) (pom : Bool),
    let byte := cvbitByte (BitVec.ofNat 32 high) pom
    byte &&& 0xf0 = (if pom then 0xe0 else 0x70) ∧ byte &&& 0x0c = 0x08 ∧
      byte.toNat % 4 = high := by
  decide

theorem bitByte_table : ∀ (value : Fin 2) (bit : Fin 8) (verify : Bool),
    let byte := bitByte (BitVec.ofNat 32 value) (BitVec.ofNat 32 bit) verify
    byte &&& 0xe0 = 0xe0 ∧ (!byte.getLsbD 4) = verify ∧ byte.toNat % 8 = bit ∧
      byte.getLsbD 3 = decide (value = 1) := by
  decide

theorem toNat_lowByte {number : Nat} (small : number < 2 ^ 31) :
    ((i32 number).setWidth 8 : Byte).toNat = number % 256 := by
  rw [BitVec.toNat_setWidth, toNat_i32 (by omega)]

/-! ## Packets of bytes -/

theorem completed_program (front : List Byte) (byte2 byte3 byte4 : Byte) :
    completed (front ++ [byte2, byte3, byte4]) =
      front ++ [byte2, byte3, byte4, xorBytes front ^^^ byte2 ^^^ byte3 ^^^ byte4] := by
  simp [completed, xorBytes_append, BitVec.xor_assoc]

theorem calcByteProgramStream_eq (addrerrbyte : Byte) (cv value : Int) (verify pom : Bool) :
    let byte2 := cvbyteByte ((i32 cv).sshiftRight 8) verify pom
    let byte3 : Byte := (i32 cv).setWidth 8
    let byte4 : Byte := (i32 value).setWidth 8
    calcByteProgramStream (byteBits addrerrbyte) cv value verify pom =
      dataBits [byte2, byte3, byte4, addrerrbyte ^^^ byte2 ^^^ byte3 ^^^ byte4] := by
  intro byte2 byte3 byte4
  have second : (if verify then
      (if pom then calcSingleByte (0xec ||| (i32 cv).sshiftRight 8)
        else calcSingleByte (0x7c ||| (i32 cv).sshiftRight 8)).set 4 false
      else if pom then calcSingleByte (0xec ||| (i32 cv).sshiftRight 8)
        else calcSingleByte (0x7c ||| (i32 cv).sshiftRight 8)) = byteBits byte2 := by
    cases pom with
    | false => simp only [calcSingleByte_eq, Bool.false_eq_true, if_false, ite_clear_four]; rfl
    | true => simp only [calcSingleByte_eq, if_true, ite_clear_four]; rfl
  simp only [calcByteProgramStream, second]
  simp only [calcSingleByte_eq, xorTwoBytes_byteBits, dataBits, List.append_assoc,
    List.cons_append, List.nil_append]
  rfl

theorem calcBitProgramStream_eq (addrerrbyte : Byte) (cv bit value : Int) (verify pom : Bool) :
    let byte2 := cvbitByte ((i32 cv).sshiftRight 8) pom
    let byte3 : Byte := (i32 cv).setWidth 8
    let byte4 := bitByte (i32 value) (i32 bit) verify
    calcBitProgramStream (byteBits addrerrbyte) cv bit value verify pom =
      dataBits [byte2, byte3, byte4, addrerrbyte ^^^ byte2 ^^^ byte3 ^^^ byte4] := by
  intro byte2 byte3 byte4
  have second : (if pom then calcSingleByte (0xe8 ||| (i32 cv).sshiftRight 8)
      else calcSingleByte (0x78 ||| (i32 cv).sshiftRight 8)) = byteBits byte2 := by
    cases pom with
    | false => exact calcSingleByte_eq _
    | true => exact calcSingleByte_eq _
  have fourth : (if verify then
      (calcSingleByte (0xf0 ||| i32 value <<< 3 ||| i32 bit)).set 3 false
      else calcSingleByte (0xf0 ||| i32 value <<< 3 ||| i32 bit)) = byteBits byte4 := by
    rw [calcSingleByte_eq, ite_clear_three]
    rfl
  simp only [calcBitProgramStream, second, fourth]
  simp only [calcSingleByte_eq, xorTwoBytes_byteBits, dataBits, List.append_assoc,
    List.cons_append, List.nil_append]
  rfl

/-- A packet for the programming track, behind the long preamble. -/
theorem longpreamble_packet (byte2 byte3 byte4 : Byte) :
    longpreamble ++ [false] ++
        dataBits [byte2, byte3, byte4, 0x00 ^^^ byte2 ^^^ byte3 ^^^ byte4] =
      packetBits 30 (completed [byte2, byte3, byte4]) := by
  have whole := completed_program [] byte2 byte3 byte4
  rw [List.nil_append, List.nil_append, xorBytes_nil] at whole
  rw [whole, packetBits, List.append_assoc]
  rfl

theorem calcRegStream_eq (reg value : Int) (verify : Bool) :
    calcRegStream reg value verify =
      packetBits 30 (completed [registerByte (i32 reg) verify, (i32 value).setWidth 8]) := by
  have first : (if verify then (calcSingleByte (0x78 ||| i32 reg)).set 4 false
      else calcSingleByte (0x78 ||| i32 reg)) = byteBits (registerByte (i32 reg) verify) := by
    rw [calcSingleByte_eq, ite_clear_four]
    rfl
  have whole (byte1 byte2 : Byte) : completed [byte1, byte2] = [byte1, byte2, byte1 ^^^ byte2] := by
    simp [completed]
  simp only [calcRegStream, first, whole]
  simp only [calcSingleByte_eq, xorTwoBytes_byteBits, packetBits, dataBits, List.append_assoc,
    List.cons_append, List.nil_append]
  rfl

theorem resetPacket_eq : resetPacket = packetBits 30 resetBytes := by decide

/-- The packet that the refresh sends, behind another half of the preamble. -/
theorem idlePacket_eq_append : idlePacket = List.replicate 15 true ++ Ddl.idlePacket := by decide

theorem idlePacket_eq : idlePacket = packetBits 30 idleBytes := by
  rw [idlePacket_eq_append]
  decide

/-- Register 6 is set to page 1. -/
theorem pagePresetPacket_eq :
    pagePresetPacket = packetBits 30 (completed [registerByte 5 false, 1]) := by decide

/-! ## What is heard -/

theorem i32_ofNat (number : Nat) : i32 number = BitVec.ofNat 32 number :=
  BitVec.ofInt_natCast ..

theorem toNat_dataByte {value : Nat} (small : value ≤ 255) :
    ((i32 value).setWidth 8 : Byte).toNat = value := by
  rw [toNat_lowByte (by omega)]
  omega

/-- The number behind 1024 has the packet of the first one. -/
theorem decodeAccess_cvbyte {number value : Nat} (inRange : number ≤ 1024) (small : value ≤ 255)
    (verify pom : Bool) :
    let byte2 := cvbyteByte ((i32 number).sshiftRight 8) verify pom
    byte2 &&& 0xf0 = (if pom then 0xe0 else 0x70) ∧
      decodeAccess byte2 ((i32 number).setWidth 8) ((i32 value).setWidth 8) =
        some (.byte verify (number % 1024 + 1) value) := by
  obtain ⟨opcode, kind, high⟩ := cvbyteByte_table ⟨number / 256, by omega⟩ verify pom
  dsimp only at opcode kind high
  rw [sshiftRight_i32 (by omega), show number / 2 ^ 8 = number / 256 from rfl]
  refine ⟨opcode, ?_⟩
  have cv : number / 256 % 4 * 256 + number % 256 + 1 = number % 1024 + 1 := by omega
  simp only [decodeAccess, kind, high, toNat_lowByte (show number < 2 ^ 31 by omega),
    toNat_dataByte small, cv]
  cases verify with
  | false => rfl
  | true => rfl

theorem decodeAccess_cvbit {number bit value : Nat} (inRange : number ≤ 1023) (bit_le : bit ≤ 7)
    (value_le : value ≤ 1) (verify pom : Bool) :
    let byte2 := cvbitByte ((i32 number).sshiftRight 8) pom
    byte2 &&& 0xf0 = (if pom then 0xe0 else 0x70) ∧
      decodeAccess byte2 ((i32 number).setWidth 8) (bitByte (i32 value) (i32 bit) verify) =
        some (.bit verify (number + 1) bit (decide (value = 1))) := by
  obtain ⟨opcode, kind, high⟩ := cvbitByte_table ⟨number / 256, by omega⟩ pom
  obtain ⟨marked, verified, which, on⟩ :=
    bitByte_table ⟨value, by omega⟩ ⟨bit, by omega⟩ verify
  dsimp only at opcode kind high marked verified which on
  rw [sshiftRight_i32 (by omega), show number / 2 ^ 8 = number / 256 from rfl, i32_ofNat value,
    i32_ofNat bit]
  refine ⟨opcode, ?_⟩
  have cv : number / 256 * 256 + number % 256 + 1 = number + 1 := by omega
  have same : decide ((⟨value, by omega⟩ : Fin 2) = 1) = decide (value = 1) := by
    simp [Fin.ext_iff]
  rw [same] at on
  simp only [decodeAccess, kind, high, toNat_lowByte (show number < 2 ^ 31 by omega), cv, marked,
    verified, which, on]
  rfl

theorem decodeService_register {register value : Nat} (inRange : register ≤ 7)
    (small : value ≤ 255) (verify : Bool) :
    registerByte (i32 register) verify &&& 0xf0 = 0x70 ∧
      decodeService [registerByte (i32 register) verify, (i32 value).setWidth 8] =
        some (.register verify (register + 1) value) := by
  obtain ⟨opcode, verified, which⟩ := registerByte_table ⟨register, by omega⟩ verify
  dsimp only at opcode verified which
  rw [i32_ofNat register]
  refine ⟨opcode, ?_⟩
  simp only [decodeService, opcode, if_true, verified, which, toNat_dataByte small]

/-- Instructions for the programming track are no resets and no idle packets. -/
theorem telling_service {byte : Byte} (opcode : byte &&& 0xf0 = 0x70) (rest : List Byte) :
    Telling (byte :: rest) = true := by
  rw [Telling, decide_eq_true_eq]
  constructor
  · rintro same
    cases (List.cons.inj same).1
    exact absurd opcode (by decide)
  · rintro same
    cases (List.cons.inj same).1
    exact absurd opcode (by decide)

theorem telling_of_length {bytes : List Byte} (long : 3 < bytes.length) :
    Telling bytes = true := by
  rw [Telling, decide_eq_true_eq]
  constructor
  · rintro rfl
    exact absurd long (by decide)
  · rintro rfl
    exact absurd long (by decide)

/-- What a decoder hears when the command is accepted. -/
def Command.heard : Command → List Programming
  | .phregister reg value verify =>
      (if verify then [] else [.register false 6 1]) ++ [.register verify reg.toNat value.toNat]
  | .page cv value verify =>
      [.register false 6 (calcPage cv).toNat,
        .register verify ((pageRegister cv).toNat + 1) value.toNat]
  | .directCvbyte cv value verify =>
      [.direct (.byte verify ((cv - 1).toNat % 1024 + 1) value.toNat)]
  | .directCvbit cv bit value verify =>
      [.direct (.bit verify cv.toNat bit.toNat (decide (value = 1)))]
  | .cvbytePom address cv value long =>
      [.onMain (givenAddress address (addressMode long)) (.byte false cv.toNat value.toNat)]
  | .cvbitPom address cv bit value long =>
      [.onMain (givenAddress address (addressMode long))
        (.bit false cv.toNat bit.toNat (decide (value = 1)))]

theorem wellFormed_idle : WellFormed idleBytes := by decide

theorem wellFormed_reset : WellFormed resetBytes := by decide

theorem wellFormed_pair (byte1 byte2 : Byte) : WellFormed (completed [byte1, byte2]) :=
  wellFormed_completed (le_refl 2)

/-- Repetitions in two parts. -/
theorem destutter_again (first second : Option Programming) :
    [first, second, second].destutter (· ≠ ·) = [first, second].destutter (· ≠ ·) :=
  @destutter_loops _ [(1, first), (2, second)] _ (by simp)

@[simp]
theorem telling_idle : Telling idleBytes = false := by decide

@[simp]
theorem telling_reset : Telling resetBytes = false := by decide

@[simp]
theorem dropLast_completed (bytes : List Byte) : (completed bytes).dropLast = bytes :=
  List.dropLast_concat

theorem telling_preset : Telling (completed [registerByte 5 false, 1]) = true := by decide

theorem decodeService_preset :
    decodeService [registerByte 5 false, 1] = some (.register false 6 1) := by decide

section Hears

variable {packets : List Bitstream} {verify : Bool}

theorem phregister_hears {reg value : Int}
    (sent : protocolNmraSmPhregister reg value verify = some packets) :
    Heard decodeService packets (Command.phregister reg value verify).heard := by
  rw [protocolNmraSmPhregister] at sent
  split at sent
  · contradiction
  · next inRange =>
      obtain ⟨register, rfl⟩ : ∃ register : Nat, reg = register + 1 :=
        ⟨(reg - 1).toNat, by omega⟩
      obtain ⟨byte, rfl⟩ : ∃ byte : Nat, value = byte := ⟨value.toNat, by omega⟩
      obtain ⟨opcode, decoded⟩ :=
        decodeService_register (show register ≤ 7 by omega) (show byte ≤ 255 by omega) verify
      have tells : Telling (completed [registerByte (i32 register) verify,
          (i32 byte).setWidth 8]) = true := telling_service opcode _
      have number : ((register : Int) + 1).toNat = register + 1 := by omega
      dsimp only at sent
      rw [Int.add_sub_cancel, calcRegStream_eq, resetPacket_eq, idlePacket_eq,
        pagePresetPacket_eq] at sent
      rw [Command.heard, number, Int.toNat_natCast]
      generalize (i32 byte).setWidth 8 = data at sent decoded tells
      generalize registerByte (i32 register) verify = instruction at sent decoded tells
      cases verify with
      | false =>
          cases sent
          refine ⟨30, [(50, idleBytes), (6, resetBytes), (10, completed [registerByte 5 false, 1]),
            (12, resetBytes), (12, resetBytes), (20, completed [instruction, data]),
            (24, completed [instruction, data]), (24, resetBytes)], by decide, ?_, ?_, ?_⟩
          · rw [map_loops]
            rfl
          · simp [wellFormed_idle, wellFormed_reset, wellFormed_pair]
          · simp only [List.filter_cons, telling_idle, telling_reset, telling_preset, tells,
              List.filter_nil, List.map_cons, List.map_nil, if_true, Bool.false_eq_true, if_false,
              dropLast_completed, decodeService_preset, decoded]
            exact destutter_again _ _
      | true =>
          cases sent
          refine ⟨30, [(30, idleBytes), (5, resetBytes), (20, completed [instruction, data])],
            by decide, ?_, ?_, ?_⟩
          · rw [map_loops]
            rfl
          · simp [wellFormed_idle, wellFormed_reset, wellFormed_pair]
          · simp only [List.filter_cons, telling_idle, telling_reset, tells, List.filter_nil,
              List.map_cons, List.map_nil, if_true, Bool.false_eq_true, if_false,
              dropLast_completed, decoded]
            rfl

theorem page_hears {page reg value : Int}
    (sent : protocolNmraSmPage page reg value verify = some packets) :
    Heard decodeService packets
      [.register false 6 page.toNat, .register verify (reg.toNat + 1) value.toNat] := by
  rw [protocolNmraSmPage] at sent
  split at sent
  · contradiction
  · next inRange =>
      obtain ⟨register, rfl⟩ := Int.eq_ofNat_of_zero_le (show 0 ≤ reg by omega)
      obtain ⟨number, rfl⟩ := Int.eq_ofNat_of_zero_le (show 0 ≤ page by omega)
      obtain ⟨byte, rfl⟩ := Int.eq_ofNat_of_zero_le (show 0 ≤ value by omega)
      obtain ⟨opcode, decoded⟩ :=
        decodeService_register (show register ≤ 7 by omega) (show byte ≤ 255 by omega) verify
      obtain ⟨opcode', decoded'⟩ :=
        decodeService_register (show 5 ≤ 7 by decide) (show number ≤ 255 by omega) false
      rw [show ((5 : Nat) : Int) = 5 from rfl] at opcode' decoded'
      have tells : Telling (completed [registerByte (i32 register) verify,
          (i32 byte).setWidth 8]) = true := telling_service opcode _
      have tells' : Telling (completed [registerByte (i32 5) false,
          (i32 number).setWidth 8]) = true := telling_service opcode' _
      dsimp only at sent
      rw [calcRegStream_eq, calcRegStream_eq, resetPacket_eq, idlePacket_eq] at sent
      simp only [Int.toNat_natCast]
      generalize (i32 byte).setWidth 8 = data at sent decoded tells
      generalize (i32 number).setWidth 8 = data' at sent decoded' tells'
      generalize registerByte (i32 register) verify = instruction at sent decoded tells
      generalize registerByte (i32 5) false = instruction' at sent decoded' tells'
      cases sent
      refine ⟨30, [(50, idleBytes), (6, resetBytes), (10, completed [instruction', data']),
        (12, resetBytes), (12, resetBytes), (15, completed [instruction, data]),
        (15, completed [instruction, data]), (24, resetBytes)], by decide, ?_, ?_, ?_⟩
      · rw [map_loops]
        rfl
      · simp [wellFormed_idle, wellFormed_reset, wellFormed_pair]
      · simp only [List.filter_cons, telling_idle, telling_reset, tells, tells', List.filter_nil,
          List.map_cons, List.map_nil, if_true, Bool.false_eq_true, if_false, dropLast_completed,
          decoded, decoded']
        exact destutter_again _ _

/-- A command of one packet behind idle packets and resets. -/
theorem direct_hears {byte2 byte3 byte4 : Byte} {access : Access} {resets : Nat}
    (opcode : byte2 &&& 0xf0 = 0x70) (decoded : decodeAccess byte2 byte3 byte4 = some access)
    (positive : 0 < resets)
    (sent : packets = loops [(30, idlePacket), (resets, resetPacket),
      (20, longpreamble ++ [false] ++
        dataBits [byte2, byte3, byte4, 0x00 ^^^ byte2 ^^^ byte3 ^^^ byte4])]) :
    Heard decodeService packets [.direct access] := by
  have tells : Telling (completed [byte2, byte3, byte4]) = true := telling_service opcode _
  have heard : decodeService [byte2, byte3, byte4] = some (.direct access) := by
    rw [decodeService, if_pos opcode, decoded]
    rfl
  have formed : WellFormed (completed [byte2, byte3, byte4]) := wellFormed_completed (by simp)
  refine ⟨30, [(30, idleBytes), (resets, resetBytes), (20, completed [byte2, byte3, byte4])],
    by decide, ?_, ?_, ?_⟩
  · rw [sent, map_loops, longpreamble_packet, idlePacket_eq, resetPacket_eq]
    rfl
  · simp [wellFormed_idle, wellFormed_reset, formed, positive]
  · simp only [List.filter_cons, telling_idle, telling_reset, tells, List.filter_nil,
      List.map_cons, List.map_nil, if_true, Bool.false_eq_true, if_false, dropLast_completed,
      heard]

theorem directCvbyte_hears {cv value : Int}
    (sent : protocolNmraSmDirectCvbyte cv value verify = some packets) :
    Heard decodeService packets (Command.directCvbyte cv value verify).physical.heard := by
  rw [protocolNmraSmDirectCvbyte] at sent
  dsimp only at sent
  rw [Command.physical]
  split at sent
  · contradiction
  · next inRange =>
      split at sent
      · next physical =>
          rw [if_pos ⟨by omega, physical.2⟩]
          exact phregister_hears sent
      · next virtual =>
          rw [if_neg fun physical => virtual ⟨by omega, physical.2⟩]
          obtain ⟨number, numbered⟩ := Int.eq_ofNat_of_zero_le (show 0 ≤ cv - 1 by omega)
          obtain ⟨byte, rfl⟩ := Int.eq_ofNat_of_zero_le (show 0 ≤ value by omega)
          obtain ⟨opcode, decoded⟩ := decodeAccess_cvbyte (show number ≤ 1024 by omega)
            (show byte ≤ 255 by omega) verify false
          have zero : bits "00000000" = byteBits 0x00 := by decide
          rw [numbered, zero, calcByteProgramStream_eq] at sent
          rw [Command.heard, numbered, Int.toNat_natCast, Int.toNat_natCast]
          cases verify with
          | false =>
              apply direct_hears opcode decoded (show 0 < 15 by decide)
              exact (Option.some.inj sent).symm
          | true =>
              apply direct_hears opcode decoded (show 0 < 5 by decide)
              exact (Option.some.inj sent).symm

theorem directCvbit_hears {cv bit value : Int}
    (sent : protocolNmraSmDirectCvbit cv bit value verify = some packets) :
    Heard decodeService packets (Command.directCvbit cv bit value verify).heard := by
  rw [protocolNmraSmDirectCvbit] at sent
  dsimp only at sent
  split at sent
  · contradiction
  · next inRange =>
      obtain ⟨number, rfl⟩ : ∃ number : Nat, cv = number + 1 := ⟨(cv - 1).toNat, by omega⟩
      obtain ⟨index, rfl⟩ := Int.eq_ofNat_of_zero_le (show 0 ≤ bit by omega)
      obtain ⟨on, rfl⟩ := Int.eq_ofNat_of_zero_le (show 0 ≤ value by omega)
      obtain ⟨opcode, decoded⟩ := decodeAccess_cvbit (show number ≤ 1023 by omega)
        (show index ≤ 7 by omega) (show on ≤ 1 by omega) verify false
      have zero : bits "00000000" = byteBits 0x00 := by decide
      have named : ((number : Int) + 1).toNat = number + 1 := by omega
      have value : decide ((on : Int) = 1) = decide (on = 1) := by simp
      rw [Int.add_sub_cancel, zero, calcBitProgramStream_eq] at sent
      rw [Command.heard, named, Int.toNat_natCast, value]
      apply direct_hears opcode decoded (show 0 < 15 by decide)
      exact (Option.some.inj sent).symm

/-- A packet on the main, behind the bytes of an address. -/
theorem onMain_hears {front : List Byte} {address : Address} {byte2 byte3 byte4 : Byte}
    {access : Access} (addressed : Addresses front address) (opcode : byte2 &&& 0xf0 = 0xe0)
    (decoded : decodeAccess byte2 byte3 byte4 = some access)
    (sent : packets = [addressFront front ++
      dataBits [byte2, byte3, byte4, xorBytes front ^^^ byte2 ^^^ byte3 ^^^ byte4]]) :
    Heard decodeOnMain packets [.onMain address access] := by
  have heard : decodeOnMain (front ++ [byte2, byte3, byte4]) = some (.onMain address access) := by
    rw [decodeOnMain, addressed.split, Option.bind_some]
    simp only [opcode, if_true, decoded, Option.map_some]
  have long : 3 < (completed (front ++ [byte2, byte3, byte4])).length := by
    simp [completed]
  have formed : WellFormed (completed (front ++ [byte2, byte3, byte4])) :=
    wellFormed_completed (by simp)
  refine ⟨15, [(1, completed (front ++ [byte2, byte3, byte4]))], by decide, ?_, ?_, ?_⟩
  · rw [sent, addressFront_append _ _ (List.cons_ne_nil _ _), ← completed_program]
    rfl
  · simp [formed]
  · simp only [List.filter_cons, telling_of_length long, if_true, List.filter_nil, List.map_cons,
      List.map_nil, dropLast_completed, heard]

theorem addressMode_known (long : Bool) : addressMode long = 1 ∨ addressMode long = 2 := by
  cases long with
  | false => exact .inl rfl
  | true => exact .inr rfl

theorem cvbytePom_hears {address cv value : Int} {long : Bool}
    (sent : protocolNmraSmWriteCvbytePom address cv value (addressMode long) = some packets) :
    Heard decodeOnMain packets (Command.cvbytePom address cv value long).heard := by
  rw [protocolNmraSmWriteCvbytePom] at sent
  dsimp only at sent
  split at sent
  · contradiction
  · next inRange =>
      obtain ⟨number, rfl⟩ : ∃ number : Nat, cv = number + 1 := ⟨(cv - 1).toNat, by omega⟩
      obtain ⟨byte, rfl⟩ := Int.eq_ofNat_of_zero_le (show 0 ≤ value by omega)
      have addressed : Addresses (addressBytes address (addressMode long))
          (givenAddress address (addressMode long)) :=
        addresses_addressBytes (by omega) (by omega) (by omega)
      obtain ⟨opcode, decoded⟩ := decodeAccess_cvbyte (show number ≤ 1024 by omega)
        (show byte ≤ 255 by omega) false true
      have named : ((number : Int) + 1).toNat = number + 1 := by omega
      have whole : number % 1024 = number := by omega
      rw [Int.add_sub_cancel, calcAddressStream_eq _ (addressMode_known long)] at sent
      dsimp only at sent
      rw [calcByteProgramStream_eq] at sent
      rw [Command.heard, named, Int.toNat_natCast]
      rw [whole] at decoded
      exact onMain_hears addressed opcode decoded (Option.some.inj sent).symm

theorem cvbitPom_hears {address cv bit value : Int} {long : Bool}
    (sent : protocolNmraSmWriteCvbitPom address cv bit value (addressMode long) =
      some packets) :
    Heard decodeOnMain packets (Command.cvbitPom address cv bit value long).heard := by
  rw [protocolNmraSmWriteCvbitPom] at sent
  dsimp only at sent
  split at sent
  · contradiction
  · next inRange =>
      obtain ⟨number, rfl⟩ : ∃ number : Nat, cv = number + 1 := ⟨(cv - 1).toNat, by omega⟩
      obtain ⟨index, rfl⟩ := Int.eq_ofNat_of_zero_le (show 0 ≤ bit by omega)
      obtain ⟨on, rfl⟩ := Int.eq_ofNat_of_zero_le (show 0 ≤ value by omega)
      have addressed : Addresses (addressBytes address (addressMode long))
          (givenAddress address (addressMode long)) :=
        addresses_addressBytes (by omega) (by omega) (by omega)
      obtain ⟨opcode, decoded⟩ := decodeAccess_cvbit (show number ≤ 1023 by omega)
        (show index ≤ 7 by omega) (show on ≤ 1 by omega) false true
      have named : ((number : Int) + 1).toNat = number + 1 := by omega
      have value : decide ((on : Int) = 1) = decide (on = 1) := by simp
      rw [Int.add_sub_cancel, calcAddressStream_eq _ (addressMode_known long)] at sent
      dsimp only at sent
      rw [calcBitProgramStream_eq] at sent
      rw [Command.heard, named, Int.toNat_natCast, value]
      exact onMain_hears addressed opcode decoded (Option.some.inj sent).symm

/-- What a decoder hears of a command that is accepted. -/
theorem Command.hears {command : Command} (sent : command.sent = some packets) :
    Heard command.decode packets command.physical.heard := by
  cases command with
  | phregister reg value verify => exact phregister_hears sent
  | page cv value verify => exact page_hears sent
  | directCvbyte cv value verify => exact directCvbyte_hears sent
  | directCvbit cv bit value verify => exact directCvbit_hears sent
  | cvbytePom address cv value long => exact cvbytePom_hears sent
  | cvbitPom address cv bit value long => exact cvbitPom_hears sent

end Hears

/-! ## What is told -/

/-- Commands that are accepted have arguments in these ranges. -/
def Command.InRange : Command → Prop
  | .phregister reg value _ => 1 ≤ reg ∧ reg ≤ 8 ∧ 0 ≤ value ∧ value ≤ 255
  | .page cv value _ => cv ≤ 1020 ∧ 0 ≤ value ∧ value ≤ 255
  | .directCvbyte cv value _ => 1 ≤ cv ∧ cv ≤ 1025 ∧ 0 ≤ value ∧ value ≤ 255
  | .directCvbit cv bit value _ =>
      1 ≤ cv ∧ cv ≤ 1024 ∧ 0 ≤ bit ∧ bit ≤ 7 ∧ 0 ≤ value ∧ value ≤ 1
  | .cvbytePom address cv value _ =>
      1 ≤ address ∧ 1 ≤ cv ∧ cv ≤ 1024 ∧ 0 ≤ value ∧ value ≤ 255
  | .cvbitPom address cv bit value _ =>
      1 ≤ address ∧ 2 ≤ cv ∧ cv ≤ 1024 ∧ 0 ≤ bit ∧ bit ≤ 7 ∧ 0 ≤ value ∧ value ≤ 1

theorem calcPage_of_pos {cv : Int} (positive : 1 ≤ cv) : calcPage cv = (cv - 1) / 4 + 1 := by
  rw [calcPage, Int.tdiv_eq_ediv_of_nonneg (by omega)]

theorem pageRegister_eq (cv : Int) : pageRegister cv = (cv - 1) % 4 := by
  have mask : ((3 : BitVec 32)).toNat = 2 ^ 2 - 1 := rfl
  rw [pageRegister, BitVec.toNat_and, mask, Nat.and_two_pow_sub_one_eq_mod, i32,
    BitVec.toNat_ofInt]
  omega

theorem Command.inRange {command : Command} {packets : List Bitstream}
    (sent : command.sent = some packets) : command.InRange := by
  cases command with
  | phregister reg value verify =>
      rw [Command.sent, protocolNmraSmPhregister] at sent
      split at sent
      · contradiction
      · simp only [InRange]
        omega
  | page cv value verify =>
      rw [Command.sent, protocolNmraSmAccessPage, protocolNmraSmPage] at sent
      split at sent
      · contradiction
      · next inRange =>
          have upper : cv ≤ 1020 := by
            by_contra above
            rw [calcPage_of_pos (by omega)] at inRange
            omega
          simp only [InRange]
          omega
  | directCvbyte cv value verify =>
      rw [Command.sent, protocolNmraSmDirectCvbyte] at sent
      dsimp only at sent
      split at sent
      · contradiction
      · simp only [InRange]
        omega
  | directCvbit cv bit value verify =>
      rw [Command.sent, protocolNmraSmDirectCvbit] at sent
      dsimp only at sent
      split at sent
      · contradiction
      · simp only [InRange]
        omega
  | cvbytePom address cv value long =>
      rw [Command.sent, protocolNmraSmWriteCvbytePom] at sent
      dsimp only at sent
      split at sent
      · contradiction
      · simp only [InRange]
        omega
  | cvbitPom address cv bit value long =>
      rw [Command.sent, protocolNmraSmWriteCvbitPom] at sent
      dsimp only at sent
      split at sent
      · contradiction
      · simp only [InRange]
        omega


/-- Inside the numbers of the decoder the instructions do what the command says. -/
theorem Command.means_heard {command : Command} {packets : List Bitstream}
    (sent : command.sent = some packets) (numbered : command.Numbered) :
    command.physical.Means command.physical.heard := by
  have inRange := command.inRange sent
  cases command with
  | phregister reg value verify => exact rfl
  | page cv value verify =>
      change 1 ≤ cv at numbered
      obtain ⟨upper, -, -⟩ := inRange
      refine ⟨(calcPage cv).toNat, (pageRegister cv).toNat + 1, rfl, ?_⟩
      rw [calcPage_of_pos numbered, pageRegister_eq, pagedCv]
      omega
  | directCvbyte cv value verify =>
      change cv ≤ 1024 at numbered
      obtain ⟨lower, -, -, -⟩ := inRange
      rw [physical]
      split
      · exact rfl
      · have number : (cv - 1).toNat % 1024 + 1 = cv.toNat := by omega
        rw [Means, heard, number]
  | directCvbit cv bit value verify => exact rfl
  | cvbytePom address cv value long => exact rfl
  | cvbitPom address cv bit value long => exact rfl

/-- Outside of them they do something else. -/
theorem Command.numbered_of_means {command : Command} {packets : List Bitstream}
    (sent : command.sent = some packets) {instructions : List Programming}
    (means : command.physical.Means instructions)
    (same : command.physical.heard.destutter (· ≠ ·) = instructions.destutter (· ≠ ·)) :
    command.Numbered := by
  have inRange := command.inRange sent
  cases command with
  | page cv value verify =>
      rcases means with ⟨page, register, -, number⟩
      change 1 ≤ cv
      rw [← number, pagedCv]
      omega
  | directCvbyte cv value verify =>
      change cv ≤ 1024
      obtain ⟨lower, upper, -, -⟩ := inRange
      by_contra above
      have last : cv = 1025 := by omega
      rw [physical, if_neg fun physical => above (by omega)] at means same
      rw [Means] at means
      rw [means, heard, List.destutter_singleton, List.destutter_singleton, last] at same
      simp at same
  | _ => trivial

theorem Command.told_iff {command : Command} {packets : List Bitstream}
    (sent : command.sent = some packets) : command.Told packets ↔ command.Numbered := by
  constructor
  · rintro ⟨instructions, means, tells⟩
    exact command.numbered_of_means sent means ((command.hears sent).tells_heard_iff.mp tells)
  · intro numbered
    exact ⟨command.physical.heard, command.means_heard sent numbered,
      (command.hears sent).tells_heard_iff.mpr rfl⟩

/-! ## What is told apart -/

/-- The number of packets that are written. -/
def Command.count : Command → Nat
  | .phregister _ _ verify => if verify then 55 else 158
  | .page .. => 144
  | .directCvbyte _ _ verify => if verify then 55 else 65
  | .directCvbit .. => 65
  | _ => 1

theorem length_phregister {reg value : Int} {verify : Bool} {packets : List Bitstream}
    (sent : protocolNmraSmPhregister reg value verify = some packets) :
    packets.length = (Command.phregister reg value verify).count := by
  rw [protocolNmraSmPhregister] at sent
  split at sent
  · contradiction
  · cases verify with
    | false =>
        cases sent
        rfl
    | true =>
        cases sent
        rfl

theorem Command.length_sent {command : Command} {packets : List Bitstream}
    (sent : command.sent = some packets) : packets.length = command.physical.count := by
  cases command with
  | phregister reg value verify => exact length_phregister sent
  | page cv value verify =>
      rw [Command.sent, protocolNmraSmAccessPage, protocolNmraSmPage] at sent
      split at sent
      · contradiction
      · cases sent
        rfl
  | directCvbyte cv value verify =>
      rw [Command.sent, protocolNmraSmDirectCvbyte] at sent
      dsimp only at sent
      rw [physical]
      split at sent
      · contradiction
      · split at sent
        · next physical =>
            rw [if_pos ⟨by omega, physical.2⟩]
            exact length_phregister sent
        · next virtual =>
            rw [if_neg fun physical => virtual ⟨by omega, physical.2⟩]
            cases verify with
            | false =>
                cases sent
                rfl
            | true =>
                cases sent
                rfl
  | directCvbit cv bit value verify =>
      rw [Command.sent, protocolNmraSmDirectCvbit] at sent
      dsimp only at sent
      split at sent
      · contradiction
      · cases sent
        rfl
  | cvbytePom address cv value long =>
      rw [Command.sent, protocolNmraSmWriteCvbytePom] at sent
      dsimp only at sent
      split at sent
      · contradiction
      · cases sent
        rfl
  | cvbitPom address cv bit value long =>
      rw [Command.sent, protocolNmraSmWriteCvbitPom] at sent
      dsimp only at sent
      split at sent
      · contradiction
      · cases sent
        rfl

/-- Only the packets for the main are alone. -/
theorem Command.decode_eq (command : Command) :
    command.decode = if command.physical.count = 1 then decodeOnMain else decodeService := by
  cases command with
  | phregister reg value verify => cases verify <;> rfl
  | directCvbyte cv value verify =>
      rw [physical]
      split
      · cases verify <;> rfl
      · cases verify <;> rfl
  | _ => rfl

/-- The number and the form of an address. -/
def addressed : Address → Int × Bool
  | .short number => (number, false)
  | .long number => (number, true)

/-- The command that is sent with so many packets and heard like this. -/
def recover (count : Nat) : List Programming → Option Command
  | [.register verify number value] => some (.phregister number value verify)
  | [.register _ _ page, .register verify number value] =>
      some (if count = 158 then .phregister number value verify
        else .page (pagedCv page number) value verify)
  | [.direct (.byte verify cv value)] => some (.directCvbyte cv value verify)
  | [.direct (.bit verify cv bit value)] => some (.directCvbit cv bit value.toInt verify)
  | [.onMain address (.byte _ cv value)] =>
      some (.cvbytePom (addressed address).1 cv value (addressed address).2)
  | [.onMain address (.bit _ cv bit value)] =>
      some (.cvbitPom (addressed address).1 cv bit value.toInt (addressed address).2)
  | _ => none

theorem addressed_given {address : Int} (positive : 1 ≤ address) (long : Bool) :
    addressed (givenAddress address (addressMode long)) = (address, long) := by
  have same : (address.toNat : Int) = address := by omega
  cases long with
  | false => exact congrArg (·, false) same
  | true => exact congrArg (·, true) same

theorem recover_phregister {reg value : Int} (verify : Bool)
    (inRange : (Command.phregister reg value verify).InRange) :
    recover (Command.phregister reg value verify).count
      ((Command.phregister reg value verify).heard.destutter (· ≠ ·)) =
        some (.phregister reg value verify) := by
  obtain ⟨reg_pos, -, value_nonneg, -⟩ := inRange
  have regSame : (reg.toNat : Int) = reg := by omega
  have valueSame : (value.toNat : Int) = value := by omega
  cases verify with
  | true =>
      change some (Command.phregister reg.toNat value.toNat true) = _
      rw [regSame, valueSame]
  | false =>
      change recover 158 ([Programming.register false 6 1,
        .register false reg.toNat value.toNat].destutter (· ≠ ·)) = _
      rw [List.destutter_pair]
      split
      · change some (Command.phregister reg.toNat value.toNat false) = _
        rw [regSame, valueSame]
      · next repeated =>
          obtain ⟨-, six, one⟩ := Programming.register.inj (not_not.mp repeated)
          change some (Command.phregister 6 1 false) = _
          rw [← regSame, ← valueSame, ← six, ← one]
          rfl

theorem toInt_bit {value : Int} (lower : 0 ≤ value) (upper : value ≤ 1) :
    (decide (value = 1)).toInt = value := by
  rcases (show value = 0 ∨ value = 1 by omega) with rfl | rfl
  · rfl
  · rfl

/-- A command in the ranges is known from what is heard of it. -/
theorem Command.recover_heard {command : Command} {packets : List Bitstream}
    (sent : command.sent = some packets) (numbered : command.Numbered) :
    recover command.physical.count (command.physical.heard.destutter (· ≠ ·)) =
      some command.physical := by
  have inRange := command.inRange sent
  cases command with
  | phregister reg value verify => exact recover_phregister verify inRange
  | page cv value verify =>
      change 1 ≤ cv at numbered
      obtain ⟨upper, value_nonneg, -⟩ := inRange
      have valueSame : (value.toNat : Int) = value := by omega
      have cvSame : (pagedCv (calcPage cv).toNat ((pageRegister cv).toNat + 1) : Int) = cv := by
        rw [calcPage_of_pos numbered, pageRegister_eq, pagedCv]
        omega
      have differ : Programming.register false 6 (calcPage cv).toNat ≠
          .register verify ((pageRegister cv).toNat + 1) value.toNat := by
        intro same
        obtain ⟨-, six, -⟩ := Programming.register.inj same
        rw [pageRegister_eq] at six
        omega
      change recover 144 ([Programming.register false 6 (calcPage cv).toNat,
        .register verify ((pageRegister cv).toNat + 1) value.toNat].destutter (· ≠ ·)) = _
      rw [List.destutter_pair, if_pos differ]
      change some (Command.page (pagedCv (calcPage cv).toNat ((pageRegister cv).toNat + 1))
        value.toNat verify) = _
      rw [cvSame, valueSame]
      rfl
  | directCvbyte cv value verify =>
      change cv ≤ 1024 at numbered
      obtain ⟨lower, -, value_nonneg, value_le⟩ := inRange
      have valueSame : (value.toNat : Int) = value := by omega
      have cvSame : (((cv - 1).toNat % 1024 + 1 : Nat) : Int) = cv := by omega
      rw [physical]
      split
      · exact recover_phregister verify ⟨by omega, by omega, value_nonneg, value_le⟩
      · change some (Command.directCvbyte ((cv - 1).toNat % 1024 + 1 : Nat) value.toNat verify) = _
        rw [cvSame, valueSame]
  | directCvbit cv bit value verify =>
      obtain ⟨positive, -, bit_nonneg, -, lower, upper⟩ := inRange
      have cvSame : (cv.toNat : Int) = cv := by omega
      have bitSame : (bit.toNat : Int) = bit := by omega
      change some (Command.directCvbit cv.toNat bit.toNat (decide (value = 1)).toInt verify) = _
      rw [cvSame, bitSame, toInt_bit lower upper]
      rfl
  | cvbytePom address cv value long =>
      obtain ⟨address_pos, cv_pos, -, value_nonneg, -⟩ := inRange
      have cvSame : (cv.toNat : Int) = cv := by omega
      have valueSame : (value.toNat : Int) = value := by omega
      have given := addressed_given address_pos long
      change some (Command.cvbytePom (addressed (givenAddress address (addressMode long))).1
        cv.toNat value.toNat (addressed (givenAddress address (addressMode long))).2) = _
      rw [given, cvSame, valueSame]
      rfl
  | cvbitPom address cv bit value long =>
      obtain ⟨address_pos, cv_pos, -, bit_nonneg, -, lower, upper⟩ := inRange
      have cvSame : (cv.toNat : Int) = cv := by omega
      have bitSame : (bit.toNat : Int) = bit := by omega
      have given := addressed_given address_pos long
      change some (Command.cvbitPom (addressed (givenAddress address (addressMode long))).1
        cv.toNat bit.toNat (decide (value = 1)).toInt
        (addressed (givenAddress address (addressMode long))).2) = _
      rw [given, cvSame, bitSame, toInt_bit lower upper]
      rfl

/-- Commands that are sent the same are the same. -/
theorem Command.physical_eq_of_sent {first second : Command} {packets : List Bitstream}
    (sent : first.sent = some packets) (sent' : second.sent = some packets)
    (numbered : first.Numbered) (numbered' : second.Numbered) :
    first.physical = second.physical := by
  have counts : first.physical.count = second.physical.count :=
    (first.length_sent sent).symm.trans (second.length_sent sent')
  have decodes : first.decode = second.decode := by
    rw [decode_eq, decode_eq, counts]
  have hears := first.hears sent
  rw [decodes] at hears
  have known := first.recover_heard sent numbered
  rw [hears.unique (second.hears sent'), counts, second.recover_heard sent' numbered'] at known
  exact (Option.some.inj known).symm

/-- Two commands that are accepted are told as they are, and told apart, if and only if
both name a variable of the decoder. -/
theorem meets_iff (first second : Command) :
    Meets first second ↔
      (first.sent.isSome → second.sent.isSome → first.Numbered ∧ second.Numbered) := by
  constructor
  · intro meets accepted accepted'
    rcases Option.isSome_iff_exists.mp accepted with ⟨packets, sent⟩
    rcases Option.isSome_iff_exists.mp accepted' with ⟨packets', sent'⟩
    obtain ⟨told, told', -⟩ := meets packets sent packets' sent'
    exact ⟨(first.told_iff sent).mp told, (second.told_iff sent').mp told'⟩
  · intro numbered packets sent packets' sent'
    obtain ⟨numbered, numbered'⟩ :=
      numbered (Option.isSome_of_mem sent) (Option.isSome_of_mem sent')
    refine ⟨(first.told_iff sent).mpr numbered, (second.told_iff sent').mpr numbered', ?_⟩
    rintro differ rfl
    exact differ (first.physical_eq_of_sent sent sent' numbered numbered')

/-- A write to CV 1025, which no decoder has, is accepted and is a write to CV 1. -/
theorem not_meets : ¬ Meets (.directCvbyte 1025 200 false) (.directCvbyte 1 200 false) := by
  intro meets
  have same : calcByteProgramStream (bits "00000000") (1025 - 1) 200 false false =
      calcByteProgramStream (bits "00000000") (1 - 1) 200 false false := by decide
  have accepted : (Command.directCvbyte 1025 200 false).sent =
      (Command.directCvbyte 1 200 false).sent := by
    change some _ = some _
    rw [same]
  obtain ⟨packets, sent⟩ : ∃ packets, (Command.directCvbyte 1 200 false).sent = some packets :=
    ⟨_, rfl⟩
  exact (meets packets (accepted.trans sent) packets sent).2.2 (by decide) rfl

end Srcpd.Ddl.Program
