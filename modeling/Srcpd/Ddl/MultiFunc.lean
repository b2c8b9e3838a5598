import Srcpd.Ddl.Nmra

/-!
# The streams of `comp_nmra_multi_func` say what was commanded

Each byte is an array of characters that spells a byte, each sequence of
appends is a packet completed by its error detection byte, and each packet
decodes to an instruction that agrees with the arguments.  The two streams are
followed packet by packet through the thresholds on the number of functions.
-/

namespace Srcpd.Ddl

open Srcpd.Dcc

/-! ## Address bytes -/

/-- The bytes of the 7 bit (mode 1) or 14 bit form. -/
def addressBytes (address mode : Int) : List Byte :=
  if mode = 1 then [(i32 address &&& 0x7f).setWidth 8]
  else [(0xc0 ||| (i32 address).sshiftRight 8).setWidth 8, (i32 address).setWidth 8]

/-- What a decoder should take the address for. -/
def givenAddress (address mode : Int) : Address :=
  if mode = 1 then .short address.toNat else .long address.toNat

theorem toNat_shortAddress : ∀ number : Fin 128,
    ((i32 (number : Nat) &&& 0x7f).setWidth 8 : Byte).toNat = number := by
  decide

theorem toNat_longAddress_high : ∀ high : Fin 40,
    ((0xc0 ||| BitVec.ofNat 32 high).setWidth 8 : Byte).toNat = 192 + high := by
  decide

theorem toNat_i32 {number : Nat} (small : number < 2 ^ 32) :
    (i32 (number : Nat)).toNat = number := by
  rw [i32, BitVec.ofInt_natCast, BitVec.toNat_ofNat, Nat.mod_eq_of_lt small]

theorem sshiftRight_i32 {number : Nat} (small : number < 2 ^ 31) (bits : Nat) :
    (i32 (number : Nat)).sshiftRight bits = BitVec.ofNat 32 (number / 2 ^ bits) := by
  have positive : (i32 (number : Nat)).msb = false := by
    rw [BitVec.msb_eq_false_iff_two_mul_lt, toNat_i32 (by omega)]
    omega
  have quotient : number / 2 ^ bits ≤ number := Nat.div_le_self _ _
  rw [BitVec.sshiftRight_eq_of_msb_false positive]
  apply BitVec.eq_of_toNat_eq
  rw [BitVec.toNat_ushiftRight, toNat_i32 (by omega), Nat.shiftRight_eq_div_pow,
    BitVec.toNat_ofNat, Nat.mod_eq_of_lt (by omega)]

/-- The address bytes address the decoder in the form of the mode. -/
theorem addresses_addressBytes {address mode : Int} (positive : 1 ≤ address)
    (atMost : address ≤ 10239) (form : mode = 1 → address ≤ 127) :
    Addresses (addressBytes address mode) (givenAddress address mode) := by
  obtain ⟨number, rfl⟩ : ∃ number : Nat, address = number := ⟨address.toNat, by omega⟩
  by_cases short : mode = 1
  · have inRange := form short
    have value : ((i32 (number : Nat) &&& 0x7f).setWidth 8 : Byte).toNat = number :=
      toNat_shortAddress ⟨number, by omega⟩
    refine ⟨by simp [addressBytes, short], fun bytes => ?_⟩
    rw [addressBytes, givenAddress, if_pos short, if_pos short, List.singleton_append,
      splitAddress_short (by omega) (by omega), value, Int.toNat_natCast]
  · have high : ((0xc0 ||| (i32 (number : Nat)).sshiftRight 8).setWidth 8 : Byte).toNat =
        192 + number / 256 := by
      rw [sshiftRight_i32 (by omega)]
      exact toNat_longAddress_high ⟨number / 256, by omega⟩
    have low : ((i32 (number : Nat)).setWidth 8 : Byte).toNat = number % 256 := by
      rw [BitVec.toNat_setWidth, toNat_i32 (by omega)]
    have whole : (192 + number / 256 - 192) * 256 + number % 256 = number := by omega
    refine ⟨by simp [addressBytes, short], fun bytes => ?_⟩
    rw [addressBytes, givenAddress, if_neg short, if_neg short, List.cons_append,
      List.singleton_append, splitAddress_long (by omega) (by omega), high, low, whole,
      Int.toNat_natCast]

/-! ## Packets -/

/-- Preamble and address of a packet. -/
def addressFront (bytes : List Byte) : Bitstream :=
  preamble ++ [false] ++ bytes.flatMap fun byte => byteBits byte ++ [false]

theorem calcAddressStream_eq (address : Int) {mode : Int} (known : mode = 1 ∨ mode = 2) :
    calcAddressStream address mode =
      (addressFront (addressBytes address mode),
        byteBits (xorBytes (addressBytes address mode))) := by
  rcases known with rfl | rfl
  · simp [calcAddressStream, addressFront, addressBytes, calcSingleByte_eq]
  · simp [calcAddressStream, addressFront, addressBytes, calc14bitAddressByte, calcSingleByte_eq]

theorem addressFront_append (front bytes : List Byte) (nonempty : bytes ≠ []) :
    addressFront front ++ dataBits bytes = packetBits 15 (front ++ bytes) := by
  rw [addressFront, packetBits, dataBits_append front nonempty]
  simp [preamble]

/-- A packet with one instruction byte, as the composers append it. -/
theorem packet_one (front : List Byte) (byte : Byte) :
    addressFront front ++ byteBits byte ++ [false] ++
        xorTwoBytes (byteBits (xorBytes front)) (byteBits byte) ++ [true] =
      packetBits 15 (completed (front ++ [byte])) := by
  have shape : completed (front ++ [byte]) = front ++ [byte, xorBytes front ^^^ byte] := by
    simp [completed, xorBytes_append]
  rw [shape, ← addressFront_append _ _ (by simp), xorTwoBytes_byteBits]
  simp [dataBits]

/-- A packet with two instruction bytes. -/
theorem packet_two (front : List Byte) (byte data : Byte) :
    addressFront front ++ byteBits byte ++ [false] ++ byteBits data ++ [false] ++
        xorTwoBytes (xorTwoBytes (byteBits (xorBytes front)) (byteBits byte)) (byteBits data) ++
        [true] =
      packetBits 15 (completed (front ++ [byte, data])) := by
  have shape : completed (front ++ [byte, data]) =
      front ++ [byte, data, xorBytes front ^^^ byte ^^^ data] := by
    simp [completed, xorBytes_append, BitVec.xor_assoc]
  rw [shape, ← addressFront_append _ _ (by simp), xorTwoBytes_byteBits, xorTwoBytes_byteBits]
  simp [dataBits]

theorem wait_append_packetBits (bytes : List Byte) :
    wait ++ packetBits 15 bytes = packetBits 50 bytes :=
  replicate_append_packetBits 35 15 bytes

theorem append_wait_packet_one (before : Bitstream) (front : List Byte) (byte : Byte) :
    before ++ wait ++ addressFront front ++ byteBits byte ++ [false] ++
        xorTwoBytes (byteBits (xorBytes front)) (byteBits byte) ++ [true] =
      before ++ packetBits 50 (completed (front ++ [byte])) := by
  rw [← wait_append_packetBits, ← packet_one]
  simp only [List.append_assoc]

theorem append_wait_packet_two (before : Bitstream) (front : List Byte) (byte data : Byte) :
    before ++ wait ++ addressFront front ++ byteBits byte ++ [false] ++ byteBits data ++
        [false] ++
        xorTwoBytes (xorTwoBytes (byteBits (xorBytes front)) (byteBits byte)) (byteBits data) ++
        [true] =
      before ++ packetBits 50 (completed (front ++ [byte, data])) := by
  rw [← wait_append_packetBits, ← packet_two]
  simp only [List.append_assoc]

/-! ## Speed -/

theorem baselineSpeedByte_table : ∀ (direction speed : Fin 2) (light : Bool),
    let byte : Byte := (0x40 ||| i32 (direction : Nat) <<< 5 ||| i32 (speed : Nat)).setWidth 8
    decodeInstruction [if light then byte ||| 0x10 else byte] =
      some (.speed (direction = 1) speed) := by
  decide

theorem speed28_table : ∀ (direction : Fin 2) (speed : Fin 30), 1 < speed.val →
    let byte : Byte := (0x40 ||| i32 (direction : Nat) <<< 5 |||
      (i32 ((speed : Nat) + 2)).sshiftRight 1).setWidth 8
    decodeInstruction [if i32 ((speed : Nat) + 2) &&& 1 ≠ 0 then byte ||| 0x10 else byte] =
      some (.speed (direction = 1) speed) := by
  decide

theorem speed128_table : ∀ (direction : Fin 2) (speed : Fin 128),
    let byte : Byte := (i32 (speed : Nat)).setWidth 8
    decodeInstruction [0x3f, if direction = 1 then byte ||| 0x80 else byte] =
      some (.speed (direction = 1) speed) := by
  decide

/-- Setting a character sets the bit of the byte it spells. -/
theorem ite_set_three (condition : Prop) [Decidable condition] (byte : Byte) :
    (if condition then (byteBits byte).set 3 true else byteBits byte) =
      byteBits (if condition then byte ||| 0x10 else byte) := by
  by_cases holds : condition
  · rw [if_pos holds, if_pos holds, byteBits_set_three]
  · rw [if_neg holds, if_neg holds]

theorem ite_set_zero (condition : Prop) [Decidable condition] (byte : Byte) :
    (if condition then (byteBits byte).set 0 true else byteBits byte) =
      byteBits (if condition then byte ||| 0x80 else byte) := by
  by_cases holds : condition
  · rw [if_pos holds, if_pos holds, byteBits_set_zero]
  · rw [if_neg holds, if_neg holds]

theorem calcBaselineSpeedByte_decodes (direction speed : Fin 2) (func : BitVec 32) :
    ∃ byte, calcBaselineSpeedByte (direction : Nat) (speed : Nat) func = byteBits byte ∧
      decodeInstruction [byte] = some (.speed (direction = 1) speed) := by
  have table := baselineSpeedByte_table direction speed (func &&& 1 ≠ 0)
  simp only [decide_eq_true_eq] at table
  refine ⟨_, ?_, table⟩
  rw [calcBaselineSpeedByte, calcSingleByte_eq, ite_set_three]

theorem calc28spstSpeedByte_decodes (direction : Fin 2) {speed : Nat} (above : 1 < speed)
    (atMost : speed < 30) :
    ∃ byte, calc28spstSpeedByte (direction : Nat) speed = byteBits byte ∧
      decodeInstruction [byte] = some (.speed (direction = 1) speed) := by
  refine ⟨_, ?_, speed28_table direction ⟨speed, atMost⟩ above⟩
  rw [calc28spstSpeedByte, if_pos (by omega)]
  simp only [calcSingleByte_eq, ite_set_three]

theorem calc128spstAdvOpBytes_decodes (direction : Fin 2) {speed : Nat} (atMost : speed < 128) :
    ∃ data, calc128spstAdvOpBytes (direction : Nat) speed = (byteBits 0x3f, byteBits data) ∧
      decodeInstruction [0x3f, data] = some (.speed (direction = 1) speed) := by
  have forward : (((direction : Nat) : Int) = 1) = (direction = 1) := by
    revert direction
    decide
  refine ⟨_, ?_, speed128_table direction ⟨speed, atMost⟩⟩
  rw [calc128spstAdvOpBytes, calcSingleByte_eq]
  simp only [forward, ite_set_zero]
  rfl

/-- The first packet tells direction and speed. -/
theorem calcSpeedStream_packet (front : List Byte) (direction : Fin 2) {speed : Nat}
    {nspeed : Int} (func : BitVec 32) (speed_le : speed ≤ 127) (speed_steps : speed ≤ nspeed + 1)
    (steps : nspeed = 28 ∨ nspeed = 128) :
    ∃ bytes,
      calcSpeedStream (addressFront front) (byteBits (xorBytes front)) (direction : Nat) speed
          func nspeed = packetBits 15 (completed (front ++ bytes)) ∧
        decodeInstruction bytes = some (.speed (direction = 1) speed) := by
  rw [calcSpeedStream]
  by_cases slow : speed < 2
  · obtain ⟨byte, spelled, decoded⟩ :=
      calcBaselineSpeedByte_decodes direction ⟨speed, slow⟩ func
    refine ⟨[byte], ?_, decoded⟩
    rw [if_neg (by omega), if_pos (by omega), ← packet_one, ← spelled]
  · rcases steps with rfl | rfl
    · obtain ⟨byte, spelled, decoded⟩ :=
        calc28spstSpeedByte_decodes direction (show 1 < speed by omega) (by omega)
      refine ⟨[byte], ?_, decoded⟩
      rw [if_neg (by omega), if_neg (by omega), if_neg (by omega), ← packet_one, ← spelled]
    · obtain ⟨data, spelled, decoded⟩ :=
        calc128spstAdvOpBytes_decodes direction (show speed < 128 by omega)
      refine ⟨[0x3f, data], ?_, decoded⟩
      rw [if_pos (by omega), if_neg (by omega), if_pos (by omega), ← packet_two, spelled]

/-! ## Functions -/

/-- The instruction for some functions of a function word. -/
def functionGroup (func : BitVec 32) (first count : Nat) : Instruction :=
  .functions ((List.range count).map fun i => (first + i, func.getLsbD (first + i)))

theorem functionGroup_agrees (forward : Bool) (step : Nat) (func : BitVec 32)
    (first count : Nat) : (functionGroup func first count).Agrees forward step func.getLsbD := by
  intro value mem
  obtain ⟨i, _, rfl⟩ := List.mem_map.mp mem
  rfl

theorem functionGroup_tells {func : BitVec 32} {first count i : Nat} (lower : first ≤ i)
    (upper : i < first + count) : (functionGroup func first count).Tells i := by
  refine ⟨(i, func.getLsbD i), List.mem_map.mpr ⟨i - first, ?_, ?_⟩, rfl⟩
  · rw [List.mem_range]
    omega
  · rw [Nat.add_sub_cancel' lower]

theorem groupOne_table : ∀ low : BitVec 5,
    let func : BitVec 32 := low.setWidth 32
    let byte : Byte := (0x80 ||| func.sshiftRight 1).setWidth 8
    decodeInstruction [if func &&& 1 ≠ 0 then byte ||| 0x10 else byte] =
      some (functionGroup func 0 5) := by
  decide

theorem groupTwo_table : ∀ nibble : BitVec 4,
    decodeInstruction [((nibble.setWidth 32 : BitVec 32) ||| 0xb0).setWidth 8] =
        some (.functions (functionBits (nibble.setWidth 8) 5 4)) ∧
      decodeInstruction [((nibble.setWidth 32 : BitVec 32) ||| 0xa0).setWidth 8] =
        some (.functions (functionBits (nibble.setWidth 8) 9 4)) := by
  decide

theorem functionBits_eq_functionGroup {byte : Byte} {func : BitVec 32} {first count : Nat}
    (same : ∀ i < count, byte.getLsbD i = func.getLsbD (first + i)) :
    .functions (functionBits byte first count) = functionGroup func first count := by
  rw [functionBits, functionGroup, Instruction.functions.injEq]
  apply List.map_congr_left
  intro i mem
  rw [same i (List.mem_range.mp mem)]

theorem functionGroup_congr {func func' : BitVec 32} {first count : Nat}
    (same : ∀ i < count, func.getLsbD (first + i) = func'.getLsbD (first + i)) :
    functionGroup func first count = functionGroup func' first count := by
  rw [functionGroup, functionGroup, Instruction.functions.injEq]
  apply List.map_congr_left
  intro i mem
  rw [same i (List.mem_range.mp mem)]

/-- Masking keeps the low bits. -/
theorem and_mask (word : BitVec 32) (bits : Nat) (inWord : bits < 32) :
    word &&& BitVec.ofNat 32 (2 ^ bits - 1) = (word.setWidth bits).setWidth 32 := by
  have power : 2 ^ bits < 2 ^ 32 := Nat.pow_lt_pow_right (by decide) inWord
  have small : word.toNat % 2 ^ bits < 2 ^ bits := Nat.mod_lt _ (Nat.two_pow_pos bits)
  have mask : (2 ^ bits - 1) % 2 ^ 32 = 2 ^ bits - 1 := Nat.mod_eq_of_lt (by omega)
  apply BitVec.eq_of_toNat_eq
  rw [BitVec.toNat_and, BitVec.toNat_ofNat, mask, Nat.and_two_pow_sub_one_eq_mod,
    BitVec.toNat_setWidth, BitVec.toNat_setWidth, Nat.mod_eq_of_lt (small.trans power)]

theorem getLsbD_sshiftRight_of_lt (func : BitVec 32) {first i : Nat} (inWord : first + i < 32) :
    (func.sshiftRight first).getLsbD i = func.getLsbD (first + i) := by
  rw [BitVec.getLsbD_sshiftRight, if_pos inWord]
  simp [show i < 32 by omega]

theorem calcFunctionGroupOneByte_decodes (func : BitVec 32) :
    ∃ byte, calcFunctionGroupOneByte func = byteBits byte ∧
      decodeInstruction [byte] = some (functionGroup func 0 5) := by
  have masked : func &&& 0x1f = (func.setWidth 5).setWidth 32 := and_mask func 5 (by decide)
  have same : functionGroup ((func.setWidth 5).setWidth 32) 0 5 = functionGroup func 0 5 := by
    apply functionGroup_congr
    intro i small
    simp [small, show i < 32 by omega]
  refine ⟨_, ?_, (groupOne_table (func.setWidth 5)).trans (congrArg some same)⟩
  simp only [calcFunctionGroupOneByte, masked, calcSingleByte_eq, ite_set_three]

theorem calcFunctionGroupTwoByte_decodes (func : BitVec 32) (lower : Bool) :
    ∃ byte, calcFunctionGroupTwoByte func lower = byteBits byte ∧
      decodeInstruction [byte] = some (functionGroup func (if lower then 5 else 9) 4) := by
  have masked (first : Nat) : func.sshiftRight first &&& 0xf =
      ((func.sshiftRight first).setWidth 4).setWidth 32 := and_mask _ 4 (by decide)
  have same {first : Nat} (inWord : first + 4 ≤ 32) :
      .functions (functionBits (((func.sshiftRight first).setWidth 4).setWidth 8) first 4) =
        functionGroup func first 4 := by
    apply functionBits_eq_functionGroup
    intro i small
    rw [← getLsbD_sshiftRight_of_lt func (show first + i < 32 by omega)]
    simp [small, show i < 8 by omega]
  cases lower with
  | true =>
      refine ⟨_, ?_, (groupTwo_table _).1.trans (congrArg some (same (by decide)))⟩
      rw [calcFunctionGroupTwoByte, if_pos rfl, masked, calcSingleByte_eq]
  | false =>
      refine ⟨_, ?_, (groupTwo_table _).2.trans (congrArg some (same (by decide)))⟩
      rw [calcFunctionGroupTwoByte, if_neg (by decide), masked, calcSingleByte_eq]

/-- The byte of eight more functions. -/
theorem calcSingleByte_sshiftRight (func : BitVec 32) {first : Nat} (inWord : first + 8 ≤ 32) :
    ∃ byte, calcSingleByte (func.sshiftRight first) = byteBits byte ∧
      .functions (functionBits byte first 8) = functionGroup func first 8 := by
  refine ⟨_, calcSingleByte_eq _, functionBits_eq_functionGroup ?_⟩
  intro i small
  rw [← getLsbD_sshiftRight_of_lt func (show first + i < 32 by omega)]
  simp [small]

/-- The instructions of the first and of the second stream, besides the
speed. -/
def functionInstructions (func : BitVec 32) (nfuncs : Int) :
    List Instruction × List Instruction :=
  ((if 5 < nfuncs then [functionGroup func 5 4] else []) ++
      (if 12 < nfuncs then [functionGroup func 13 8] else []),
    [functionGroup func 0 5] ++ (if 8 < nfuncs then [functionGroup func 9 4] else []) ++
      (if 20 < nfuncs then [functionGroup func 21 8] else []))

/-- The function packets in both streams. -/
theorem calcFunctionStream_packets (front : List Byte) (bitstream : Bitstream)
    (func : BitVec 32) (nfuncs : Int) :
    ∃ one two three four five : Byte,
      decodeInstruction [one] = some (functionGroup func 0 5) ∧
      decodeInstruction [two] = some (functionGroup func 5 4) ∧
      decodeInstruction [three] = some (functionGroup func 9 4) ∧
      decodeInstruction [0xde, four] = some (functionGroup func 13 8) ∧
      decodeInstruction [0xdf, five] = some (functionGroup func 21 8) ∧
      calcFunctionStream bitstream (byteBits (xorBytes front)) (addressFront front) func nfuncs =
        (bitstream ++ (if 5 < nfuncs then packetBits 50 (completed (front ++ [two])) else []) ++
            (if 12 < nfuncs then packetBits 50 (completed (front ++ [0xde, four])) else []),
          packetBits 15 (completed (front ++ [one])) ++
            (if 8 < nfuncs then packetBits 50 (completed (front ++ [three])) else []) ++
            (if 20 < nfuncs then packetBits 50 (completed (front ++ [0xdf, five])) else [])) := by
  obtain ⟨one, oneSpelled, oneDecoded⟩ := calcFunctionGroupOneByte_decodes func
  obtain ⟨two, twoSpelled, twoDecoded⟩ := calcFunctionGroupTwoByte_decodes func true
  obtain ⟨three, threeSpelled, threeDecoded⟩ := calcFunctionGroupTwoByte_decodes func false
  obtain ⟨four, fourSpelled, fourGroup⟩ :=
    calcSingleByte_sshiftRight func (show 13 + 8 ≤ 32 by decide)
  obtain ⟨five, fiveSpelled, fiveGroup⟩ :=
    calcSingleByte_sshiftRight func (show 21 + 8 ≤ 32 by decide)
  have fourCommand : ([true, true, false, true, true, true, true, false] : Bitstream) =
      byteBits 0xde := by
    decide
  have fiveCommand : (byteBits 0xde).set 7 true = byteBits 0xdf := by
    decide
  refine ⟨one, two, three, four, five, oneDecoded, twoDecoded, threeDecoded, ?_, ?_, ?_⟩
  · rw [← fourGroup]
    rfl
  · rw [← fiveGroup]
    rfl
  · simp only [calcFunctionStream, oneSpelled, twoSpelled, threeSpelled, fourSpelled, fiveSpelled,
      fourCommand, fiveCommand, packet_one, append_wait_packet_one, append_wait_packet_two]
    by_cases above5 : 5 < nfuncs
    · by_cases above8 : 8 < nfuncs
      · by_cases above12 : 12 < nfuncs
        · by_cases above20 : 20 < nfuncs
          · simp only [above5, above8, above12, above20, if_true]
          · simp only [above5, above8, above12, above20, if_true, if_false, List.append_nil]
        · simp only [above5, above8, above12, show ¬ 20 < nfuncs by omega, if_true, if_false,
            List.append_nil]
      · simp only [above5, above8, show ¬ 12 < nfuncs by omega, show ¬ 20 < nfuncs by omega,
          if_true, if_false, List.append_nil]
    · simp only [above5, show ¬ 8 < nfuncs by omega, show ¬ 12 < nfuncs by omega,
        show ¬ 20 < nfuncs by omega, if_false, List.append_nil]

theorem calcFunctionStream_carries {front : List Byte} {address : Address}
    (addressed : Addresses front address) {bitstream : Bitstream}
    {instructions : List Instruction} (carries : Carries address bitstream instructions)
    (func : BitVec 32) (nfuncs : Int) :
    let streams := calcFunctionStream bitstream (byteBits (xorBytes front)) (addressFront front)
      func nfuncs
    Carries address streams.1 (instructions ++ (functionInstructions func nfuncs).1) ∧
      Carries address streams.2 (functionInstructions func nfuncs).2 := by
  obtain ⟨one, two, three, four, five, oneDecoded, twoDecoded, threeDecoded, fourDecoded,
    fiveDecoded, streamsEq⟩ := calcFunctionStream_packets front bitstream func nfuncs
  have gapLong : minPreamble ≤ 50 := by decide
  simp only [streamsEq, functionInstructions]
  constructor
  · rw [← List.append_assoc instructions]
    exact (carries.append (Carries.ite (addressed.carries twoDecoded gapLong))).append
      (Carries.ite (addressed.carries fourDecoded gapLong))
  · exact ((addressed.carries oneDecoded (by decide)).append
      (Carries.ite (addressed.carries threeDecoded gapLong))).append
      (Carries.ite (addressed.carries fiveDecoded gapLong))

theorem functionInstructions_agree (forward : Bool) (step : Nat) (func : BitVec 32)
    (nfuncs : Int) {instruction : Instruction}
    (mem : instruction ∈ (functionInstructions func nfuncs).1 ++
      (functionInstructions func nfuncs).2) :
    instruction.Agrees forward step func.getLsbD := by
  have group : ∃ first count, instruction = functionGroup func first count := by
    simp only [functionInstructions, List.mem_append, List.mem_ite_nil_right,
      List.mem_singleton] at mem
    rcases mem with (⟨_, rfl⟩ | ⟨_, rfl⟩) | (rfl | ⟨_, rfl⟩) | ⟨_, rfl⟩
    · exact ⟨5, 4, rfl⟩
    · exact ⟨13, 8, rfl⟩
    · exact ⟨0, 5, rfl⟩
    · exact ⟨9, 4, rfl⟩
    · exact ⟨21, 8, rfl⟩
  obtain ⟨first, count, rfl⟩ := group
  exact functionGroup_agrees forward step func first count

/-- No function up to F28 below the number of functions is left out. -/
theorem functionInstructions_tell (func : BitVec 32) {nfuncs : Int} {i : Nat} (upTo28 : i < 29)
    (below : i < nfuncs) :
    ∃ instruction ∈ (functionInstructions func nfuncs).1 ++ (functionInstructions func nfuncs).2,
      instruction.Tells i := by
  simp only [functionInstructions, List.mem_append, List.mem_ite_nil_right, List.mem_singleton]
  by_cases upTo4 : i < 5
  · exact ⟨_, Or.inr (Or.inl (Or.inl rfl)), functionGroup_tells (Nat.zero_le i) (by omega)⟩
  · by_cases upTo8 : i < 9
    · exact ⟨_, Or.inl (Or.inl ⟨by omega, rfl⟩), functionGroup_tells (by omega) (by omega)⟩
    · by_cases upTo12 : i < 13
      · exact ⟨_, Or.inr (Or.inl (Or.inr ⟨by omega, rfl⟩)),
          functionGroup_tells (by omega) (by omega)⟩
      · by_cases upTo20 : i < 21
        · exact ⟨_, Or.inl (Or.inr ⟨by omega, rfl⟩), functionGroup_tells (by omega) (by omega)⟩
        · exact ⟨_, Or.inr (Or.inr ⟨by omega, rfl⟩), functionGroup_tells (by omega) (by omega)⟩

/-! ## All streams -/

/-- The streams handed to the translation routine, in their order. -/
def handedStreams (address direction speed : Int) (func : BitVec 32)
    (nspeed nfuncs mode : Int) : List Bitstream :=
  let streams := multiFuncStreams address direction speed func nspeed nfuncs mode
  streams.1 :: streams.2.toList

theorem multiFuncAccepts_iff (address direction speed nspeed mode : Int) :
    multiFuncAccepts address direction speed nspeed mode = true ↔
      (1 ≤ address ∧ address ≤ 10239) ∧ (0 ≤ direction ∧ direction ≤ 1) ∧
        (0 ≤ speed ∧ speed ≤ nspeed + 1) ∧ (mode = 1 → address ≤ 127) := by
  by_cases short : mode = 1 <;>
    simp [multiFuncAccepts, short] <;> omega

/-- The packet that tells the speed, and with functions the streams that begin
with it and with the first function packet. -/
theorem handedStreams_eq {address direction speed nspeed nfuncs mode : Int}
    (func : BitVec 32) (form : mode = 1 ∨ mode = 2) (steps : nspeed = 28 ∨ nspeed = 128)
    (accepted : multiFuncAccepts address direction speed nspeed mode = true) :
    ∃ bytes, decodeInstruction bytes =
        some (.speed (direction = 1) (min speed 127).toNat) ∧
      handedStreams address direction speed func nspeed nfuncs mode =
        if nfuncs = 0 then [packetBits 15 (completed (addressBytes address mode ++ bytes))]
        else
          let streams := calcFunctionStream
            (packetBits 15 (completed (addressBytes address mode ++ bytes)))
            (byteBits (xorBytes (addressBytes address mode)))
            (addressFront (addressBytes address mode)) func nfuncs
          [streams.1, streams.2] := by
  obtain ⟨_, ⟨direction_nonneg, direction_le⟩, ⟨speed_nonneg, speed_le⟩, _⟩ :=
    (multiFuncAccepts_iff _ _ _ _ _).mp accepted
  obtain ⟨way, rfl⟩ : ∃ way : Fin 2, direction = (way : Nat) :=
    ⟨⟨direction.toNat, by omega⟩, by simp [direction_nonneg]⟩
  have forward : decide (((way : Nat) : Int) = 1) = decide (way = 1) := by
    rw [decide_eq_decide]
    omega
  obtain ⟨clamped, clampedEq⟩ :
      ∃ number : Nat, (if 127 < speed then 127 else speed) = (number : Int) :=
    ⟨(min speed 127).toNat, by split <;> omega⟩
  have saturated : (min speed 127).toNat = clamped := by
    split at clampedEq <;> omega
  obtain ⟨bytes, speedBits, speedDecoded⟩ :=
    calcSpeedStream_packet (addressBytes address mode) way func
      (show clamped ≤ 127 by split at clampedEq <;> omega)
      (show (clamped : Int) ≤ nspeed + 1 by split at clampedEq <;> omega) steps
  refine ⟨bytes, ?_, ?_⟩
  · rw [forward, saturated]
    exact speedDecoded
  · by_cases both : nfuncs = 0
    · rw [if_pos both]
      simp only [handedStreams, multiFuncStreams, calcAddressStream_eq _ form, clampedEq, speedBits,
        if_neg (show ¬ (nfuncs ≠ 0 ∧ 14 < nspeed) by omega)]
      rfl
    · rw [if_neg both]
      simp only [handedStreams, multiFuncStreams, calcAddressStream_eq _ form, clampedEq, speedBits,
        if_pos (show nfuncs ≠ 0 ∧ 14 < nspeed by omega)]
      rfl

/-- Each handed stream carries instructions for the given address, which all
agree with what was commanded and leave nothing out up to F28. -/
theorem handedStreams_carry {address direction speed nspeed nfuncs mode : Int}
    (func : BitVec 32) (form : mode = 1 ∨ mode = 2) (steps : nspeed = 28 ∨ nspeed = 128)
    (accepted : multiFuncAccepts address direction speed nspeed mode = true) :
    ∃ carried : List (Bitstream × List Instruction),
      handedStreams address direction speed func nspeed nfuncs mode = carried.map Prod.fst ∧
        (∀ stream ∈ carried, Carries (givenAddress address mode) stream.1 stream.2) ∧
        (∀ instruction ∈ carried.flatMap Prod.snd,
          instruction.Agrees (direction = 1) (min speed 127).toNat func.getLsbD) ∧
        .speed (direction = 1) (min speed 127).toNat ∈ carried.flatMap Prod.snd ∧
        ∀ i : Nat, i < 29 → i < nfuncs →
          ∃ instruction ∈ carried.flatMap Prod.snd, instruction.Tells i := by
  obtain ⟨⟨positive, atMost⟩, _, _, short⟩ := (multiFuncAccepts_iff _ _ _ _ _).mp accepted
  have addressed := addresses_addressBytes positive atMost short
  obtain ⟨bytes, speedDecoded, handed⟩ := handedStreams_eq func form steps accepted
  have speedCarries := addressed.carries speedDecoded (show minPreamble ≤ 15 by decide)
  rw [handed]
  by_cases both : nfuncs = 0
  · refine ⟨[(_, [_])], ?_, List.forall_mem_singleton.mpr speedCarries, ?_, ?_, ?_⟩
    · rw [if_pos both]
      rfl
    · intro instruction mem
      rw [List.flatMap_singleton, List.mem_singleton] at mem
      rw [mem]
      exact ⟨rfl, rfl⟩
    · rw [List.flatMap_singleton]
      exact List.mem_cons_self
    · intro i _ below
      omega
  · obtain ⟨first, second⟩ := calcFunctionStream_carries addressed speedCarries func nfuncs
    have split (bits bits' : Bitstream) :
        [(bits, [Instruction.speed (direction = 1) (min speed 127).toNat] ++
            (functionInstructions func nfuncs).1),
          (bits', (functionInstructions func nfuncs).2)].flatMap Prod.snd =
          .speed (direction = 1) (min speed 127).toNat ::
            ((functionInstructions func nfuncs).1 ++ (functionInstructions func nfuncs).2) := by
      simp
    refine ⟨[(_, _), (_, _)], ?_,
      List.forall_mem_cons.mpr ⟨first, List.forall_mem_singleton.mpr second⟩, ?_, ?_, ?_⟩
    · rw [if_neg both]
      rfl
    · intro instruction mem
      rcases List.mem_cons.mp (split _ _ ▸ mem) with rfl | inside
      · exact ⟨rfl, rfl⟩
      · exact functionInstructions_agree _ _ func nfuncs inside
    · exact List.mem_append_left _ List.mem_cons_self
    · intro i upTo28 below
      obtain ⟨instruction, mem, tells⟩ := functionInstructions_tell func upTo28 below
      exact ⟨instruction, split _ _ ▸ List.mem_cons_of_mem _ mem, tells⟩

/-- The streams parse as well-formed packets for the address.  The packets tell
nothing but this direction, this speed and these function values, and in
whatever order a decoder executes them it ends with this direction, this speed
and every function below the number of functions, up to F28. -/
def Drives (streams : List Bitstream) (address : Address) (forward : Bool) (step : Nat)
    (function : Nat → Bool) (nfuncs : Int) : Prop :=
  ∃ (packets : List (List (List Byte))) (instructions : List Instruction),
    streams.map parsePackets = packets.map some ∧
      (∀ packet ∈ packets.flatten, WellFormed packet) ∧
      packets.flatten.map decodePacket =
        instructions.map (fun instruction => some (address, instruction)) ∧
      (∀ instruction ∈ instructions, instruction.Agrees forward step function) ∧
      ∀ order : List Instruction, order.Perm instructions → ∀ decoder : Decoder,
        (decoder.executeAll order).forward = some forward ∧
          (decoder.executeAll order).step = some step ∧
          ∀ i : Nat, i < 29 → i < nfuncs →
            (decoder.executeAll order).function i = some (function i)

theorem handedStreams_drive {address direction speed nspeed nfuncs mode : Int}
    (func : BitVec 32) (form : mode = 1 ∨ mode = 2) (steps : nspeed = 28 ∨ nspeed = 128)
    (accepted : multiFuncAccepts address direction speed nspeed mode = true) :
    Drives (handedStreams address direction speed func nspeed nfuncs mode)
      (givenAddress address mode) (direction = 1) (min speed 127).toNat func.getLsbD nfuncs := by
  obtain ⟨carried, handed, carries, agrees, speedTold, functionsTold⟩ :=
    handedStreams_carry func form steps accepted
  obtain ⟨packets, parse, formed, decode⟩ := packets_of_carried carries
  refine ⟨packets, carried.flatMap Prod.snd, handed ▸ parse, formed, decode, agrees, ?_⟩
  intro order perm decoder
  have orderAgrees : ∀ instruction ∈ order,
      instruction.Agrees (direction = 1) (min speed 127).toNat func.getLsbD :=
    fun instruction mem => agrees instruction (perm.mem_iff.mp mem)
  obtain ⟨forward, step⟩ :=
    decoder.executeAll_speed orderAgrees (Or.inr (perm.mem_iff.mpr speedTold))
  refine ⟨forward, step, fun i upTo28 below => ?_⟩
  obtain ⟨instruction, mem, tells⟩ := functionsTold i upTo28 below
  exact decoder.executeAll_function orderAgrees
    (Or.inr ⟨instruction, perm.mem_iff.mpr mem, tells⟩)

/-- For every accepted call, with any function word, the handed streams parse as
well-formed packets for the given address in the given form.  The packets tell
nothing but the given direction, the given speed (saturated at 127) and the given
function values, and in whatever order a decoder executes them it ends with this
direction, this speed and every function below the number of functions. -/
theorem handedStreams_decode (address direction speed nspeed nfuncs mode : Int)
    (func : BitVec 32) (form : mode = 1 ∨ mode = 2) (steps : nspeed = 28 ∨ nspeed = 128)
    (functions : 0 ≤ nfuncs ∧ nfuncs ≤ 28)
    (accepted : multiFuncAccepts address direction speed nspeed mode = true) :
    ∃ (packets : List (List (List Byte))) (instructions : List Instruction),
      (handedStreams address direction speed func nspeed nfuncs mode).map parsePackets =
          packets.map some ∧
        (∀ packet ∈ packets.flatten, WellFormed packet) ∧
        packets.flatten.map decodePacket =
          instructions.map (fun instruction => some (givenAddress address mode, instruction)) ∧
        (∀ instruction ∈ instructions,
          instruction.Agrees (direction = 1) (min speed 127).toNat func.getLsbD) ∧
        ∀ order : List Instruction, order.Perm instructions → ∀ decoder : Decoder,
          (decoder.executeAll order).forward = some (decide (direction = 1)) ∧
            (decoder.executeAll order).step = some (min speed 127).toNat ∧
            ∀ i : Nat, i < nfuncs →
              (decoder.executeAll order).function i = some (func.getLsbD i) := by
  obtain ⟨packets, instructions, parse, formed, decode, agrees, ends⟩ :=
    handedStreams_drive func form steps accepted
  refine ⟨packets, instructions, parse, formed, decode, agrees, ?_⟩
  intro order perm decoder
  obtain ⟨forward, step, function⟩ := ends order perm decoder
  refine ⟨forward, step, fun i below => ?_⟩
  have upTo28 : i < 29 := by omega
  exact function i upTo28 below

/-- Long address 1000, forwards, step 42 of 128, light on, all functions. -/
theorem handedStreams_decode_long :
    ∃ (packets : List (List (List Byte))) (instructions : List Instruction),
      (handedStreams 1000 1 43 1 128 28 2).map parsePackets = packets.map some ∧
        (∀ packet ∈ packets.flatten, WellFormed packet) ∧
        packets.flatten.map decodePacket =
          instructions.map (fun instruction => some (givenAddress 1000 2, instruction)) ∧
        (∀ instruction ∈ instructions,
          instruction.Agrees ((1 : Int) = 1) (min (43 : Int) 127).toNat (1 : BitVec 32).getLsbD) ∧
        ∀ order : List Instruction, order.Perm instructions → ∀ decoder : Decoder,
          (decoder.executeAll order).forward = some (decide ((1 : Int) = 1)) ∧
            (decoder.executeAll order).step = some (min (43 : Int) 127).toNat ∧
            ∀ i : Nat, i < (28 : Int) →
              (decoder.executeAll order).function i = some ((1 : BitVec 32).getLsbD i) :=
  handedStreams_decode 1000 1 43 128 28 2 1 (Or.inr rfl) (Or.inr rfl) (by decide) (by decide)

end Srcpd.Ddl
