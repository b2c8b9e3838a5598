import Srcpd.Types
import Mathlib.Tactic

/-!
# Packets on the track and what a decoder reads from them

A packet is a preamble of ones, a `0`, bytes separated by a `0`, and a final
`1`; its last byte makes the XOR of all bytes zero.  `parsePackets` reads a bit
stream as a sequence of packets, and `parsePackets_packet` is its round trip.

The second half of the file is the meaning of the packets for locomotives: the
address forms, the speed instructions for 28 and 128 steps and the function
groups, together with the state of a decoder that executes them.
-/

namespace Srcpd.Dcc

/-- The bits of a byte in transmission order, the most significant one first. -/
def byteBits (byte : Byte) : List Bool :=
  [byte.getLsbD 7, byte.getLsbD 6, byte.getLsbD 5, byte.getLsbD 4,
    byte.getLsbD 3, byte.getLsbD 2, byte.getLsbD 1, byte.getLsbD 0]

/-- The byte with the given bits, the most significant one first. -/
def byteOfBits (b7 b6 b5 b4 b3 b2 b1 b0 : Bool) : Byte :=
  BitVec.ofBoolListBE [b7, b6, b5, b4, b3, b2, b1, b0]

theorem byteOfBits_byteBits : ∀ byte : Byte,
    byteOfBits (byte.getLsbD 7) (byte.getLsbD 6) (byte.getLsbD 5) (byte.getLsbD 4)
      (byte.getLsbD 3) (byte.getLsbD 2) (byte.getLsbD 1) (byte.getLsbD 0) = byte := by
  decide

/-! ## Framing -/

/-- The bytes of a packet behind its start bit. -/
def dataBits : List Byte → List Bool
  | [] => []
  | [last] => byteBits last ++ [true]
  | byte :: rest => byteBits byte ++ false :: dataBits rest

/-- A packet with a preamble of the given length. -/
def packetBits (preamble : Nat) (bytes : List Byte) : List Bool :=
  List.replicate preamble true ++ false :: dataBits bytes

/-- Fewest ones in front of a packet. -/
def minPreamble : Nat := 14

/-- Reading the ones in front of a packet, or the bytes of one. -/
inductive Reader
  | preamble (ones : Nat)
  | data (bytes : List Byte)

/-- Read a bit stream as a sequence of packets. -/
def parseFrom : Reader → List Bool → Option (List (List Byte))
  | .preamble _, [] => some []
  | .preamble ones, true :: rest => parseFrom (.preamble (ones + 1)) rest
  | .preamble ones, false :: rest =>
      if minPreamble ≤ ones then parseFrom (.data []) rest else none
  | .data bytes, b7 :: b6 :: b5 :: b4 :: b3 :: b2 :: b1 :: b0 :: separator :: rest =>
      let bytes := bytes ++ [byteOfBits b7 b6 b5 b4 b3 b2 b1 b0]
      if separator then (parseFrom (.preamble 0) rest).map (bytes :: ·)
      else parseFrom (.data bytes) rest
  | .data _, _ => none

/-- The packets in a string of bits, from the first preamble on. -/
def parsePackets (bits : List Bool) : Option (List (List Byte)) :=
  parseFrom (.preamble 0) bits

theorem parseFrom_ones (ones more : Nat) (rest : List Bool) :
    parseFrom (.preamble ones) (List.replicate more true ++ rest) =
      parseFrom (.preamble (ones + more)) rest := by
  induction more generalizing ones with
  | zero => rfl
  | succ more ih =>
      rw [List.replicate_succ, List.cons_append, parseFrom, ih, Nat.add_right_comm, Nat.add_assoc]

theorem parseFrom_byte (before : List Byte) (byte : Byte) (separator : Bool)
    (rest : List Bool) :
    parseFrom (.data before) (byteBits byte ++ separator :: rest) =
      if separator then (parseFrom (.preamble 0) rest).map ((before ++ [byte]) :: ·)
      else parseFrom (.data (before ++ [byte])) rest := by
  simp only [byteBits, List.cons_append, List.nil_append, parseFrom, byteOfBits_byteBits]

theorem parseFrom_dataBits (before : List Byte) {bytes : List Byte} (nonempty : bytes ≠ [])
    (rest : List Bool) :
    parseFrom (.data before) (dataBits bytes ++ rest) =
      (parseFrom (.preamble 0) rest).map ((before ++ bytes) :: ·) := by
  induction bytes generalizing before with
  | nil => contradiction
  | cons byte bytes ih =>
      cases bytes with
      | nil =>
          rw [dataBits, List.append_assoc, List.singleton_append, parseFrom_byte]
          rfl
      | cons next bytes =>
          have more := ih (before ++ [byte]) (by simp)
          rw [List.append_assoc, List.singleton_append] at more
          rw [dataBits, List.append_assoc, List.cons_append, parseFrom_byte, if_neg (by simp),
            more]
          exact List.cons_ne_nil _ _

/-- A packet with a long enough preamble is read back. -/
theorem parsePackets_packet {preamble : Nat} (long : minPreamble ≤ preamble)
    {bytes : List Byte} (nonempty : bytes ≠ []) (rest : List Bool) :
    parsePackets (packetBits preamble bytes ++ rest) =
      (parsePackets rest).map (bytes :: ·) := by
  rw [parsePackets, packetBits, List.append_assoc, List.cons_append, parseFrom_ones, parseFrom,
    if_pos (by omega), parseFrom_dataBits [] nonempty]
  rfl

@[simp]
theorem parsePackets_nil : parsePackets [] = some [] :=
  rfl

theorem replicate_append_packetBits (more preamble : Nat) (bytes : List Byte) :
    List.replicate more true ++ packetBits preamble bytes =
      packetBits (more + preamble) bytes := by
  rw [packetBits, ← List.append_assoc, List.replicate_append_replicate, packetBits]

theorem dataBits_append (front : List Byte) {bytes : List Byte} (nonempty : bytes ≠ []) :
    dataBits (front ++ bytes) =
      (front.flatMap fun byte => byteBits byte ++ [false]) ++ dataBits bytes := by
  induction front with
  | nil => rfl
  | cons byte front ih =>
      obtain ⟨next, rest, frontEq⟩ : ∃ next rest, front ++ bytes = next :: rest :=
        List.exists_cons_of_ne_nil (by simp [nonempty])
      rw [List.cons_append, frontEq, dataBits, ← frontEq, ih]
      · simp
      · exact List.cons_ne_nil _ _

/-! ## Error detection -/

/-- XOR of all bytes. -/
def xorBytes (bytes : List Byte) : Byte :=
  bytes.foldr (· ^^^ ·) 0

@[simp]
theorem xorBytes_nil : xorBytes [] = 0 :=
  rfl

@[simp]
theorem xorBytes_cons (byte : Byte) (bytes : List Byte) :
    xorBytes (byte :: bytes) = byte ^^^ xorBytes bytes :=
  rfl

theorem xorBytes_append (first second : List Byte) :
    xorBytes (first ++ second) = xorBytes first ^^^ xorBytes second := by
  induction first with
  | nil => simp
  | cons byte bytes ih => rw [List.cons_append, xorBytes_cons, ih, xorBytes_cons, BitVec.xor_assoc]

/-- A packet whose last byte detects errors: address and instruction bytes
before it, and the XOR of everything zero. -/
def WellFormed (bytes : List Byte) : Prop :=
  3 ≤ bytes.length ∧ xorBytes bytes = 0

instance (bytes : List Byte) : Decidable (WellFormed bytes) :=
  inferInstanceAs (Decidable (_ ∧ _))

/-- A packet with its error detection byte. -/
def completed (bytes : List Byte) : List Byte :=
  bytes ++ [xorBytes bytes]

theorem completed_ne_nil (bytes : List Byte) : completed bytes ≠ [] :=
  List.concat_ne_nil _ _

theorem wellFormed_completed {bytes : List Byte} (long : 2 ≤ bytes.length) :
    WellFormed (completed bytes) := by
  constructor
  · rw [completed, List.length_append, List.length_singleton]
    omega
  · rw [completed, xorBytes_append]
    simp

/-! ## What locomotive decoders read -/

/-- Address of a multi-function decoder. -/
inductive Address
  | short (number : Nat)
  | long (number : Nat)
  deriving DecidableEq, Repr

/-- The address bytes at the front of a packet: `0AAAAAAA`, or `11AAAAAA
AAAAAAAA` up to 10239. -/
def splitAddress : List Byte → Option (Address × List Byte)
  | [] => none
  | first :: rest =>
      if first.toNat = 0 then none
      else if first.toNat < 128 then some (.short first.toNat, rest)
      else if 192 ≤ first.toNat ∧ first.toNat < 232 then
        match rest with
        | [] => none
        | second :: rest => some (.long ((first.toNat - 192) * 256 + second.toNat), rest)
      else none

theorem splitAddress_short {first : Byte} (positive : 0 < first.toNat)
    (short : first.toNat < 128) (rest : List Byte) :
    splitAddress (first :: rest) = some (.short first.toNat, rest) := by
  rw [splitAddress.eq_def]
  simp only [if_neg (Nat.ne_of_gt positive), if_pos short]

theorem splitAddress_long {first second : Byte} (lower : 192 ≤ first.toNat)
    (upper : first.toNat < 232) (rest : List Byte) :
    splitAddress (first :: second :: rest) =
      some (.long ((first.toNat - 192) * 256 + second.toNat), rest) := by
  rw [splitAddress, if_neg (by omega), if_neg (by omega), if_pos ⟨lower, upper⟩]

/-- What a decoder is told. -/
inductive Instruction
  | speed (forward : Bool) (step : Nat)
  | functions (values : List (Nat × Bool))
  deriving DecidableEq, Repr

/-- Speed step of `01DCSSSS`: stop, emergency stop, then 28 steps with `C` as
least significant bit. -/
def speedStep28 (byte : Byte) : Nat :=
  let s := byte.toNat % 16
  if s < 2 then s else 2 * s + (byte.getLsbD 4).toNat - 2

/-- The functions of one byte, from a first number on. -/
def functionBits (byte : Byte) (first count : Nat) : List (Nat × Bool) :=
  (List.range count).map fun i => (first + i, byte.getLsbD i)

/-- The instruction bytes between address and error detection. -/
def decodeInstruction : List Byte → Option Instruction
  | [byte] =>
      if byte &&& 0xc0 = 0x40 then
        some (.speed (byte.getLsbD 5) (speedStep28 byte))
      else if byte &&& 0xe0 = 0x80 then
        some (.functions ((0, byte.getLsbD 4) :: functionBits byte 1 4))
      else if byte &&& 0xf0 = 0xb0 then
        some (.functions (functionBits byte 5 4))
      else if byte &&& 0xf0 = 0xa0 then
        some (.functions (functionBits byte 9 4))
      else none
  | [byte, data] =>
      if byte = 0x3f then some (.speed (data.getLsbD 7) (data.toNat % 128))
      else if byte = 0xde then some (.functions (functionBits data 13 8))
      else if byte = 0xdf then some (.functions (functionBits data 21 8))
      else none
  | _ => none

/-- Address and instruction of a well-formed packet. -/
def decodePacket (bytes : List Byte) : Option (Address × Instruction) :=
  if WellFormed bytes then
    (splitAddress bytes.dropLast).bind fun split =>
      (decodeInstruction split.2).map fun instruction => (split.1, instruction)
  else
    none

theorem decodeInstruction_ne_nil {bytes : List Byte} {instruction : Instruction}
    (instructed : decodeInstruction bytes = some instruction) : bytes ≠ [] := by
  rintro rfl
  cases instructed

/-- Bytes that address one decoder, whatever instruction follows them. -/
structure Addresses (addressBytes : List Byte) (address : Address) : Prop where
  nonempty : addressBytes ≠ []
  split : ∀ bytes, splitAddress (addressBytes ++ bytes) = some (address, bytes)

/-- An instruction that begins with its address has all bytes a packet needs. -/
theorem Addresses.wellFormed {addressBytes bytes : List Byte} {address : Address}
    {instruction : Instruction} (addressed : Addresses addressBytes address)
    (instructed : decodeInstruction bytes = some instruction) :
    WellFormed (completed (addressBytes ++ bytes)) := by
  apply wellFormed_completed
  have first := List.length_pos_iff.mpr addressed.nonempty
  have second := List.length_pos_iff.mpr (decodeInstruction_ne_nil instructed)
  rw [List.length_append]
  omega

/-- A packet made of address bytes, instruction bytes and the error detection
byte decodes to what its parts say. -/
theorem Addresses.decodePacket {addressBytes bytes : List Byte} {address : Address}
    {instruction : Instruction} (addressed : Addresses addressBytes address)
    (instructed : decodeInstruction bytes = some instruction) :
    decodePacket (completed (addressBytes ++ bytes)) = some (address, instruction) := by
  rw [Dcc.decodePacket, if_pos (addressed.wellFormed instructed), completed, List.dropLast_concat,
    addressed.split]
  simp [instructed]

/-- The bits are packets for one address, with these instructions. -/
def Carries (address : Address) (bits : List Bool) (instructions : List Instruction) : Prop :=
  ∃ packets, (∀ rest, parsePackets (bits ++ rest) = (parsePackets rest).map (packets ++ ·)) ∧
    (∀ packet ∈ packets, WellFormed packet) ∧
    packets.map decodePacket = instructions.map fun instruction => some (address, instruction)

/-- One packet with a long enough preamble. -/
theorem Addresses.carries {addressBytes bytes : List Byte} {address : Address}
    {instruction : Instruction} (addressed : Addresses addressBytes address)
    (instructed : decodeInstruction bytes = some instruction) {preamble : Nat}
    (long : minPreamble ≤ preamble) :
    Carries address (packetBits preamble (completed (addressBytes ++ bytes))) [instruction] := by
  refine ⟨[completed (addressBytes ++ bytes)], fun rest => ?_, ?_, ?_⟩
  · exact parsePackets_packet long (completed_ne_nil _) rest
  · intro packet mem
    rw [List.mem_singleton.mp mem]
    exact addressed.wellFormed instructed
  · rw [List.map_singleton, addressed.decodePacket instructed, List.map_singleton]

theorem Carries.append {address : Address} {bits bits' : List Bool}
    {instructions instructions' : List Instruction} (first : Carries address bits instructions)
    (second : Carries address bits' instructions') :
    Carries address (bits ++ bits') (instructions ++ instructions') := by
  obtain ⟨packets, parse, formed, decode⟩ := first
  obtain ⟨packets', parse', formed', decode'⟩ := second
  refine ⟨packets ++ packets', fun rest => ?_, ?_, ?_⟩
  · rw [List.append_assoc, parse, parse', Option.map_map]
    congr 1
    funext more
    exact (List.append_assoc _ _ _).symm
  · intro packet mem
    rcases List.mem_append.mp mem with mem | mem
    · exact formed packet mem
    · exact formed' packet mem
  · rw [List.map_append, decode, decode', List.map_append]

/-- Bits that are sent only on a condition. -/
theorem Carries.ite {address : Address} {bits : List Bool} {instructions : List Instruction}
    {condition : Prop} [Decidable condition] (carries : Carries address bits instructions) :
    Carries address (if condition then bits else []) (if condition then instructions else []) := by
  by_cases holds : condition
  · rw [if_pos holds, if_pos holds]
    exact carries
  · rw [if_neg holds, if_neg holds]
    exact ⟨[], fun rest => by simp, by simp, rfl⟩

/-- What a receiver of the bits makes of them. -/
theorem Carries.packets {address : Address} {bits : List Bool}
    {instructions : List Instruction} (carries : Carries address bits instructions) :
    ∃ packets, parsePackets bits = some packets ∧ (∀ packet ∈ packets, WellFormed packet) ∧
      packets.map decodePacket =
        instructions.map fun instruction => some (address, instruction) := by
  obtain ⟨packets, parse, formed, decode⟩ := carries
  refine ⟨packets, ?_, formed, decode⟩
  have whole := parse []
  rw [List.append_nil, parsePackets_nil] at whole
  rw [whole, Option.map_some, List.append_nil]

/-- Several streams for the same address. -/
theorem packets_of_carried {address : Address} {carried : List (List Bool × List Instruction)}
    (each : ∀ stream ∈ carried, Carries address stream.1 stream.2) :
    ∃ packets : List (List (List Byte)),
      (carried.map Prod.fst).map parsePackets = packets.map some ∧
      (∀ packet ∈ packets.flatten, WellFormed packet) ∧
      packets.flatten.map decodePacket =
        (carried.flatMap Prod.snd).map fun instruction => some (address, instruction) := by
  induction carried with
  | nil => exact ⟨[], rfl, by simp, rfl⟩
  | cons stream carried ih =>
      obtain ⟨packets, parse, formed, decode⟩ :=
        ih fun other mem => each other (List.mem_cons_of_mem _ mem)
      obtain ⟨first, firstParse, firstFormed, firstDecode⟩ :=
        (each stream List.mem_cons_self).packets
      refine ⟨first :: packets, ?_, ?_, ?_⟩
      · rw [List.map_cons, List.map_cons, firstParse, parse, List.map_cons]
      · intro packet mem
        rcases List.mem_append.mp mem with mem | mem
        · exact firstFormed packet mem
        · exact formed packet mem
      · rw [List.flatten_cons, List.map_append, firstDecode, decode, List.flatMap_cons,
          List.map_append]

/-- What a decoder was told last. -/
structure Decoder where
  forward : Option Bool
  step : Option Nat
  function : Nat → Option Bool

/-- Function outputs after one value. -/
def setFunction (function : Nat → Option Bool) (value : Nat × Bool) : Nat → Option Bool :=
  Function.update function value.1 (some value.2)

/-- One instruction at the decoder. -/
def Decoder.execute (decoder : Decoder) : Instruction → Decoder
  | .speed forward step => { decoder with forward := some forward, step := some step }
  | .functions values =>
      { decoder with function := values.foldl setFunction decoder.function }

/-- Execute instructions in their order. -/
def Decoder.executeAll (decoder : Decoder) (instructions : List Instruction) : Decoder :=
  instructions.foldl Decoder.execute decoder

/-! ## Instructions that agree -/

/-- The instruction says nothing but this direction, this speed and these
function values. -/
def Instruction.Agrees (forward : Bool) (step : Nat) (function : Nat → Bool) :
    Instruction → Prop
  | .speed forward' step' => forward' = forward ∧ step' = step
  | .functions values => ∀ value ∈ values, value.2 = function value.1

/-- The instruction has a value for function `i`. -/
def Instruction.Tells (i : Nat) : Instruction → Prop
  | .speed _ _ => False
  | .functions values => ∃ value ∈ values, value.1 = i

theorem foldl_setFunction {values : List (Nat × Bool)} {i : Nat} {on : Bool}
    (agrees : ∀ value ∈ values, value.1 = i → value.2 = on) {function : Nat → Option Bool}
    (told : function i = some on ∨ ∃ value ∈ values, value.1 = i) :
    values.foldl setFunction function i = some on := by
  induction values generalizing function with
  | nil =>
      rcases told with told | ⟨value, mem, _⟩
      · exact told
      · cases mem
  | cons value values ih =>
      rw [List.foldl_cons]
      apply ih (fun other mem => agrees other (List.mem_cons_of_mem _ mem))
      by_cases here : value.1 = i
      · left
        rw [setFunction, ← here, Function.update_self, agrees value List.mem_cons_self here]
      · rw [setFunction, Function.update_of_ne (Ne.symm here)]
        rcases told with told | ⟨other, mem, number⟩
        · exact Or.inl told
        · rcases List.mem_cons.mp mem with rfl | mem
          · contradiction
          · exact Or.inr ⟨other, mem, number⟩

/-- After instructions that agree, with a speed among them, a decoder has this
direction and speed. -/
theorem Decoder.executeAll_speed {forward : Bool} {step : Nat} {function : Nat → Bool}
    {instructions : List Instruction}
    (decoder : Decoder)
    (agrees : ∀ instruction ∈ instructions, instruction.Agrees forward step function)
    (told : (decoder.forward = some forward ∧ decoder.step = some step) ∨
      .speed forward step ∈ instructions) :
    (decoder.executeAll instructions).forward = some forward ∧
      (decoder.executeAll instructions).step = some step := by
  induction instructions generalizing decoder with
  | nil =>
      rcases told with told | mem
      · exact told
      · cases mem
  | cons instruction instructions ih =>
      apply ih _ (fun other mem => agrees other (List.mem_cons_of_mem _ mem))
      cases instruction with
      | speed forward' step' =>
          obtain ⟨rfl, rfl⟩ := agrees _ List.mem_cons_self
          exact Or.inl ⟨rfl, rfl⟩
      | functions values =>
          rcases told with told | mem
          · exact Or.inl told
          · exact Or.inr (List.mem_of_ne_of_mem (by simp) mem)

/-- After instructions that agree, a decoder has the value of every function
that one of them tells. -/
theorem Decoder.executeAll_function {forward : Bool} {step : Nat} {function : Nat → Bool}
    {instructions : List Instruction}
    (decoder : Decoder)
    (agrees : ∀ instruction ∈ instructions, instruction.Agrees forward step function) {i : Nat}
    (told : decoder.function i = some (function i) ∨
      ∃ instruction ∈ instructions, instruction.Tells i) :
    (decoder.executeAll instructions).function i = some (function i) := by
  induction instructions generalizing decoder with
  | nil =>
      rcases told with told | ⟨instruction, mem, _⟩
      · exact told
      · cases mem
  | cons instruction instructions ih =>
      apply ih _ (fun other mem => agrees other (List.mem_cons_of_mem _ mem))
      cases instruction with
      | speed forward' step' =>
          rcases told with told | ⟨other, mem, tells⟩
          · exact Or.inl told
          · rcases List.mem_cons.mp mem with rfl | mem
            · exact absurd tells id
            · exact Or.inr ⟨other, mem, tells⟩
      | functions values =>
          have valuesAgree : ∀ value ∈ values, value.1 = i → value.2 = function i := by
            rintro value mem rfl
            exact agrees _ List.mem_cons_self value mem
          rcases told with told | ⟨other, mem, tells⟩
          · exact Or.inl (foldl_setFunction valuesAgree (Or.inl told))
          · rcases List.mem_cons.mp mem with rfl | mem
            · exact Or.inl (foldl_setFunction valuesAgree (Or.inr tells))
            · exact Or.inr ⟨other, mem, tells⟩

end Srcpd.Dcc
