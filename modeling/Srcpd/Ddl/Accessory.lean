import Srcpd.Command.Gl
import Srcpd.Dcc.Accessory
import Srcpd.Ddl.MultiFunc

/-!
# Packets for accessories

`comp_nmra_accessory` checks the number of an accessory and adds the configured offset
afterwards, so that an address can have more bits than the packet has room for.
`tells_iff` says for which offsets every accepted command is told as it is.
-/

namespace Srcpd.Ddl.Accessory

open Srcpd.Command Srcpd.Dcc

/-- The arguments of `comp_nmra_accessory`. -/
structure Call where
  nr : Int
  output : Int
  activate : Int
  deriving DecidableEq, Repr

/-- No special error handling, it's job of the clients. -/
def Call.Accepted (call : Call) : Prop :=
  1 ≤ call.nr ∧ call.nr ≤ 2044 ∧ 0 ≤ call.output ∧ call.output ≤ 1 ∧ 0 ≤ call.activate ∧
    call.activate ≤ 1

instance (call : Call) : Decidable call.Accepted :=
  inferInstanceAs (Decidable (_ ∧ _ ∧ _ ∧ _ ∧ _ ∧ _))

/-- Of the decoder. -/
def address (nr offset : Int) : Int :=
  (int32 (nr + offset)).tdiv 4

/-- Decoders have pairs of outputs. -/
def pairnr (nr offset : Int) : Int :=
  (int32 (nr + offset)).tmod 4

/-- `10AAAAAA`, the lower 6 bits. -/
def byte1 (address : Int) : Bitstream :=
  calcSingleByte (0x80 ||| (i32 address &&& 0x3f))

/-- `1AAACDDO`, the upper 3 address bits are inverted. -/
def byte2 (address pairnr output activate : Int) : Bitstream :=
  calcSingleByte (0x80 ||| (~~~ i32 address &&& 0x1c0).sshiftRight 2 |||
    i32 activate <<< (3 : Nat) ||| i32 pairnr <<< (1 : Nat) ||| i32 output)

/-- The packet of a call: two bytes and their exclusive or behind the preamble. -/
def bitstream (call : Call) (offset : Int) : Bitstream :=
  let byte1 := byte1 (address call.nr offset)
  let byte2 :=
    byte2 (address call.nr offset) (pairnr call.nr offset) call.output call.activate
  preamble ++ [false] ++ byte1 ++ [false] ++ byte2 ++ [false] ++ xorTwoBytes byte2 byte1 ++ [true]

/-- Returns 0 when the packet is queued, and 1 on an error.  `none` when the translation is
still running. -/
def compNmraAccessory (fuel : Nat) (ddl : DdlData) (call : Call) (offset : Int) :
    Option (Nat × DdlData) :=
  if ¬ call.Accepted then some (1, ddl)
  else
    (translateBitstream2Packetstream ddl.nmradccTrV fuel (bitstream call offset) true).map
      fun (j, packetstream) =>
        if 0 < j then
          (0, { ddl with
            queue := queueAdd ddl.queue (address call.nr offset) packetstream .nbAccPkt j })
        else (1, ddl)

/-- The stream is one packet for an accessory, with an XOR of zero, that says what the
command says. -/
def Tells (offset : Int) (call : Call) : Prop :=
  ∃ bytes order, (∀ rest, parsePackets (bitstream call offset ++ rest) =
      (parsePackets rest).map (bytes :: ·)) ∧ xorBytes bytes = 0 ∧
    decodeAccessory bytes = some order ∧ (order.number : Int) = call.nr + offset ∧
    (order.output = true ↔ call.output = 1) ∧ (order.activate = true ↔ call.activate = 1)

/-- Accessories or outputs that differ have different packets. -/
def Distinguishes (offset : Int) : Prop :=
  ∀ first second : Call, first.Accepted → second.Accepted →
    bitstream first offset = bitstream second offset →
    first.nr = second.nr ∧ first.output = second.output

/-! ## The bytes -/

theorem byte1_table : ∀ address : BitVec 9,
    (((0x80 : BitVec 32) ||| (address.setWidth 32 &&& 0x3f)).setWidth 8 : Byte) =
      2#2 ++ address.extractLsb' 0 6 := by
  decide

theorem upper_table : ∀ address : BitVec 9,
    (~~~ address.setWidth 32 &&& (0x1c0 : BitVec 32)).sshiftRight 2 =
      (~~~ address.extractLsb' 6 3).setWidth 32 <<< (4 : Nat) := by
  decide

theorem byte2_table : ∀ (upper : BitVec 3) (activate : Bool) (pair : BitVec 2) (output : Bool),
    (((0x80 : BitVec 32) ||| (~~~ upper).setWidth 32 <<< (4 : Nat) |||
      (BitVec.ofBool activate).setWidth 32 <<< (3 : Nat) ||| pair.setWidth 32 <<< (1 : Nat) |||
      (BitVec.ofBool output).setWidth 32).setWidth 8 : Byte) =
        accessoryByte upper activate pair output := by
  decide

theorem i32_natCast {width value : Nat} (small : value < 2 ^ width) (narrow : width ≤ 32) :
    i32 value = (BitVec.ofNat width value).setWidth 32 := by
  apply BitVec.eq_of_toNat_eq
  have below : 2 ^ width ≤ 2 ^ 32 := Nat.pow_le_pow_right (by decide) narrow
  rw [i32, BitVec.ofInt_natCast, BitVec.toNat_ofNat, BitVec.toNat_setWidth, BitVec.toNat_ofNat,
    Nat.mod_eq_of_lt small]

theorem i32_bit {value : Int} (lower : 0 ≤ value) (upper : value ≤ 1) :
    i32 value = (BitVec.ofBool (decide (value = 1))).setWidth 32 := by
  rcases (show value = 0 ∨ value = 1 by omega) with rfl | rfl
  · decide
  · decide

/-- What a command for a number in the range of the decoders says. -/
def order (number : Nat) (call : Call) : AccessoryOrder where
  address := BitVec.ofNat 9 (number / 4)
  pair := BitVec.ofNat 2 (number % 4)
  output := decide (call.output = 1)
  activate := decide (call.activate = 1)

theorem order_number {number : Nat} (small : number < 2048) (call : Call) :
    (order number call).number = number := by
  have address : (BitVec.ofNat 9 (number / 4)).toNat = number / 4 := by
    rw [BitVec.toNat_ofNat]
    omega
  have pair : (BitVec.ofNat 2 (number % 4)).toNat = number % 4 := by
    rw [BitVec.toNat_ofNat]
    omega
  show 4 * (BitVec.ofNat 9 (number / 4)).toNat + (BitVec.ofNat 2 (number % 4)).toNat = number
  rw [address, pair]
  omega

section Offsets

variable {offset : Int} {call : Call} {number : Nat}

theorem bitstream_eq (accepted : call.Accepted) (same : call.nr + offset = number)
    (small : number < 2048) :
    bitstream call offset =
      packetBits 15 (completed [(order number call).first, (order number call).second]) := by
  obtain ⟨-, -, output, output', activate, activate'⟩ := accepted
  have fits : int32 (call.nr + offset) = number := by
    rw [same, int32]
    exact Int.bmod_eq_of_le (by omega) (by omega)
  have quotient : address call.nr offset = (number / 4 : Nat) := by
    rw [address, fits]
    rfl
  have rest : pairnr call.nr offset = (number % 4 : Nat) := by
    rw [pairnr, fits]
    rfl
  have first : byte1 (address call.nr offset) = byteBits (order number call).first := by
    rw [byte1, quotient, i32_natCast (show number / 4 < 2 ^ 9 by omega) (by decide),
      calcSingleByte_eq, byte1_table]
    rfl
  have second : byte2 (address call.nr offset) (pairnr call.nr offset) call.output
      call.activate = byteBits (order number call).second := by
    rw [byte2, quotient, rest, i32_natCast (show number / 4 < 2 ^ 9 by omega) (by decide),
      i32_natCast (show number % 4 < 2 ^ 2 by omega) (by decide), i32_bit output output',
      i32_bit activate activate', upper_table, calcSingleByte_eq, byte2_table]
    rfl
  have alone : (order number call).first ^^^ (0 : Byte) = (order number call).first :=
    BitVec.xor_zero
  have framed := packet_one [(order number call).first] (order number call).second
  rw [bitstream, first, second]
  simp only [addressFront, List.flatMap_cons, List.flatMap_nil, List.append_nil, xorBytes_cons,
    xorBytes_nil, alone, List.cons_append, List.nil_append, xorTwoBytes_byteBits,
    List.append_assoc] at framed ⊢
  rw [← framed, BitVec.xor_comm]

/-- Inside the range of the decoders a command is told. -/
theorem tells_of_lt (accepted : call.Accepted) (same : call.nr + offset = number)
    (small : number < 2048) : Tells offset call := by
  refine ⟨completed [(order number call).first, (order number call).second], order number call,
    ?_, ?_, ?_, ?_, ?_, ?_⟩
  · intro rest
    rw [bitstream_eq accepted same small]
    exact parsePackets_packet (by decide) (completed_ne_nil _) rest
  · exact (wellFormed_completed (by simp)).2
  · exact decodeAccessory_completed _
  · rw [order_number small, same]
  · exact decide_eq_true_iff
  · exact decide_eq_true_iff

/-- What a packet says is a number in the range of the decoders. -/
theorem Tells.range (tells : Tells offset call) :
    0 ≤ call.nr + offset ∧ call.nr + offset < 2048 := by
  obtain ⟨bytes, order, -, -, -, number, -, -⟩ := tells
  have small := order.number_lt
  omega

/-- Two commands with one stream say the same. -/
theorem Tells.unique {other : Call} (tells : Tells offset call) (tells' : Tells offset other)
    (accepted : call.Accepted) (accepted' : other.Accepted)
    (same : bitstream call offset = bitstream other offset) :
    call.nr = other.nr ∧ call.output = other.output := by
  obtain ⟨bytes, order, parsed, -, decoded, number, output, -⟩ := tells
  obtain ⟨bytes', order', parsed', -, decoded', number', output', -⟩ := tells'
  have both := (parsed []).symm.trans (same ▸ parsed' [])
  rw [parsePackets_nil, Option.map_some, Option.map_some, Option.some.injEq, List.cons.injEq]
    at both
  obtain ⟨rfl, -⟩ := both
  rw [decoded] at decoded'
  cases decoded'
  obtain ⟨-, -, lower, upper, -, -⟩ := accepted
  obtain ⟨-, -, lower', upper', -, -⟩ := accepted'
  have outputs : call.output = 1 ↔ other.output = 1 := output.symm.trans output'
  omega

end Offsets

/-- The offsets with which every accepted command is told and no two accessories have the
same packet; valid values are 0 and 1. -/
theorem tells_iff (offset : Int) :
    (∀ call : Call, call.Accepted → Tells offset call) ∧ Distinguishes offset ↔
      -1 ≤ offset ∧ offset ≤ 3 := by
  constructor
  · rintro ⟨tells, -⟩
    have first := (tells ⟨1, 0, 0⟩ (by decide)).range
    have last := (tells ⟨2044, 0, 0⟩ (by decide)).range
    constructor
    · have lower := first.1
      dsimp only at lower
      omega
    · have upper := last.2
      dsimp only at upper
      omega
  · rintro ⟨lower, upper⟩
    have tells (call : Call) (accepted : call.Accepted) : Tells offset call := by
      have first := accepted.1
      have last := accepted.2.1
      obtain ⟨number, same⟩ := Int.eq_ofNat_of_zero_le (show 0 ≤ call.nr + offset by omega)
      exact tells_of_lt accepted same (by omega)
    constructor
    · exact tells
    · intro first second accepted accepted' same
      exact (tells first accepted).unique (tells second accepted') accepted accepted' same

/-- With an offset of 4, output 0 of accessory 2044 gets the packet of a decoder 0. -/
theorem not_tells :
    ¬ ((∀ call : Call, call.Accepted → Tells 4 call) ∧ Distinguishes 4) := by
  rintro ⟨tells, -⟩
  exact absurd (tells ⟨2044, 0, 1⟩ (by decide)).range.2 (by decide)

end Srcpd.Ddl.Accessory
