import Srcpd.Dcc.Packet

/-!
# What accessory decoders read

The basic packet for accessories, `10AAAAAA 1aaaCDDO`: six bits of the address of a
decoder and three more of it inverted, whether an output is switched on, the number of
a pair of outputs, and the output of the pair.
-/

namespace Srcpd.Dcc

/-- What an accessory packet orders: a decoder, a pair of outputs, one of them, on or off. -/
structure AccessoryOrder where
  address : BitVec 9
  pair : BitVec 2
  output : Bool
  activate : Bool
  deriving DecidableEq, Repr

/-- The pairs of all decoders in a row. -/
def AccessoryOrder.number (order : AccessoryOrder) : Nat :=
  4 * order.address.toNat + order.pair.toNat

theorem AccessoryOrder.number_lt (order : AccessoryOrder) : order.number < 2048 := by
  have address := order.address.isLt
  have pair := order.pair.isLt
  rw [number]
  omega

/-- `10AAAAAA`. -/
def AccessoryOrder.first (order : AccessoryOrder) : Byte :=
  2#2 ++ order.address.extractLsb' 0 6

/-- `1aaaCDDO` of the upper part of an address. -/
def accessoryByte (upper : BitVec 3) (activate : Bool) (pair : BitVec 2) (output : Bool) : Byte :=
  1#1 ++ ~~~ upper ++ BitVec.ofBool activate ++ pair ++ BitVec.ofBool output

/-- The second byte of the packet, behind the low address bits. -/
def AccessoryOrder.second (order : AccessoryOrder) : Byte :=
  accessoryByte (order.address.extractLsb' 6 3) order.activate order.pair order.output

/-- The order in a packet; the high address bits are sent as their complement. -/
def decodeAccessory (bytes : List Byte) : Option AccessoryOrder :=
  if WellFormed bytes then
    match bytes with
    | [first, second, _] =>
        if first &&& 0xc0 = 0x80 ∧ second &&& 0x80 = 0x80 then
          some {
            address := ~~~ second.extractLsb' 4 3 ++ first.extractLsb' 0 6
            pair := second.extractLsb' 1 2
            output := second.getLsbD 0
            activate := second.getLsbD 3 }
        else none
    | _ => none
  else none

theorem first_fields : ∀ address : BitVec 9,
    let first : Byte := 2#2 ++ address.extractLsb' 0 6
    first &&& 0xc0 = 0x80 ∧ first.extractLsb' 0 6 = address.extractLsb' 0 6 ∧
      address.extractLsb' 6 3 ++ address.extractLsb' 0 6 = address := by
  decide

theorem accessoryByte_fields : ∀ (upper : BitVec 3) (activate : Bool) (pair : BitVec 2)
    (output : Bool),
    let second := accessoryByte upper activate pair output
    second &&& 0x80 = 0x80 ∧ ~~~ second.extractLsb' 4 3 = upper ∧
      second.extractLsb' 1 2 = pair ∧ second.getLsbD 0 = output ∧
      second.getLsbD 3 = activate := by
  decide

/-- A packet with its error detection byte is read back. -/
theorem decodeAccessory_completed (order : AccessoryOrder) :
    decodeAccessory (completed [order.first, order.second]) = some order := by
  obtain ⟨prefixed, lower, whole⟩ := first_fields order.address
  obtain ⟨marked, upper, pair, output, activate⟩ :=
    accessoryByte_fields (order.address.extractLsb' 6 3) order.activate order.pair order.output
  rw [decodeAccessory.eq_def, if_pos (wellFormed_completed (by simp))]
  simp only [completed, List.cons_append, List.nil_append]
  rw [AccessoryOrder.first, AccessoryOrder.second, if_pos ⟨prefixed, marked⟩, upper, lower, whole,
    pair, output, activate]

end Srcpd.Dcc
