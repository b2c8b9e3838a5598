import Srcpd.Bits.Digits
import Srcpd.Ddl.Maerklin
import Srcpd.Ddl.PacketQueue

/-!
# Packets for solenoids and for function decoders

The two composers of `ddl_maerklin.c` for decoders at twice the bit rate.  A packet
is nine trits of one byte each: four for the address, one that tells the kind of
decoder, four for what the decoder has to do.  `readPacket38k` is what the decoders
make of a packet.
-/

namespace Srcpd.Ddl

open Srcpd.Bits Srcpd.Queue

/-- A low trit at the frequency of the accessories. -/
def lo38k : BitVec 8 := 55

/-- A high trit at the frequency of the accessories. -/
def hi38k : BitVec 8 := 4

/-- An open trit at the frequency of the accessories. -/
def op38k : BitVec 8 := 52

/-- The byte for a trit; no case of the switch writes one for a `U`, which leaves what
the memory contains. -/
def Trit.byte38k (memory : BitVec 8) : Trit → BitVec 8
  | .l => lo38k
  | .h => hi38k
  | .o => op38k
  | .u => memory

/-- The bytes of a packet; a trit without a byte of its own leaves what the buffer held. -/
def packet38k (memory : Nat → BitVec 8) (trits : List Trit) : Packetstream :=
  trits.mapIdx fun i trit => trit.byte38k (memory i)

/-- The trit for a remainder of a division by 2 or by 3. -/
def digitTrit : Nat → Trit
  | 0 => .l
  | 1 => .h
  | _ => .o

/-! ## The composers -/

/-- The tests of `comp_maerklin_ms` on its arguments. -/
def maerklinMsAccepts (address port action : Int) : Bool :=
  !(address < 1 || 324 < address || action < 0 || 1 < action || port < 0 || 1 < port)

/-- A switch with its address, its output and its action. -/
def maerklinMsTrits (address port action : Int) : List Trit :=
  let id := (address - 1).toNat / 4
  let subid := (address - 1).toNat % 4 * 2 + port.toNat
  (lowDigits 3 4 id).map digitTrit ++ [.l] ++ (lowDigits 2 3 subid).map digitTrit ++
    [if action ≠ 0 then .h else .l]

/-- `memory` is what the array for the packet contains at first. -/
def compMaerklinMs (memory : Nat → BitVec 8) (ddl : DdlData) (address port action : Int) :
    Nat × DdlData :=
  if !maerklinMsAccepts address port action then (1, ddl)
  else
    let packet := packet38k memory (maerklinMsTrits address port action)
    (0, { ddl with queue := queueAdd ddl.queue address packet .m1SolePkt 9 })

/-- The tests of `comp_maerklin_mf` on its arguments. -/
def maerklinMfAccepts (address f1 f2 f3 f4 : Int) : Bool :=
  !(address < 0 || 80 < address || f1 < 0 || 1 < f1 || f2 < 0 || 1 < f2 || f3 < 0 || 1 < f3 ||
    f4 < 0 || 1 < f4)

/-- An address with four functions. -/
def maerklinMfTrits (address f1 f2 f3 f4 : Int) : List Trit :=
  addressTrits address ++ [.h] ++ [f1, f2, f3, f4].map fun f => if f ≠ 0 then .h else .l

/-- `comp_maerklin_mf`: nothing is queued for arguments that fail the tests. -/
def compMaerklinMf (memory : Nat → BitVec 8) (ddl : DdlData) (address f1 f2 f3 f4 : Int) :
    Nat × DdlData :=
  if !maerklinMfAccepts address f1 f2 f3 f4 then (1, ddl)
  else
    let packet := packet38k memory (maerklinMfTrits address f1 f2 f3 f4)
    (0, { ddl with queue := queueAdd ddl.queue address packet .m1FuncPkt 9 })

/-! ## Reading a packet -/

/-- The trit of a byte, as a decoder reads it. -/
def readTrit38k (byte : BitVec 8) : Option Trit :=
  if byte = lo38k then some .l else if byte = hi38k then some .h
  else if byte = op38k then some .o else none

/-- The trits of a packet, if all its bytes are trits. -/
def readTrits38k : Packetstream → Option (List Trit)
  | [] => some []
  | byte :: rest => (readTrit38k byte).bind fun trit => (readTrits38k rest).map (trit :: ·)

/-- The digit of a trit in an address. -/
def Trit.digit : Trit → Nat
  | .l => 0
  | .h => 1
  | .o => 2
  | .u => 3

/-- An accessory decoder has four pairs of outputs, each one an accessory with two
ports; a function decoder has four functions. -/
inductive Message38k
  | solenoid (address port : Nat) (action : Bool)
  | functions (address : Nat) (f1 f2 f3 f4 : Bool)
  deriving DecidableEq, Repr

/-- On or off. -/
def Trit.bit : Trit → Option Bool
  | .l => some false
  | .h => some true
  | _ => none

/-- The number on the switches of a decoder for four trits.  Those of a function
decoder count from 1 to 80, and 0 is the place behind them. -/
def switchNumber (trits : List Trit) : Nat :=
  Nat.ofDigits 3 (trits.map Trit.digit)

/-- The decoder address of a number; 80 and 0 change places. -/
def functionAddress (number : Nat) : Nat :=
  if number = 0 then 80 else if number = 80 then 0 else number

/-- What a decoder finds behind the address. -/
def readTail38k (address : List Trit) : List Trit → Option Message38k
  | [.l, first, second, third, action] =>
      first.bit.bind fun bit1 => second.bit.bind fun bit2 => third.bit.bind fun bit4 =>
        action.bit.map fun action =>
          .solenoid (switchNumber address * 4 + bit2.toNat + 2 * bit4.toNat + 1) bit1.toNat action
  | [.h, f1, f2, f3, f4] =>
      f1.bit.bind fun f1 => f2.bit.bind fun f2 => f3.bit.bind fun f3 => f4.bit.map fun f4 =>
        .functions (functionAddress (switchNumber address)) f1 f2 f3 f4
  | _ => none

/-- What a decoder reads in a packet. -/
def readPacket38k (packet : Packetstream) : Option Message38k :=
  (readTrits38k packet).bind fun trits => readTail38k (trits.take 4) (trits.drop 4)

/-! ## What the composers send -/

theorem length_packet38k (memory : Nat → BitVec 8) (trits : List Trit) :
    (packet38k memory trits).length = trits.length :=
  List.length_mapIdx

/-- Nothing of the memory is left in a packet without a `U`. -/
theorem readTrits38k_packet38k (memory : Nat → BitVec 8) {trits : List Trit}
    (written : .u ∉ trits) : readTrits38k (packet38k memory trits) = some trits := by
  induction trits generalizing memory with
  | nil => rfl
  | cons trit trits ih =>
      rw [List.mem_cons, not_or] at written
      have head : readTrit38k (trit.byte38k (memory 0)) = some trit := by
        cases trit with
        | l => rfl
        | h => rfl
        | o => rfl
        | u => exact absurd rfl written.1
      have tail := ih (fun i => memory (i + 1)) written.2
      rw [packet38k] at tail
      rw [packet38k, List.mapIdx_cons, readTrits38k, head, Option.bind_some, tail, Option.map_some]

theorem packet38k_congr (memory memory' : Nat → BitVec 8) {trits : List Trit}
    (written : .u ∉ trits) : packet38k memory trits = packet38k memory' trits := by
  induction trits generalizing memory memory' with
  | nil => rfl
  | cons trit trits ih =>
      rw [List.mem_cons, not_or] at written
      have head : trit.byte38k (memory 0) = trit.byte38k (memory' 0) := by
        cases trit with
        | l => rfl
        | h => rfl
        | o => rfl
        | u => exact absurd rfl written.1
      have tail := ih (fun i => memory (i + 1)) (fun i => memory' (i + 1)) written.2
      rw [packet38k, packet38k] at tail
      rw [packet38k, packet38k, List.mapIdx_cons, List.mapIdx_cons, head, tail]

theorem readPacket38k_packet38k (memory : Nat → BitVec 8) {address tail : List Trit}
    (four : address.length = 4) (written : .u ∉ address ++ tail) :
    readPacket38k (packet38k memory (address ++ tail)) = readTail38k address tail := by
  rw [readPacket38k, readTrits38k_packet38k memory written, Option.bind_some,
    List.take_left' four, List.drop_left' four]

theorem digitTrit_ne_u (digit : Nat) : digitTrit digit ≠ .u := by
  unfold digitTrit
  split <;> decide

theorem digit_digitTrit {digit : Nat} (small : digit < 3) : (digitTrit digit).digit = digit := by
  interval_cases digit <;> rfl

/-- The trits of the digits of a number are the number on the switches. -/
theorem switchNumber_lowDigits {count number : Nat} (small : number < 3 ^ count) :
    switchNumber ((lowDigits 3 count number).map digitTrit) = number := by
  have digits : ((lowDigits 3 count number).map digitTrit).map Trit.digit =
      lowDigits 3 count number := by
    rw [List.map_map]
    conv_rhs => rw [← List.map_id (lowDigits 3 count number)]
    apply List.map_congr_left
    intro digit mem
    exact digit_digitTrit (lt_of_mem_lowDigits (by decide) mem)
  rw [switchNumber, digits]
  exact ofDigits_lowDigits (by decide) small

/-- The three trits behind the dummy one are the pair of outputs and the port. -/
theorem readTail38k_solenoid (address : List Trit) : ∀ (port pair : Nat) (action : Bool),
    port < 2 → pair < 4 →
    readTail38k address ([.l] ++ (lowDigits 2 3 (pair * 2 + port)).map digitTrit ++
        [if action then .h else .l]) =
      some (.solenoid (switchNumber address * 4 + pair + 1) port action) := by
  intro port pair action range range'
  interval_cases port <;> interval_cases pair <;> cases action <;> rfl

theorem not_mem_maerklinMsTrits (address port action : Int) :
    .u ∉ maerklinMsTrits address port action := by
  have digits (base count number : Nat) :
      .u ∉ (lowDigits base count number).map digitTrit := by
    intro mem
    obtain ⟨digit, _, same⟩ := List.mem_map.mp mem
    exact digitTrit_ne_u digit same
  simp only [maerklinMsTrits, List.mem_append, List.mem_singleton, not_or]
  refine ⟨⟨⟨digits _ _ _, by decide⟩, digits _ _ _⟩, ?_⟩
  split <;> decide

theorem readPacket38k_maerklinMs (memory : Nat → BitVec 8) {address port action : Int}
    (accepted : maerklinMsAccepts address port action) :
    readPacket38k (packet38k memory (maerklinMsTrits address port action)) =
      some (.solenoid address.toNat port.toNat (action ≠ 0)) := by
  simp only [maerklinMsAccepts, Bool.not_eq_true', Bool.or_eq_false_iff,
    decide_eq_false_iff_not] at accepted
  have written := not_mem_maerklinMsTrits address port action
  simp only [maerklinMsTrits, List.append_assoc] at written ⊢
  rw [readPacket38k_packet38k memory (by rw [List.length_map, length_lowDigits]) written]
  have read : readTail38k ((lowDigits 3 4 ((address - 1).toNat / 4)).map digitTrit)
      ([.l] ++ (lowDigits 2 3 ((address - 1).toNat % 4 * 2 + port.toNat)).map digitTrit ++
        [if decide (action ≠ 0) = true then .h else .l]) =
      some (.solenoid (switchNumber ((lowDigits 3 4 ((address - 1).toNat / 4)).map digitTrit) * 4 +
        (address - 1).toNat % 4 + 1) port.toNat (decide (action ≠ 0))) :=
    readTail38k_solenoid _ _ _ _ (by omega) (by omega)
  have small : (address - 1).toNat / 4 < 3 ^ 4 := by omega
  rw [switchNumber_lowDigits small] at read
  simp only [decide_eq_true_eq, List.append_assoc] at read
  rw [read]
  congr 2
  omega

/-- The codes of the addresses up to 80 are those of the numbers on the switches. -/
theorem functionAddress_addressTrits : ∀ address : Fin 81,
    functionAddress (switchNumber (addressTrits (address : Nat))) = address ∧
      .u ∉ addressTrits (address : Nat) := by
  decide +kernel

theorem readTail38k_functions (address : List Trit) : ∀ f1 f2 f3 f4 : Bool,
    readTail38k address ([.h] ++ [f1, f2, f3, f4].map fun f => if f then .h else .l) =
      some (.functions (functionAddress (switchNumber address)) f1 f2 f3 f4) := by
  intro f1 f2 f3 f4
  cases f1 <;> cases f2 <;> cases f3 <;> cases f4 <;> rfl

theorem not_mem_maerklinMfTrits {address f1 f2 f3 f4 : Int}
    (accepted : maerklinMfAccepts address f1 f2 f3 f4) :
    .u ∉ maerklinMfTrits address f1 f2 f3 f4 := by
  simp only [maerklinMfAccepts, Bool.not_eq_true', Bool.or_eq_false_iff,
    decide_eq_false_iff_not] at accepted
  obtain ⟨adr, same⟩ : ∃ adr : Fin 81, address = (adr : Nat) :=
    ⟨⟨address.toNat, by omega⟩, by simp; omega⟩
  simp only [maerklinMfTrits, List.mem_append, not_or]
  refine ⟨⟨?_, by decide⟩, ?_⟩
  · rw [same]
    exact (functionAddress_addressTrits adr).2
  · intro mem
    obtain ⟨f, _, same⟩ := List.mem_map.mp mem
    split at same <;> cases same

theorem readPacket38k_maerklinMf (memory : Nat → BitVec 8) {address f1 f2 f3 f4 : Int}
    (accepted : maerklinMfAccepts address f1 f2 f3 f4) :
    readPacket38k (packet38k memory (maerklinMfTrits address f1 f2 f3 f4)) =
      some (.functions address.toNat (f1 ≠ 0) (f2 ≠ 0) (f3 ≠ 0) (f4 ≠ 0)) := by
  have none := not_mem_maerklinMfTrits accepted
  simp only [maerklinMfAccepts, Bool.not_eq_true', Bool.or_eq_false_iff,
    decide_eq_false_iff_not] at accepted
  obtain ⟨adr, same⟩ : ∃ adr : Fin 81, address = (adr : Nat) :=
    ⟨⟨address.toNat, by omega⟩, by simp; omega⟩
  subst same
  have read := (functionAddress_addressTrits adr).1
  simp only [maerklinMfTrits, List.append_assoc] at none ⊢
  rw [readPacket38k_packet38k memory rfl none]
  have tail :=
    readTail38k_functions (addressTrits (adr : Nat)) (f1 ≠ 0) (f2 ≠ 0) (f3 ≠ 0) (f4 ≠ 0)
  simp only [List.map_cons, List.map_nil, decide_eq_true_eq] at tail
  rw [List.map_cons, List.map_cons, List.map_cons, List.map_cons, List.map_nil, tail, read]
  rfl

/-! ## Calls of both composers -/

/-- The calls of the two composers for this frequency. -/
inductive Call38k
  | solenoid (address port action : Int)
  | functions (address f1 f2 f3 f4 : Int)
  deriving DecidableEq, Repr

/-- The tests of the composer that is called. -/
def Call38k.accepted : Call38k → Bool
  | .solenoid address port action => maerklinMsAccepts address port action
  | .functions address f1 f2 f3 f4 => maerklinMfAccepts address f1 f2 f3 f4

/-- The trits that the composer sends. -/
def Call38k.trits : Call38k → List Trit
  | .solenoid address port action => maerklinMsTrits address port action
  | .functions address f1 f2 f3 f4 => maerklinMfTrits address f1 f2 f3 f4

/-- The number of the accessory or of the decoder. -/
def Call38k.address : Call38k → Int
  | .solenoid address _ _ => address
  | .functions address _ _ _ _ => address

/-- The type of packet that the composer queues. -/
def Call38k.packetType : Call38k → PacketType
  | .solenoid _ _ _ => .m1SolePkt
  | .functions _ _ _ _ _ => .m1FuncPkt

/-- What the caller wants the decoders to be told. -/
def Call38k.message : Call38k → Message38k
  | .solenoid address port action => .solenoid address.toNat port.toNat (action ≠ 0)
  | .functions address f1 f2 f3 f4 =>
      .functions address.toNat (f1 ≠ 0) (f2 ≠ 0) (f3 ≠ 0) (f4 ≠ 0)

/-- A call of one of the two composers. -/
def comp38k (memory : Nat → BitVec 8) (ddl : DdlData) : Call38k → Nat × DdlData
  | .solenoid address port action => compMaerklinMs memory ddl address port action
  | .functions address f1 f2 f3 f4 => compMaerklinMf memory ddl address f1 f2 f3 f4

theorem Call38k.length_trits (call : Call38k) : call.trits.length = 9 := by
  cases call with
  | solenoid address port action =>
      simp only [trits, maerklinMsTrits, List.length_append, List.length_map, length_lowDigits,
        List.length_singleton]
  | functions address f1 f2 f3 f4 => rfl

theorem Call38k.not_mem_trits {call : Call38k} (accepted : call.accepted) :
    .u ∉ call.trits := by
  cases call with
  | solenoid address port action => exact not_mem_maerklinMsTrits address port action
  | functions address f1 f2 f3 f4 => exact not_mem_maerklinMfTrits accepted

theorem readPacket38k_trits (memory : Nat → BitVec 8) {call : Call38k}
    (accepted : call.accepted) :
    readPacket38k (packet38k memory call.trits) = some call.message := by
  cases call with
  | solenoid address port action => exact readPacket38k_maerklinMs memory accepted
  | functions address f1 f2 f3 f4 => exact readPacket38k_maerklinMf memory accepted

/-- The packet of a call in the queue. -/
def Call38k.data (memory : Nat → BitVec 8) (call : Call38k) : QData :=
  .of call.address (packet38k memory call.trits) call.packetType 9

theorem comp38k_eq (memory : Nat → BitVec 8) (ddl : DdlData) (call : Call38k) :
    comp38k memory ddl call =
      if call.accepted then (0, { ddl with queue := ddl.queue.put qsize (call.data memory) })
      else (1, ddl) := by
  by_cases accepted : call.accepted = true
  · rw [if_pos accepted]
    cases call with
    | solenoid address port action =>
        rw [Call38k.accepted] at accepted
        rw [comp38k, compMaerklinMs, if_neg (by rw [accepted]; decide)]
        rfl
    | functions address f1 f2 f3 f4 =>
        rw [Call38k.accepted] at accepted
        rw [comp38k, compMaerklinMf, if_neg (by rw [accepted]; decide)]
        rfl
  · rw [if_neg accepted]
    rw [Bool.not_eq_true] at accepted
    cases call with
    | solenoid address port action =>
        rw [Call38k.accepted] at accepted
        rw [comp38k, compMaerklinMs, if_pos (by rw [accepted]; rfl)]
    | functions address f1 f2 f3 f4 =>
        rw [Call38k.accepted] at accepted
        rw [comp38k, compMaerklinMf, if_pos (by rw [accepted]; rfl)]

/-- What is in the queue for a call, as its fields and what a decoder reads. -/
def QData.told (data : QData) : Int × PacketType × Nat × Option Message38k :=
  (data.addr, data.packetType, data.packetSize,
    readPacket38k (data.packet.val.take data.packetSize))

theorem Call38k.readPacket38k_data (memory : Nat → BitVec 8) {call : Call38k}
    (accepted : call.accepted) :
    readPacket38k ((call.data memory).packet.val.take 9) = some call.message := by
  have nine : (packet38k memory call.trits).length = 9 := by
    rw [length_packet38k, call.length_trits]
  obtain ⟨_, _, _, bytes⟩ := QData.of_content call.address call.packetType
    (nine.ge : 9 ≤ (packet38k memory call.trits).length) (by decide : 9 ≤ pktsize)
  rw [List.take_of_length_le nine.le] at bytes
  rw [← readPacket38k_trits memory accepted, ← bytes]
  rfl

theorem Call38k.told_data (memory : Nat → BitVec 8) {call : Call38k} (accepted : call.accepted) :
    (call.data memory).told = (call.address, call.packetType, 9, some call.message) := by
  rw [← call.readPacket38k_data memory accepted]
  rfl

/-- For every sequence of calls: the accepted ones, and only these, add one packet each,
and decoders read the packets as what the calls wanted to tell. -/
theorem comp38k_tells (calls : List ((Nat → BitVec 8) × Call38k)) (ddl : DdlData) :
    ∃ sent : List QData,
      calls.foldl (fun ddl call => (comp38k call.1 ddl call.2).2) ddl =
        { ddl with queue := sent.foldl (Log.put qsize) ddl.queue } ∧
      sent.map QData.told = (calls.filter fun call => call.2.accepted).map fun call =>
        (call.2.address, call.2.packetType, 9, some call.2.message) := by
  induction calls generalizing ddl with
  | nil => exact ⟨[], rfl, rfl⟩
  | cons call calls ih =>
      rw [List.foldl_cons, comp38k_eq]
      by_cases accepted : call.2.accepted = true
      · rw [if_pos accepted]
        obtain ⟨sent, after, told⟩ :=
          ih { ddl with queue := ddl.queue.put qsize (call.2.data call.1) }
        refine ⟨call.2.data call.1 :: sent, after, ?_⟩
        rw [List.map_cons, told, Call38k.told_data call.1 accepted, List.filter_cons,
          if_pos accepted, List.map_cons]
      · rw [if_neg accepted]
        obtain ⟨sent, after, told⟩ := ih ddl
        refine ⟨sent, after, ?_⟩
        rw [told, List.filter_cons, if_neg accepted]

theorem Call38k.eq_of_message {call other : Call38k} (accepted : call.accepted)
    (accepted' : other.accepted) (same : call.message = other.message) : call = other := by
  have bit {first second : Int} (lower : 0 ≤ first) (upper : first ≤ 1) (lower' : 0 ≤ second)
      (upper' : second ≤ 1) (same : (first ≠ 0) = (second ≠ 0)) : first = second := by
    have both := Iff.of_eq same
    omega
  cases call with
  | solenoid address port action =>
      cases other with
      | solenoid address' port' action' =>
          simp only [Call38k.accepted, maerklinMsAccepts, Bool.not_eq_true', Bool.or_eq_false_iff,
            decide_eq_false_iff_not] at accepted accepted'
          simp only [Call38k.message, Message38k.solenoid.injEq, decide_eq_decide] at same
          obtain ⟨address, port, action⟩ := same
          congr 1
          · omega
          · omega
          · exact bit (by omega) (by omega) (by omega) (by omega) (propext action)
      | functions => cases same
  | functions address f1 f2 f3 f4 =>
      cases other with
      | solenoid => cases same
      | functions address' f1' f2' f3' f4' =>
          simp only [Call38k.accepted, maerklinMfAccepts, Bool.not_eq_true', Bool.or_eq_false_iff,
            decide_eq_false_iff_not] at accepted accepted'
          simp only [Call38k.message, Message38k.functions.injEq, decide_eq_decide] at same
          obtain ⟨address, f1, f2, f3, f4⟩ := same
          congr 1
          · omega
          · exact bit (by omega) (by omega) (by omega) (by omega) (propext f1)
          · exact bit (by omega) (by omega) (by omega) (by omega) (propext f2)
          · exact bit (by omega) (by omega) (by omega) (by omega) (propext f3)
          · exact bit (by omega) (by omega) (by omega) (by omega) (propext f4)

/-- Two accepted calls of the two composers have the same bytes in the queue exactly when
they are the same call, whatever the memory contained. -/
theorem comp38k_bytes_eq_iff {call other : Call38k} (memory memory' : Nat → BitVec 8)
    (accepted : call.accepted) (accepted' : other.accepted) :
    (call.data memory).packet.val.take 9 = (other.data memory').packet.val.take 9 ↔
      call = other := by
  constructor
  · intro same
    have read : some call.message = some other.message := by
      rw [← call.readPacket38k_data memory accepted, same,
        other.readPacket38k_data memory' accepted']
    exact Call38k.eq_of_message accepted accepted' (Option.some.inj read)
  · rintro rfl
    rw [Call38k.data, Call38k.data, packet38k_congr memory memory' (call.not_mem_trits accepted)]

/-- Port 1 of accessory 324 and the functions of decoder 0. -/
theorem comp38k_bytes_eq_iff_last :
    ((Call38k.solenoid 324 1 1).data fun _ => 0).packet.val.take 9 =
        ((Call38k.functions 0 1 1 1 1).data fun _ => 255).packet.val.take 9 ↔
      Call38k.solenoid 324 1 1 = Call38k.functions 0 1 1 1 1 :=
  comp38k_bytes_eq_iff _ _ (by decide) (by decide)

end Srcpd.Ddl
