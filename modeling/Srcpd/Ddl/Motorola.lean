import Mathlib.Data.List.GetD
import Srcpd.Ddl.Maerklin
import Srcpd.Ddl.PacketQueue
import Srcpd.Motorola.Packet

/-!
# What a decoder reads from the Maerklin packets

The bytes of a packet are halves of trits.  Every packet of the composers for
protocol type 2 is read with the address, F0, the speed and the direction or the
function it was composed for; and no two addresses have the same code.
-/

namespace Srcpd.Ddl

open Srcpd.Motorola

/-! ## Halves -/

/-- The half of a trit that a byte is. -/
def readHalf (byte : BitVec 8) : Option Bool :=
  if byte = hi then some true else if byte = lo then some false else none

/-- The trits of a packet as pairs of halves. -/
def readPairs : Packetstream → Option (List (Bool × Bool))
  | [] => some []
  | [_] => none
  | first :: second :: rest =>
      (readHalf first).bind fun half => (readHalf second).bind fun half' =>
        (readPairs rest).map ((half, half') :: ·)

/-- The two halves of a trit. -/
def Trit.halves : Trit → Bool × Bool
  | .l => (false, false)
  | .h => (true, true)
  | .o => (true, false)
  | .u => (false, true)

theorem readPairs_bytes_append (trit : Trit) (rest : Packetstream) :
    readPairs (trit.bytes ++ rest) = (readPairs rest).map (trit.halves :: ·) := by
  cases trit <;> rfl

theorem readPairs_tritPacket_append (trits : List Trit) (rest : Packetstream) :
    readPairs (tritPacket trits ++ rest) =
      (readPairs rest).map (trits.map Trit.halves ++ ·) := by
  induction trits with
  | nil => exact Option.map_id'.symm
  | cons trit trits ih =>
      rw [tritPacket, List.flatMap_cons, List.append_assoc, readPairs_bytes_append]
      rw [tritPacket] at ih
      rw [ih, Option.map_map]
      rfl

/-- What a decoder makes of a packet. -/
def readPacket (packet : Packetstream) : Option Message :=
  (readPairs packet).bind readMessage

/-! ## Addresses -/

/-- The pairs a decoder with this address waits for. -/
def addressCode (address : Int) : List (Bool × Bool) :=
  (addressTrits address).map Trit.halves

theorem addressCode_length (address : Int) : (addressCode address).length = 4 :=
  rfl

/-- A code as a number, to compare the codes of the table. -/
def codeNumber (code : List (Bool × Bool)) : Nat :=
  speedOf (code.flatMap fun pair => [pair.1, pair.2])

/-- Whether no number comes twice; the bits of `seen` are the numbers so far. -/
def allFresh (seen : Nat) : List Nat → Bool
  | [] => true
  | number :: numbers => !seen.testBit number && allFresh (seen ||| 1 <<< number) numbers

theorem nodup_of_allFresh {seen : Nat} {numbers : List Nat} (fresh : allFresh seen numbers) :
    numbers.Nodup ∧ ∀ number ∈ numbers, seen.testBit number = false := by
  induction numbers generalizing seen with
  | nil => simp
  | cons number numbers ih =>
      rw [allFresh, Bool.and_eq_true, Bool.not_eq_true'] at fresh
      obtain ⟨nodup, unseen⟩ := ih fresh.2
      simp only [Nat.testBit_or, Bool.or_eq_false_iff] at unseen
      constructor
      · rw [List.nodup_cons]
        constructor
        · intro again
          have bit := (unseen number again).2
          simp at bit
        · exact nodup
      · intro other mem
        rcases List.mem_cons.mp mem with rfl | later
        · exact fresh.1
        · exact (unseen other later).1

theorem codeNumbers_nodup : (motorolaCodes.map fun code =>
    codeNumber (code.trits.map Trit.halves)).Nodup :=
  (nodup_of_allFresh (show allFresh 0 _ = true by decide +kernel)).1

theorem motorolaCodes_length : motorolaCodes.length = maxMarklinAddress := by
  decide +kernel

/-- Different addresses have different codes. -/
theorem addressCode_injective {address other : Int} (range : 0 ≤ address ∧ address ≤ 255)
    (range' : 0 ≤ other ∧ other ≤ 255) (same : addressCode address = addressCode other) :
    address = other := by
  have inTable : address.toNat < motorolaCodes.length := by
    rw [motorolaCodes_length, maxMarklinAddress]
    omega
  have inTable' : other.toNat < motorolaCodes.length := by
    rw [motorolaCodes_length, maxMarklinAddress]
    omega
  have numbers := congrArg codeNumber same
  rw [addressCode, addressCode, addressTrits, addressTrits, List.getD_eq_getElem _ _ inTable,
    List.getD_eq_getElem _ _ inTable'] at numbers
  have listed : address.toNat < (motorolaCodes.map fun code =>
      codeNumber (code.trits.map Trit.halves)).length := by
    rw [List.length_map]
    exact inTable
  have listed' : other.toNat < (motorolaCodes.map fun code =>
      codeNumber (code.trits.map Trit.halves)).length := by
    rw [List.length_map]
    exact inTable'
  have equal : address.toNat = other.toNat := by
    rw [← codeNumbers_nodup.getElem_inj_iff, List.getElem_map, List.getElem_map]
    · exact numbers
    · exact listed
    · exact listed'
  omega

/-- A message is for the decoder with this address and for no other one. -/
def IsFor (message : Message) (address : Int) : Prop :=
  ∀ other : Int, 0 ≤ other → other ≤ 255 → (message.code = addressCode other ↔ other = address)

theorem isFor_of_code {message : Message} {address : Int} (range : 0 ≤ address ∧ address ≤ 255)
    (code : message.code = addressCode address) : IsFor message address := by
  intro other lower upper
  rw [code]
  constructor
  · intro same
    exact addressCode_injective ⟨lower, upper⟩ range same.symm
  · rintro rfl
    rfl

/-! ## Packets -/

/-- The bytes behind the address. -/
def packetTail (direction speed : Int) (func : Bool) (sent : Nat) : Packetstream :=
  tritPacket
    ([funcTrit func] ++ List.zipWith maskTrit (speedTrits sent) (speedMask direction speed))

theorem readPacket_append (address : Int) (tail : Packetstream) :
    readPacket (tritPacket (addressTrits address) ++ tail) =
      ((readPairs tail).bind readTail).map fun tail =>
        ⟨addressCode address, tail.1, tail.2.1, tail.2.2⟩ := by
  rw [readPacket, readPairs_tritPacket_append]
  cases readPairs tail with
  | none => rfl
  | some pairs => exact readMessage_append (addressCode_length address) pairs

theorem tritPacket_append (trits more : List Trit) :
    tritPacket (trits ++ more) = tritPacket trits ++ tritPacket more :=
  List.flatMap_append

theorem length_tritPacket (trits : List Trit) :
    (tritPacket trits).length = 2 * trits.length := by
  induction trits with
  | nil => rfl
  | cons trit trits ih =>
      have two : trit.bytes.length = 2 := by cases trit <;> rfl
      rw [tritPacket, List.flatMap_cons, List.length_append, two]
      rw [tritPacket] at ih
      rw [ih, List.length_cons]
      ring

/-- The function code is behind the address. -/
theorem functionPacket_append (address : Int) (tail : Packetstream) (mspeed : Nat) (j : Fin 4)
    (f : Bool) :
    functionPacket (tritPacket (addressTrits address) ++ tail) mspeed j f =
      tritPacket (addressTrits address) ++
        (functionPacket (List.replicate 8 0 ++ tail) mspeed j f).drop 8 := by
  have eight : (tritPacket (addressTrits address)).length = 8 := length_tritPacket _
  have eight' : (List.replicate 8 (0 : BitVec 8)).length = 8 := List.length_replicate
  simp only [functionPacket, List.set_append_right, eight, eight', Nat.reduceLeDiff,
    Nat.reduceSub]
  rw [List.drop_left' eight']

theorem readTail_direction : ∀ (func forward speed1Obsolete : Bool) (mspeed : Fin 16),
    let direction : Int := if forward then 1 else -1
    let sent : Nat := if speed1Obsolete ∧ (mspeed : Nat) = 1 then 0 else mspeed
    let tail := packetTail direction (direction * (mspeed : Nat)) func sent
    (readPairs tail).bind readTail = some (func, sent, some (.direction forward)) := by
  decide

theorem readTail_function : ∀ (func forward f : Bool) (mspeed : Fin 16) (j : Fin 4),
    let direction : Int := if forward then 1 else -1
    let tail := packetTail direction (direction * (mspeed : Nat)) func mspeed
    (readPairs ((functionPacket (List.replicate 8 0 ++ tail) mspeed j f).drop 8)).bind readTail =
      some (func, (mspeed : Nat), some (.function (j + 1) f)) := by
  decide

/-- Speed 1 that is sent as 0. -/
theorem readTail_function_obsolete : ∀ (func forward f : Bool) (j : Fin 4),
    let direction : Int := if forward then 1 else -1
    let tail := packetTail direction (direction * (1 : Nat)) func 0
    (readPairs ((functionPacket (List.replicate 8 0 ++ tail) 1 j f).drop 8)).bind readTail =
      some (func, 0, some (.function (j + 1) f)) := by
  decide

/-- What the second halves of the speed trits say, for each speed, direction and
function. -/
theorem readTail_table (func forward f speed1Obsolete : Bool) (mspeed : Fin 16) (j : Fin 4) :
    let direction : Int := if forward then 1 else -1
    let sent : Nat := if speed1Obsolete ∧ (mspeed : Nat) = 1 then 0 else mspeed
    let tail := packetTail direction (direction * (mspeed : Nat)) func sent
    (readPairs tail).bind readTail = some (func, sent, some (.direction forward)) ∧
      (readPairs ((functionPacket (List.replicate 8 0 ++ tail) mspeed j f).drop 8)).bind readTail =
        some (func, sent, some (.function (j + 1) f)) := by
  intro direction sent tail
  constructor
  · exact readTail_direction func forward speed1Obsolete mspeed
  · by_cases obsolete : speed1Obsolete ∧ (mspeed : Nat) = 1
    · have zero : sent = 0 := if_pos obsolete
      simp only [tail, zero]
      rw [obsolete.2]
      exact readTail_function_obsolete func forward f j
    · have same : sent = mspeed := if_neg obsolete
      simp only [tail, same]
      exact readTail_function func forward f mspeed j

/-- The speed that is sent; speed 1 is obsolete. -/
def sentSpeed (speed1Obsolete : Bool) (speed : Int) : Nat :=
  if speed1Obsolete ∧ speed.natAbs = 1 then 0 else speed.natAbs

/-- What the packet of a locomotive that tells this part is read as. -/
def messageOf (address : Int) (func : Bool) (speed : Nat) (part : Part) : Message :=
  { code := addressCode address, f0 := func, speed := speed, part := some part }

theorem maerklin2Packet_append (address direction speed : Int) (func speed1Obsolete : Bool) :
    maerklin2Packet address direction speed func speed1Obsolete =
      tritPacket (addressTrits address) ++
        packetTail (if direction = 0 then -1 else 1)
          ((if direction = 0 then -1 else 1) * speed) func
          (sentSpeed speed1Obsolete ((if direction = 0 then -1 else 1) * speed)) := by
  simp only [maerklin2Packet, packetTail, sentSpeed]
  rw [← tritPacket_append, List.append_assoc]

/-- The five packets of a locomotive are read as its direction and its functions. -/
theorem readPacket_maerklin2Packet (address direction : Int) {speed : Int}
    (func speed1Obsolete : Bool)
    (range : 0 ≤ speed ∧ speed ≤ 15) :
    let packet := maerklin2Packet address direction speed func speed1Obsolete
    readPacket packet = some (messageOf address func (sentSpeed speed1Obsolete speed)
        (.direction (direction ≠ 0))) ∧
      ∀ (j : Fin 4) (f : Bool), readPacket (functionPacket packet speed.natAbs j f) =
        some (messageOf address func (sentSpeed speed1Obsolete speed) (.function (j + 1) f)) := by
  obtain ⟨mspeed, rfl⟩ : ∃ mspeed : Fin 16, speed = (mspeed : Nat) :=
    ⟨⟨speed.toNat, by omega⟩, by simp [range.1]⟩
  have way : (if direction = 0 then -1 else 1 : Int) =
      if decide (direction ≠ 0) = true then 1 else -1 := by
    by_cases back : direction = 0 <;> simp [back]
  have sign : (((if direction = 0 then -1 else 1) * ((mspeed : Nat) : Int)) : Int).natAbs =
      (mspeed : Nat) := by
    split <;> simp
  have table := readTail_table func (direction ≠ 0)
  rw [maerklin2Packet_append]
  simp only [sentSpeed, sign, Int.natAbs_natCast]
  rw [way]
  constructor
  · rw [readPacket_append, (table true speed1Obsolete mspeed 0).1]
    rfl
  · intro j f
    rw [functionPacket_append, readPacket_append, (table f speed1Obsolete mspeed j).2]
    rfl

theorem readTail_plain : ∀ (func : Bool) (speed : Fin 16),
    (readPairs (tritPacket ([funcTrit func] ++ speedTrits speed))).bind readTail =
      some (func, (speed : Nat), none) := by
  decide

/-- A packet of protocol type 1 is read in the old format. -/
theorem readPacket_maerklin1Packet (address direction : Int) {speed : Int} (func : Bool)
    (locoDirection : Int) (range : 0 ≤ speed ∧ speed ≤ 15) :
    readPacket (maerklin1Packet address direction speed func locoDirection) =
      some ⟨addressCode address, func, if direction ≠ locoDirection then 1 else speed.toNat,
        none⟩ := by
  obtain ⟨sent, sentEq⟩ : ∃ sent : Fin 16,
      (if direction ≠ locoDirection then 1 else speed).toNat = (sent : Nat) := by
    refine ⟨⟨(if direction ≠ locoDirection then 1 else speed).toNat, ?_⟩, rfl⟩
    split <;> omega
  have number : (if direction ≠ locoDirection then 1 else speed.toNat) = (sent : Nat) := by
    rw [← sentEq]
    split <;> rfl
  rw [number, maerklin1Packet, sentEq, List.append_assoc, tritPacket_append, readPacket_append,
    readTail_plain]
  rfl

/-! ## What the composers send -/

/-- What a decoder reads in a packet of the queue. -/
def QData.message (data : QData) : Option Message :=
  readPacket (data.packet.val.take data.packetSize)

theorem QData.message_of (addr : Int) {packet : Packetstream} (packetType : PacketType)
    (whole : packet.length = 18) :
    (QData.of addr packet packetType 18).message = readPacket packet := by
  have inPacket : 18 ≤ packet.length := Nat.le_of_eq whole.symm
  have inBuffer : 18 ≤ pktsize := by decide
  have content := (QData.of_content addr packetType inPacket inBuffer).2.2.2
  rw [QData.message, content, List.take_of_length_le (Nat.le_of_eq whole)]

theorem length_maerklin1Packet (address direction speed : Int) (func : Bool)
    (locoDirection : Int) :
    (maerklin1Packet address direction speed func locoDirection).length = 18 := by
  rw [maerklin1Packet, length_tritPacket]
  rfl

theorem length_maerklin2Packet (address direction speed : Int) (func speed1Obsolete : Bool) :
    (maerklin2Packet address direction speed func speed1Obsolete).length = 18 := by
  rw [maerklin2Packet, length_tritPacket]
  simp only [List.length_append, List.length_zipWith, speedTrits, List.length_map,
    List.length_range]
  have four : (speedMask (if direction = 0 then -1 else 1)
      ((if direction = 0 then -1 else 1) * speed)).length = 4 := by
    rw [speedMask]
    split_ifs <;> rfl
  rw [four]
  rfl

theorem length_functionPacket (packet : Packetstream) (mspeed : Nat) (j : Fin 4) (f : Bool) :
    (functionPacket packet mspeed j f).length = packet.length := by
  simp only [functionPacket, List.length_set]

/-- The composer for protocol type 1 adds one packet; for a direction other than
the cached one it is the reversal code. -/
theorem compMaerklin1_sends (ddl : DdlData) {address direction speed : Int} (func : Bool)
    (locoDirection : Int) (inRange : 0 ≤ address ∧ address ≤ 80)
    (way : 0 ≤ direction ∧ direction ≤ 1) (range : 0 ≤ speed ∧ speed ≤ 15) :
    ∃ data : QData,
      (compMaerklin1 ddl address direction speed func locoDirection).2.queue.added =
        ddl.queue.added ++ [data] ∧
      data.addr = address ∧
      data.message = some ⟨addressCode address, func,
        if direction ≠ locoDirection then 1 else speed.toNat, none⟩ := by
  have accepted : maerklin1Accepts address direction speed = true := by
    simp only [maerklin1Accepts, Bool.not_eq_true', Bool.or_eq_false_iff, decide_eq_false_iff_not]
    omega
  rw [compMaerklin1, if_neg (by rw [accepted]; decide)]
  refine ⟨_, rfl, rfl, ?_⟩
  rw [QData.message_of _ _ (length_maerklin1Packet _ _ _ _ _)]
  exact readPacket_maerklin1Packet address direction func locoDirection range

/-- What the packets of a locomotive have to tell. -/
def partsOf (direction : Int) (f : Fin 4 → Bool) : List Part :=
  .direction (direction ≠ 0) ::
    (List.finRange 4).map fun j : Fin 4 => .function (j + 1) (f j)

/-- The packets in the pool tell everything. -/
structure MaerklinPacket.Tells (entry : MaerklinPacket) (address direction : Int) (func : Bool)
    (f : Fin 4 → Bool) (speed : Nat) : Prop where
  direction : readPacket entry.packet =
    some (messageOf address func speed (.direction (direction ≠ 0)))
  function : ∀ j, readPacket (entry.fPackets j) =
    some (messageOf address func speed (.function (j + 1) (f j)))

/-- A packet for a locomotive that tells one thing about it, and the truth. -/
def QData.Tells (data : QData) (address direction : Int) (func : Bool) (f : Fin 4 → Bool)
    (speed : Nat) : Prop :=
  data.addr = address ∧
    ∃ part ∈ partsOf direction f, data.message = some (messageOf address func speed part)

/-- A composer for protocol type 2 adds packets with these speeds, one after the
other, and leaves everything the last one could have told in the pool. -/
structure Sends (before after : DdlData) (address direction : Int) (func : Bool)
    (f : Fin 4 → Bool) (speeds : List Nat) (queued : List QData) : Prop where
  added : after.queue.added = before.queue.added ++ queued
  packets : List.Forall₂ (fun data speed => data.Tells address direction func f speed) queued speeds
  pool : ∀ speed ∈ speeds.getLast?,
    (after.maerklinPacketPool.packets address.toNat).Tells address direction func f speed

theorem Sends.append {before middle after : DdlData} {address direction : Int} {func : Bool}
    {f : Fin 4 → Bool} {speeds : List Nat} {speed : Nat} {queued more : List QData}
    (first : Sends before middle address direction func f speeds queued)
    (second : Sends middle after address direction func f [speed] more) :
    Sends before after address direction func f (speeds ++ [speed]) (queued ++ more) where
  added := by rw [second.added, first.added, List.append_assoc]
  packets := List.rel_append first.packets second.packets
  pool := by
    rw [List.getLast?_append_cons]
    exact second.pool

theorem compMaerklinType2_sends {maxAddress : Int} (speed1Obsolete : Bool) (ddl : DdlData)
    {address : Int} (direction : Int) {speed : Int} (func : Bool) (f : Fin 4 → Bool)
    (inRange : 0 ≤ address ∧ address ≤ maxAddress) (range : 0 ≤ speed ∧ speed ≤ 15) :
    let result := compMaerklinType2 maxAddress speed1Obsolete ddl address direction speed func f
    result.1 = 0 ∧ ∃ queued,
      Sends ddl result.2 address direction func f [sentSpeed speed1Obsolete speed] queued := by
  have accepted : maerklin2Accepts maxAddress address direction speed = true := by
    simp only [maerklin2Accepts, Bool.not_eq_true', Bool.or_eq_false_iff, decide_eq_false_iff_not]
    split <;> omega
  have read := readPacket_maerklin2Packet address direction func speed1Obsolete range
  have length := length_maerklin2Packet address direction speed func speed1Obsolete
  dsimp only at read ⊢
  rw [compMaerklinType2, if_neg (by rw [accepted]; decide)]
  refine ⟨rfl, ?_⟩
  dsimp only
  have tells : MaerklinPacket.Tells ⟨maerklin2Packet address direction speed func speed1Obsolete,
      fun j => functionPacket (maerklin2Packet address direction speed func speed1Obsolete)
        speed.natAbs j (f j)⟩ address direction func f (sentSpeed speed1Obsolete speed) :=
    ⟨read.1, fun j => read.2 j (f j)⟩
  have stored (pool : MaerklinPacketPool) (entry : MaerklinPacket) :
      (updateMaerklinPacketPool pool ⟨address.toNat, entry⟩).packets address.toNat = entry :=
    Function.update_self _ _ _
  split
  · refine ⟨[_], rfl, ?_, ?_⟩
    · apply List.Forall₂.cons _ .nil
      refine ⟨rfl, _, List.mem_cons_self, ?_⟩
      rw [QData.message_of _ _ length]
      exact tells.direction
    · rintro _ ⟨⟩
      rw [stored]
      exact tells
  · rename_i fx _
    refine ⟨[_], rfl, ?_, ?_⟩
    · apply List.Forall₂.cons _ .nil
      refine ⟨rfl, _, List.mem_cons_of_mem _ (List.mem_map_of_mem (List.mem_finRange fx)), ?_⟩
      rw [QData.message_of _ _ ((length_functionPacket _ _ _ _).trans length)]
      exact tells.function fx
    · rintro _ ⟨⟩
      rw [stored]
      exact tells

/-! ## Half steps -/

/-- Twice the real step of the table at the head of the composer for 28 speeds;
speed 1 is never sent, but speed 2 instead. -/
def doubleStep (speed : Int) : Nat :=
  if speed ≤ 0 then 0 else if speed = 1 then 4 else (speed + 2).toNat

/-- The speeds of one command for 28 speeds. -/
def stepSpeeds (speed locoSpeed : Int) : List Nat :=
  let steps := halfSteps speed locoSpeed
  if 0 < steps.2 then [steps.1.toNat, steps.2.toNat] else [steps.1.toNat]

theorem halfSteps_range {speed : Int} (locoSpeed : Int) (range : 0 ≤ speed ∧ speed ≤ 28)
    (notOne : speed ≠ 1) :
    let steps := halfSteps speed locoSpeed
    (0 ≤ steps.1 ∧ steps.1 ≤ 15 ∧ steps.1 ≠ 1) ∧ 0 ≤ steps.2 ∧ steps.2 ≤ 15 ∧ steps.2 ≠ 1 := by
  simp only [halfSteps]
  split_ifs <;> constructor <;> dsimp only <;> omega

theorem doubleStep_of_two_le {speed : Int} (positive : 2 ≤ speed) :
    doubleStep speed = (speed + 2).toNat := by
  rw [doubleStep, if_neg (by omega), if_neg (by omega)]

theorem doubleStep_le {speed locoSpeed : Int} (positive : 2 ≤ speed) (below : locoSpeed < speed) :
    doubleStep locoSpeed ≤ (speed + 2).toNat := by
  rw [doubleStep]
  split_ifs <;> omega

/-- A decoder that ran at the old speed runs at the new one. -/
theorem foldl_receive_stepSpeeds {speed : Int} (locoSpeed : Int)
    (range : 0 ≤ speed ∧ speed ≤ 28) (notOne : speed ≠ 1) :
    (stepSpeeds speed locoSpeed).foldl receive (doubleStep locoSpeed) = doubleStep speed := by
  by_cases stop : speed = 0
  · rw [stop]
    rfl
  have positive : 2 ≤ speed := by omega
  rw [doubleStep_of_two_le positive]
  by_cases acceleration : locoSpeed < speed
  · have below := doubleStep_le positive acceleration
    by_cases odd : speed % 2 = 1
    · have steps : stepSpeeds speed locoSpeed = [(speed / 2 + 2).toNat, (speed / 2 + 1).toNat] := by
        simp [stepSpeeds, halfSteps, acceleration, odd, show 0 < speed by omega,
          show 0 < speed / 2 + 1 by omega]
      have overshoot : receive (doubleStep locoSpeed) (speed / 2 + 2).toNat =
          2 * (speed / 2 + 2).toNat := receive_of_le (by omega) (by omega)
      rw [steps, List.foldl_cons, List.foldl_cons, List.foldl_nil, overshoot,
        receive_of_lt (by omega) (by omega)]
      omega
    · have steps : stepSpeeds speed locoSpeed = [(speed / 2 + 1).toNat] := by
        simp [stepSpeeds, halfSteps, acceleration, odd, show 0 < speed by omega]
      rw [steps, List.foldl_cons, List.foldl_nil, receive_of_le (by omega) (by omega)]
      omega
  · have above : doubleStep locoSpeed = (locoSpeed + 2).toNat :=
      doubleStep_of_two_le (by omega)
    by_cases odd : speed % 2 = 1
    · have steps : stepSpeeds speed locoSpeed = [(speed / 2 + 1).toNat] := by
        simp [stepSpeeds, halfSteps, acceleration, odd, show 0 < speed by omega]
      rw [steps, List.foldl_cons, List.foldl_nil, receive_of_lt (by omega) (by omega)]
      omega
    · have even : speed % 2 = 0 := by omega
      have steps : stepSpeeds speed locoSpeed =
          [(if speed / 2 = 1 then 0 else speed / 2).toNat, (speed / 2 + 1).toNat] := by
        simp [stepSpeeds, halfSteps, acceleration, even, show 0 < speed by omega,
          show 0 < speed / 2 + 1 by omega]
      have approached := receive_le (doubleStep locoSpeed)
        (if speed / 2 = 1 then 0 else speed / 2).toNat
      have first : (if speed / 2 = 1 then 0 else speed / 2).toNat ≤ (speed / 2).toNat := by
        split <;> omega
      rw [steps, List.foldl_cons, List.foldl_cons, List.foldl_nil,
        receive_of_le (by omega) (by omega)]
      omega

theorem sentSpeed_of_ne_one {speed : Int} (speed1Obsolete : Bool) (positive : 0 ≤ speed)
    (notOne : speed ≠ 1) : sentSpeed speed1Obsolete speed = speed.toNat := by
  rw [sentSpeed, if_neg (by omega)]
  omega

theorem compMaerklin5_sends (ddl : DdlData) {address : Int} (direction : Int) {speed : Int}
    (func : Bool) (f : Fin 4 → Bool) (locoSpeed : Int) (inRange : 0 ≤ address ∧ address ≤ 80)
    (range : 0 ≤ speed ∧ speed ≤ 28) (notOne : speed ≠ 1) :
    let result := compMaerklin5 ddl address direction speed func f locoSpeed
    ∃ queued, Sends ddl result.2 address direction func f (stepSpeeds speed locoSpeed) queued := by
  rcases halfSteps_range locoSpeed range notOne with
    ⟨⟨first_nonneg, first_le, first_ne⟩, second_nonneg, second_le, second_ne⟩
  have first := compMaerklinType2_sends true ddl direction func f inRange ⟨first_nonneg, first_le⟩
  rw [sentSpeed_of_ne_one true first_nonneg first_ne] at first
  rcases first with ⟨done, queued, sent⟩
  have inside : ¬ (speed < 0 ∨ 28 < speed) := by omega
  dsimp only
  rw [compMaerklin5, if_neg inside, stepSpeeds,
    show compMaerklin2 = compMaerklinType2 80 true from rfl]
  dsimp only
  by_cases two : 0 < (halfSteps speed locoSpeed).2
  · rw [if_pos ⟨two, done⟩, if_pos two]
    have second := compMaerklinType2_sends true (compMaerklinType2 80 true ddl address direction
      (halfSteps speed locoSpeed).1 func f).2 direction func f inRange ⟨second_nonneg, second_le⟩
    rw [sentSpeed_of_ne_one true second_nonneg second_ne] at second
    rcases second with ⟨_, queued', sent'⟩
    exact ⟨queued ++ queued', sent.append sent'⟩
  · rw [if_neg fun both => two both.1, if_neg two]
    exact ⟨queued, sent⟩

end Srcpd.Ddl
