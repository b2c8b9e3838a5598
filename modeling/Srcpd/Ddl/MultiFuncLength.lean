import Srcpd.Ddl.MultiFuncSends
import Srcpd.Ddl.V3Length

/-!
# No stream of `comp_nmra_multi_func` fills the packet

The longest streams have three packets with a long address.  Their first packets
take at most 29 and 27 bytes, the middle ones 26 and 27, the last one 21, and
the leading ones three, so the 80 bytes of a packet stream are never used up.
-/

namespace Srcpd.Ddl

open Srcpd.Dcc Srcpd.Transition

/-! ## Bytes of locomotive packets -/

theorem byteBits_long : ∀ byte : Byte, byte &&& 0xc0 = 0xc0 →
    byteBits byte = true :: true :: (byteBits byte).drop 2 := by
  decide

theorem byteBits_lowerGroup : ∀ byte : Byte, byte &&& 0xf0 = 0xb0 →
    byteBits byte = true :: false :: true :: true :: (byteBits byte).drop 4 := by
  decide

theorem byteBits_groupOne : ∀ byte : Byte, byte &&& 0xe0 = 0x80 →
    byteBits byte = true :: false :: false :: (byteBits byte).drop 3 := by
  decide

theorem byteBits_upperGroup : ∀ byte : Byte, byte &&& 0xf0 = 0xa0 →
    byteBits byte = true :: false :: true :: false :: (byteBits byte).drop 4 := by
  decide

theorem affords_any (byte : Byte) : ∀ pending ∈ boundaries, noOnes.Affords byte 11 pending := by
  have known : ∀ pending ∈ boundaries, pending ∈ pendings ∧ worth true pending ≤ 2 := by decide
  intro pending mem
  rcases known pending mem with ⟨mem, cheap⟩
  rcases noOnes_lawful.takes byte pending mem with ⟨n, left, leftMem, passes, paid⟩
  exact ⟨n, left, leftMem, passes, by omega⟩

/-- The first byte of a long address. -/
theorem affords_long {byte : Byte} (long : byte &&& 0xc0 = 0xc0) :
    thirdBits.Affords byte 10 [true, true, false] ∧
      ∀ pending ∈ boundaries,
        noOnes.Affords byte 9 pending ∧ secondBit.Affords byte 10 pending := by
  rcases exists_leading_ones ((byteBits byte).drop 2) with ⟨ones, tail, leading, short, closed⟩
  have split : byteBits byte ++ [false] =
      List.replicate (ones + 2) true ++ [false] ++ tail := by
    rw [byteBits_long byte long, List.cons_append, List.cons_append, leading]
    simp [List.replicate_succ]
  have six : ((byteBits byte).drop 2).length = 6 := rfl
  rcases longAddress_table ones (by omega) with ⟨third, others⟩
  constructor
  · exact thirdBits_lawful.affords split closed third
  · intro pending mem
    constructor
    · exact noOnes_lawful.affords split closed (others pending mem).1
    · exact secondBit_lawful.affords split closed (others pending mem).2

theorem takes_speedCommand : thirdBits.Takes 0x3f 8 :=
  fun pending mem => thirdBits_lawful.affords (List.append_nil _).symm (.inl rfl)
    (speedCommand_table pending mem)

theorem takes_lowerGroup {byte : Byte} (lower : byte &&& 0xf0 = 0xb0) : secondBit.Takes byte 7 := by
  rcases exists_leading_ones ((byteBits byte).drop 4) with ⟨ones, tail, leading, short, closed⟩
  have split : byteBits byte ++ [false] =
      [true, false] ++ List.replicate (ones + 2) true ++ [false] ++ tail := by
    rw [byteBits_lowerGroup byte lower, List.cons_append, List.cons_append, List.cons_append,
      List.cons_append, leading]
    simp [List.replicate_succ]
  have four : ((byteBits byte).drop 4).length = 4 := rfl
  intro pending mem
  exact secondBit_lawful.affords split closed (lowerGroup_table ones (by omega) pending mem)

theorem takes_group {byte : Byte} (group : byte &&& 0xe0 = 0x80 ∨ byte &&& 0xf0 = 0xa0) :
    noOnes.Takes byte 8 := by
  intro pending mem
  rcases groups_table pending mem with ⟨one, upper⟩
  rcases group with class1 | class2
  · apply noOnes_lawful.affords _ (.inr ⟨(byteBits byte).drop 3, rfl⟩) one
    rw [byteBits_groupOne byte class1]
    rfl
  · apply noOnes_lawful.affords _ (.inr ⟨(byteBits byte).drop 4, rfl⟩) upper
    rw [byteBits_upperGroup byte class2]
    rfl

theorem takes_expansion {byte : Byte} (expansion : byte = 0xde ∨ byte = 0xdf) :
    noOnes.Takes byte 6 := by
  intro pending mem
  rcases expansion_table pending mem with ⟨lower, upper⟩
  rcases expansion with rfl | rfl
  · exact noOnes_lawful.affords (List.append_nil _).symm (.inl rfl) lower
  · exact noOnes_lawful.affords (List.append_nil _).symm (.inl rfl) upper

/-! ## Packets with an address -/

/-- Behind any of the starts, a packet and the gap behind it take at most `k`
bytes. -/
def PassesGap (starts : List Bitstream) (bytes : List Byte) (k : Nat) : Prop :=
  ∀ pending ∈ starts, ∃ n ≤ k, ∃ left ∈ boundaries,
    Passes (pending ++ (dataBits bytes ++ (List.replicate 50 true ++ [false]))) n left

/-- The bits behind the first preamble of packets with gaps between them. -/
def gapped : List (List Byte) → Bitstream
  | [] => []
  | [last] => dataBits last
  | packet :: rest => dataBits packet ++ (List.replicate 50 true ++ [false]) ++ gapped rest

theorem gapped_cons (packet : List Byte) {rest : List (List Byte)} (nonempty : rest ≠ []) :
    gapped (packet :: rest) =
      dataBits packet ++ (List.replicate 50 true ++ [false]) ++ gapped rest := by
  cases rest with
  | nil => contradiction
  | cons next rest => rfl

/-- Behind any of the starts, the packets take at most `k` bytes up to the trailing
bits. -/
def Finishes (starts : List Bitstream) (packets : List (List Byte)) (k : Nat) : Prop :=
  ∀ pending ∈ starts, ∃ n ≤ k,
    (advance^[n] (pending ++ (gapped packets ++ List.replicate 6 true))).length ≤ 6

theorem PassesGap.finishes {starts : List Bitstream} {packet next : List Byte}
    {rest : List (List Byte)} {k m : Nat} (first : PassesGap starts packet k)
    (later : Finishes boundaries (next :: rest) m) :
    Finishes starts (packet :: next :: rest) (m + k) := by
  intro pending mem
  rcases first pending mem with ⟨n, few, left, leftMem, passes⟩
  rcases later left leftMem with ⟨n', few', atEnd⟩
  refine ⟨n' + n, Nat.add_le_add few' few, ?_⟩
  rw [gapped_cons packet (List.cons_ne_nil _ _), List.append_assoc, ← List.append_assoc,
    Function.iterate_add_apply, passes]
  exact atEnd

/-- The address bytes of the composers. -/
def AddressFront (front : List Byte) : Prop :=
  (∃ first, front = [first]) ∨ ∃ first second, front = [first, second] ∧ first &&& 0xc0 = 0xc0

theorem addressFront_addressBytes (address mode : Int) :
    AddressFront (addressBytes address mode) := by
  rw [addressBytes]
  by_cases short : mode = 1
  · rw [if_pos short]
    exact .inl ⟨_, rfl⟩
  · rw [if_neg short]
    have long : ∀ byte : Byte, (0xc0 ||| byte) &&& 0xc0 = 0xc0 := by decide
    right
    refine ⟨_, _, rfl, ?_⟩
    rw [BitVec.setWidth_or]
    exact long _

theorem noOnes_gap : ∀ ones < 9, ∀ pending ∈ pendings, noOnes.PaysGap ones pending :=
  fun ones short pending mem => (paysGap_table ones short pending mem).1

theorem secondBit_gap : ∀ ones < 9, ∀ pending ∈ pendings, secondBit.PaysGap ones pending :=
  fun ones short pending mem => (paysGap_table ones short pending mem).2.1

theorem thirdBits_gap : ∀ ones < 9, ∀ pending ∈ pendings, thirdBits.PaysGap ones pending :=
  fun ones short pending mem => (paysGap_table ones short pending mem).2.2

section Costs

variable {starts : List Bitstream} {first : Byte} {bound k : Nat} {bytes : List (Byte × Nat)}

theorem passesGap_of_costs {w : Weighing} (lawful : w.Lawful)
    (gap : ∀ ones < 9, ∀ pending ∈ pendings, w.PaysGap ones pending)
    (affords : ∀ pending ∈ starts, w.Affords first bound pending)
    (takes : ∀ byte ∈ bytes, w.Takes byte.1 byte.2)
    (few : bound + (bytes.map Prod.snd).sum + 29 <
      2 * (k + 1) + totalWeight w.weights (completed (first :: bytes.map Prod.fst))) :
    PassesGap starts (completed (first :: bytes.map Prod.fst)) k := by
  intro pending mem
  rcases lawful.passes_packet gap (affords pending mem) takes with
    ⟨n, left, leftMem, passes, paid⟩
  exact ⟨n, by omega, left, leftMem, passes⟩

theorem finishes_of_costs (affords : ∀ pending ∈ starts, noOnes.Affords first bound pending)
    (takes : ∀ byte ∈ bytes, noOnes.Takes byte.1 byte.2)
    (few : bound + (bytes.map Prod.snd).sum + 10 < 2 * (k + 1)) :
    Finishes starts [completed (first :: bytes.map Prod.fst)] k := by
  intro pending mem
  rcases finish_packet (affords pending mem) takes with ⟨n, atEnd, paid⟩
  exact ⟨n, by omega, atEnd⟩

end Costs

/-- What is pending behind the leading ones. -/
def leadingStart : List Bitstream := [[true, true, false]]

theorem leadingStart_boundaries : ∀ pending ∈ leadingStart, pending ∈ boundaries := by
  decide

/-- Of the ones that count in a speed packet with a long address, at least six
are there: the top bit of the address and two bits of the command come twice. -/
theorem six_le_totalWeight {high : Byte} (long : high &&& 0xc0 = 0xc0) (low data : Byte) :
    6 ≤ totalWeight thirdBits.weights (completed [high, low, 0x3f, data]) := by
  have sum (bytes : List Byte) : totalWeight thirdBits.weights bytes =
      totalWeight [true] bytes +
        totalWeight [false, false, false, true, false, false, true] bytes := by
    induction bytes with
    | nil => rfl
    | cons byte bytes ih =>
        have split : weight thirdBits.weights (byteBits byte) = weight [true] (byteBits byte) +
            weight [false, false, false, true, false, false, true] (byteBits byte) := by
          simp [weight, byteBits, thirdBits]
        simp only [totalWeight, List.map_cons, List.sum_cons] at ih ⊢
        omega
  have top := two_mul_weight_le (xorBytes_completed [high, low, 0x3f, data])
    (show high ∈ completed [high, low, 0x3f, data] from List.mem_cons_self) [true]
  have command := two_mul_weight_le (xorBytes_completed [high, low, 0x3f, data])
    (show 0x3f ∈ completed [high, low, 0x3f, data] by simp [completed])
    [false, false, false, true, false, false, true]
  have topBit : weight [true] (byteBits high) = 1 := by
    rw [byteBits_long high long]
    rfl
  have commandBits :
      weight [false, false, false, true, false, false, true] (byteBits 0x3f) = 2 := by
    decide
  rw [sum]
  omega

/-- Any bytes take what a byte takes without ones that count. -/
theorem noOnes_takes (bytes : List Byte) : ∀ byte ∈ bytes.map fun byte => (byte, 9),
    noOnes.Takes byte.1 byte.2 := by
  intro byte mem
  rcases List.mem_map.mp mem with ⟨byte, _, rfl⟩
  exact noOnes_lawful.takes byte

theorem speed_bytes {bytes : List Byte} {forward : Bool} {step : Nat}
    (decoded : decodeInstruction bytes = some (.speed forward step)) :
    (∃ byte, bytes = [byte]) ∨ ∃ data, bytes = [0x3f, data] := by
  match bytes, decoded with
  | [byte], _ => exact .inl ⟨byte, rfl⟩
  | [byte, data], decoded =>
      by_cases command : byte = 0x3f
      · exact .inr ⟨data, by rw [command]⟩
      · rw [decodeInstruction, if_neg command] at decoded
        split_ifs at decoded <;> cases decoded

/-- The speed packet, behind the leading ones. -/
theorem passesGap_speed {front bytes : List Byte} (address : AddressFront front) {forward : Bool}
    {step : Nat} (decoded : decodeInstruction bytes = some (.speed forward step)) :
    PassesGap leadingStart (completed (front ++ bytes)) 29 := by
  rcases address with ⟨first, rfl⟩ | ⟨high, low, rfl, long⟩
  · have affords := fun pending mem =>
      affords_any first pending (leadingStart_boundaries pending mem)
    rcases speed_bytes decoded with ⟨byte, rfl⟩ | ⟨data, rfl⟩
    · exact passesGap_of_costs noOnes_lawful noOnes_gap affords (noOnes_takes [byte])
        (by simp; omega)
    · exact passesGap_of_costs noOnes_lawful noOnes_gap affords (noOnes_takes [0x3f, data])
        (by simp; omega)
  · rcases speed_bytes decoded with ⟨byte, rfl⟩ | ⟨data, rfl⟩
    · have affords := fun pending mem =>
        ((affords_long long).2 pending (leadingStart_boundaries pending mem)).1
      exact passesGap_of_costs noOnes_lawful noOnes_gap affords (noOnes_takes [low, byte])
        (by simp; omega)
    · have affords : ∀ pending ∈ leadingStart, thirdBits.Affords high 10 pending := by
        intro pending mem
        rw [List.mem_singleton.mp mem]
        exact (affords_long long).1
      have takes : ∀ priced ∈ [(low, 9), (0x3f, 8), (data, 9)],
          thirdBits.Takes priced.1 priced.2 := by
        simp only [List.forall_mem_cons, List.not_mem_nil, false_implies, implies_true, and_true]
        exact ⟨thirdBits_lawful.takes low, takes_speedCommand, thirdBits_lawful.takes data⟩
      have heavy := six_le_totalWeight long low data
      apply passesGap_of_costs thirdBits_lawful thirdBits_gap affords takes
      simp only [List.map_cons, List.map_nil, List.sum_cons, List.sum_nil]
      omega

/-- The packet of F5 to F8, behind a gap. -/
theorem passesGap_lowerGroup {front : List Byte} (address : AddressFront front) {byte : Byte}
    (lower : byte &&& 0xf0 = 0xb0) :
    PassesGap boundaries (completed (front ++ [byte])) 26 := by
  rcases address with ⟨first, rfl⟩ | ⟨high, low, rfl, long⟩
  · exact passesGap_of_costs noOnes_lawful noOnes_gap (affords_any first) (noOnes_takes [byte])
      (by simp; omega)
  · have takes : ∀ priced ∈ [(low, 9), (byte, 7)], secondBit.Takes priced.1 priced.2 := by
      simp only [List.forall_mem_cons, List.not_mem_nil, false_implies, implies_true, and_true]
      exact ⟨secondBit_lawful.takes low, takes_lowerGroup lower⟩
    have heavy := two_mul_weight_le (xorBytes_completed [high, low, byte])
      (show high ∈ completed [high, low, byte] from List.mem_cons_self) secondBit.weights
    have secondOne : weight secondBit.weights (byteBits high) = 1 := by
      rw [byteBits_long high long]
      rfl
    apply passesGap_of_costs secondBit_lawful secondBit_gap
      (fun pending mem => ((affords_long long).2 pending mem).2) takes
    simp only [List.map_cons, List.map_nil, List.sum_cons, List.sum_nil]
    omega

/-- The packets of F0 to F4 and of F9 to F12. -/
theorem passesGap_group {front : List Byte} (address : AddressFront front) {byte : Byte}
    (group : byte &&& 0xe0 = 0x80 ∨ byte &&& 0xf0 = 0xa0) :
    PassesGap boundaries (completed (front ++ [byte])) 27 := by
  rcases address with ⟨first, rfl⟩ | ⟨high, low, rfl, long⟩
  · have takes : ∀ priced ∈ [(byte, 8)], noOnes.Takes priced.1 priced.2 :=
      List.forall_mem_singleton.mpr (takes_group group)
    exact passesGap_of_costs noOnes_lawful noOnes_gap (affords_any first) takes (by simp; omega)
  · have takes : ∀ priced ∈ [(low, 9), (byte, 8)], noOnes.Takes priced.1 priced.2 := by
      simp only [List.forall_mem_cons, List.not_mem_nil, false_implies, implies_true, and_true]
      exact ⟨noOnes_lawful.takes low, takes_group group⟩
    exact passesGap_of_costs noOnes_lawful noOnes_gap
      (fun pending mem => ((affords_long long).2 pending mem).1) takes (by simp; omega)

/-- The packets of F13 to F20 and of F21 to F28, which are the last ones. -/
theorem finishes_expansion {front : List Byte} (address : AddressFront front) {byte : Byte}
    (expansion : byte = 0xde ∨ byte = 0xdf) (data : Byte) :
    Finishes boundaries [completed (front ++ [byte, data])] 21 := by
  rcases address with ⟨first, rfl⟩ | ⟨high, low, rfl, long⟩
  · have takes : ∀ priced ∈ [(byte, 6), (data, 9)], noOnes.Takes priced.1 priced.2 := by
      simp only [List.forall_mem_cons, List.not_mem_nil, false_implies, implies_true, and_true]
      exact ⟨takes_expansion expansion, noOnes_lawful.takes data⟩
    exact finishes_of_costs (affords_any first) takes (by simp)
  · have takes : ∀ priced ∈ [(low, 9), (byte, 6), (data, 9)], noOnes.Takes priced.1 priced.2 := by
      simp only [List.forall_mem_cons, List.not_mem_nil, false_implies, implies_true, and_true]
      exact ⟨noOnes_lawful.takes low, takes_expansion expansion, noOnes_lawful.takes data⟩
    exact finishes_of_costs (fun pending mem => ((affords_long long).2 pending mem).1) takes
      (by simp)

/-- Whatever packet is the last one. -/
theorem finishes_any {front bytes : List Byte} (address : AddressFront front)
    (short : bytes.length ≤ 2) : Finishes boundaries [completed (front ++ bytes)] 24 := by
  have sum (bytes : List Byte) :
      ((bytes.map fun byte => (byte, 9)).map Prod.snd).sum = 9 * bytes.length := by
    induction bytes with
    | nil => rfl
    | cons byte bytes ih =>
        simp only [List.map_cons, List.sum_cons, List.length_cons] at ih ⊢
        omega
  rcases address with ⟨first, rfl⟩ | ⟨high, low, rfl, _⟩
  · have finishes := @finishes_of_costs boundaries first 11 24 _ (affords_any first)
      (noOnes_takes bytes) (by rw [sum]; omega)
    simpa [Function.comp_def] using finishes
  · have finishes := @finishes_of_costs boundaries high 11 24 _ (affords_any high)
      (noOnes_takes (low :: bytes)) (by rw [sum, List.length_cons]; omega)
    simpa [Function.comp_def] using finishes

/-! ## Streams -/

/-- The bits of packets, the first one behind a preamble, the others behind gaps. -/
def packetStream (packets : List (List Byte)) : Bitstream :=
  preamble ++ [false] ++ gapped packets

/-- The leading ones take three bytes. -/
theorem passes_leading : Passes (List.replicate 17 true ++ [false]) 3 [true, true, false] := by
  have settled : settle 5 (List.replicate 17 true ++ [false]) = (3, [true, true, false]) := by
    decide
  have passes := settle_passes 5 (List.replicate 17 true)
  rw [settled] at passes
  exact passes

theorem v3Buffer_packetStream {packets : List (List Byte)}
    (short : (packetStream packets).length ≤ buffersize - 1) :
    v3Buffer (packetStream packets) =
      List.replicate 17 true ++ [false] ++ (gapped packets ++ List.replicate 6 true) := by
  rw [v3Buffer, List.take_of_length_le short, packetStream, preamble]
  simp [List.replicate_succ]

/-- A stream is read to its end with the bytes its packets take. -/
theorem packetStream_readsAll {packets : List (List Byte)} {k : Nat}
    (finishes : Finishes leadingStart packets k)
    (short : (packetStream packets).length ≤ buffersize - 1) :
    runsOut (v3Buffer (packetStream packets)) = false ∧
      v3BufEnd (packetStream packets) ≤ position (v3Buffer (packetStream packets)) (k + 3) := by
  have room := v3Buffer_length (packetStream packets)
  rw [v3Buffer_packetStream short] at room ⊢
  constructor
  · rw [List.append_assoc, List.singleton_append, runsOut_replicate]
    rfl
  · rcases finishes _ List.mem_cons_self with ⟨n, le, atEnd⟩
    rw [← passes_leading, ← Function.iterate_add_apply, ← drop_position, List.length_drop] at atEnd
    have far := @position_mono (List.replicate 17 true ++ [false] ++
      (gapped packets ++ List.replicate 6 true)) (n + 3) (k + 3) (by omega)
    omega

/-- What the loop does with a stream: it ends with the whole bit stream read, and
at no time are all bytes of the packet stream used. -/
structure ReadsAll (stream : Bitstream) (last : V3State) : Prop where
  reaches : LoopReaches (v3Body (v3Buffer stream) (v3BufEnd stream)) v3Init last
  atEnd : v3BufEnd stream ≤ last.readPtr
  whole : stream.take (buffersize - 1) = stream
  never_full : ∀ s, LoopReaches (v3Body (v3Buffer stream) (v3BufEnd stream)) v3Init s →
    s.generatePacket < pktsize
  line : ∃ more, readLine (uartLine (last.packetstream.take last.generatePacket)) =
    some ⟨true, true :: stream ++ List.replicate more true, true⟩
  finished : ∃ enough, ∀ fuel, enough ≤ fuel →
    translateBitstream2PacketstreamV3 fuel stream = some (last.generatePacket, last.packetstream)

theorem exists_readsAll {packets : List (List Byte)} {k : Nat}
    (finishes : Finishes leadingStart packets k) (few : k + 3 < pktsize)
    (short : (packetStream packets).length ≤ buffersize - 1) :
    ∃ last, ReadsAll (packetStream packets) last := by
  rcases packetStream_readsAll finishes short with ⟨quiet, passed⟩
  have room := v3Buffer_length (packetStream packets)
  rcases translateBitstream2PacketstreamV3_readsAll quiet passed few with
    ⟨enough, last, reaches, atEnd, result, finished⟩
  have count := generatePacket_le quiet room passed reaches
  refine ⟨last, reaches, atEnd, List.take_of_length_le short, ?_, ?_, ⟨enough, finished⟩⟩
  · intro s reached
    exact Nat.lt_of_le_of_lt (generatePacket_le quiet room passed reached) few
  · exact result.readLine (by omega)

theorem gapped_length (packets : List (List Byte)) :
    (gapped packets).length ≤ (packets.map fun packet => 9 * packet.length + 51).sum := by
  have data (bytes : List Byte) : (dataBits bytes).length ≤ 9 * bytes.length := by
    induction bytes with
    | nil => rfl
    | cons byte bytes ih =>
        cases bytes with
        | nil => simp [dataBits, byteBits]
        | cons next bytes =>
            rw [dataBits, List.length_append, List.length_cons, List.length_cons]
            · have eight : (byteBits byte).length = 8 := rfl
              omega
            · exact List.cons_ne_nil _ _
  induction packets with
  | nil => rfl
  | cons packet packets ih =>
      have bits := data packet
      cases packets with
      | nil =>
          simp only [gapped, List.map_cons, List.sum_cons]
          omega
      | cons next packets =>
          rw [gapped_cons packet (List.cons_ne_nil _ _), List.length_append, List.length_append,
            List.length_append, List.length_replicate, List.length_singleton, List.map_cons,
            List.sum_cons]
          omega

theorem gapped_append (packets : List (List Byte)) (nonempty : packets ≠ [])
    (packet : List Byte) :
    gapped (packets ++ [packet]) =
      gapped packets ++ (List.replicate 50 true ++ [false]) ++ dataBits packet := by
  induction packets with
  | nil => contradiction
  | cons first packets ih =>
      cases packets with
      | nil => rfl
      | cons next packets =>
          rw [List.cons_append, gapped_cons first (by simp), ih (List.cons_ne_nil _ _),
            gapped_cons first (List.cons_ne_nil _ _)]
          simp only [List.append_assoc]

theorem packetStream_append {packets : List (List Byte)} (nonempty : packets ≠ [])
    (packet : List Byte) :
    packetStream packets ++ packetBits 50 packet = packetStream (packets ++ [packet]) := by
  rw [packetStream, packetStream, gapped_append _ nonempty]
  simp [packetBits]

theorem packetBits_eq_packetStream (packet : List Byte) :
    packetBits 15 packet = packetStream [packet] := by
  simp [packetBits, packetStream, preamble, gapped]

theorem Finishes.leading {packets : List (List Byte)} {k : Nat}
    (finishes : Finishes boundaries packets k) : Finishes leadingStart packets k :=
  fun pending mem => finishes pending (leadingStart_boundaries pending mem)

theorem PassesGap.leading {packet : List Byte} {k : Nat}
    (passes : PassesGap boundaries packet k) : PassesGap leadingStart packet k :=
  fun pending mem => passes pending (leadingStart_boundaries pending mem)

/-- Up to three packets with an address and one or two more bytes fit into the
buffer. -/
theorem packetStream_short {front : List Byte} (address : AddressFront front)
    {instructions : List (List Byte)} (few : instructions.length ≤ 3)
    (brief : ∀ bytes ∈ instructions, bytes.length ≤ 2) :
    (packetStream (instructions.map fun bytes => completed (front ++ bytes))).length ≤
      buffersize - 1 := by
  have frontLength : front.length ≤ 2 := by
    rcases address with ⟨_, rfl⟩ | ⟨_, _, rfl, _⟩ <;> simp
  have each : (((instructions.map fun bytes => completed (front ++ bytes)).map
      fun packet => 9 * packet.length + 51).sum) ≤ instructions.length * 96 := by
    rw [List.map_map, ← List.length_map, ← smul_eq_mul]
    apply List.sum_le_card_nsmul
    intro bits mem
    rcases List.mem_map.mp mem with ⟨bytes, inside, rfl⟩
    have bytesLength := brief bytes inside
    simp only [Function.comp_apply, completed, List.length_append, List.length_singleton]
    omega
  have bits := gapped_length (instructions.map fun bytes => completed (front ++ bytes))
  rw [packetStream, List.length_append, List.length_append, preamble, List.length_replicate,
    List.length_singleton, buffersize]
  omega

/-! ## The streams of a call -/

theorem groupOne_class {byte : Byte} {func : BitVec 32}
    (decoded : decodeInstruction [byte] = some (functionGroup func 0 5)) :
    byte &&& 0xe0 = 0x80 := by
  rw [decodeInstruction] at decoded
  split_ifs at decoded with speed first
  · cases decoded
  · exact first
  · simp [functionGroup, functionBits, List.range_succ] at decoded
  · simp [functionGroup, functionBits, List.range_succ] at decoded

theorem lowerGroup_class {byte : Byte} {func : BitVec 32}
    (decoded : decodeInstruction [byte] = some (functionGroup func 5 4)) :
    byte &&& 0xf0 = 0xb0 := by
  rw [decodeInstruction] at decoded
  split_ifs at decoded with speed first lower
  · cases decoded
  · simp [functionGroup, functionBits, List.range_succ] at decoded
  · exact lower
  · simp [functionGroup, functionBits, List.range_succ] at decoded

theorem upperGroup_class {byte : Byte} {func : BitVec 32}
    (decoded : decodeInstruction [byte] = some (functionGroup func 9 4)) :
    byte &&& 0xf0 = 0xa0 := by
  rw [decodeInstruction] at decoded
  split_ifs at decoded with speed first lower upper
  · cases decoded
  · simp [functionGroup, functionBits, List.range_succ] at decoded
  · simp [functionGroup, functionBits, List.range_succ] at decoded
  · exact upper

/-- Up to three packets that take at most 76 bytes behind the leading ones. -/
theorem exists_readsAll_of_finishes {front : List Byte} (address : AddressFront front)
    (instructions : List (List Byte)) (few : instructions.length ≤ 3)
    (brief : ∀ bytes ∈ instructions, bytes.length ≤ 2) {k : Nat}
    (finishes : Finishes leadingStart (instructions.map fun bytes => completed (front ++ bytes)) k)
    (bounded : k + 3 < pktsize) :
    ∃ last, ReadsAll
      (packetStream (instructions.map fun bytes => completed (front ++ bytes))) last :=
  exists_readsAll finishes bounded (packetStream_short address few brief)

/-- The stream that begins with the speed packet. -/
theorem exists_readsAll_speed {front : List Byte} (address : AddressFront front)
    {speed : List Byte} {forward : Bool} {step : Nat}
    (speedDecoded : decodeInstruction speed = some (.speed forward step)) {two : Byte}
    (lower : two &&& 0xf0 = 0xb0) (four : Byte) (nfuncs : Int) :
    ∃ last, ReadsAll (packetBits 15 (completed (front ++ speed)) ++
      (if 5 < nfuncs then packetBits 50 (completed (front ++ [two])) else []) ++
      (if 12 < nfuncs then packetBits 50 (completed (front ++ [0xde, four])) else [])) last := by
  have brief : speed.length ≤ 2 := by
    rcases speed_bytes speedDecoded with ⟨_, rfl⟩ | ⟨_, rfl⟩ <;> simp
  have first := passesGap_speed address speedDecoded
  rw [packetBits_eq_packetStream]
  by_cases above12 : 12 < nfuncs
  · rw [if_pos (by omega), if_pos above12, packetStream_append (List.cons_ne_nil _ _),
      packetStream_append (by simp)]
    apply exists_readsAll_of_finishes address [speed, [two], [0xde, four]]
    · simp
    · simpa using brief
    · exact first.finishes ((passesGap_lowerGroup address lower).finishes
        (finishes_expansion address (.inl rfl) four))
    · decide
  · rw [if_neg above12, List.append_nil]
    by_cases above5 : 5 < nfuncs
    · rw [if_pos above5, packetStream_append (List.cons_ne_nil _ _)]
      apply exists_readsAll_of_finishes address [speed, [two]]
      · simp
      · simpa using brief
      · exact first.finishes (finishes_any address (by simp))
      · decide
    · rw [if_neg above5, List.append_nil]
      apply exists_readsAll_of_finishes address [speed]
      · simp
      · simpa using brief
      · exact (finishes_any address brief).leading
      · decide

/-- The stream that begins with the packet of F0 to F4. -/
theorem exists_readsAll_groupOne {front : List Byte} (address : AddressFront front)
    {one three : Byte} (groupOne : one &&& 0xe0 = 0x80) (upper : three &&& 0xf0 = 0xa0)
    (five : Byte) (nfuncs : Int) :
    ∃ last, ReadsAll (packetBits 15 (completed (front ++ [one])) ++
      (if 8 < nfuncs then packetBits 50 (completed (front ++ [three])) else []) ++
      (if 20 < nfuncs then packetBits 50 (completed (front ++ [0xdf, five])) else [])) last := by
  have first := (passesGap_group address (.inl groupOne)).leading
  rw [packetBits_eq_packetStream]
  by_cases above20 : 20 < nfuncs
  · rw [if_pos (by omega), if_pos above20, packetStream_append (List.cons_ne_nil _ _),
      packetStream_append (by simp)]
    apply exists_readsAll_of_finishes address [[one], [three], [0xdf, five]]
    · simp
    · simp
    · exact first.finishes ((passesGap_group address (.inr upper)).finishes
        (finishes_expansion address (.inr rfl) five))
    · decide
  · rw [if_neg above20, List.append_nil]
    by_cases above8 : 8 < nfuncs
    · rw [if_pos above8, packetStream_append (List.cons_ne_nil _ _)]
      apply exists_readsAll_of_finishes address [[one], [three]]
      · simp
      · simp
      · exact first.finishes (finishes_any address (by simp))
      · decide
    · rw [if_neg above8, List.append_nil]
      apply exists_readsAll_of_finishes address [[one]]
      · simp
      · simp
      · exact (finishes_any address (by simp)).leading
      · decide

/-- Every stream that `comp_nmra_multi_func` hands to the third routine is read to
its end: the loop never stops because all bytes of the packet stream are used,
and no packet is truncated. -/
theorem multiFuncStreams_readAll (call : MultiFuncCall) (form : call.mode = 1 ∨ call.mode = 2)
    (steps : call.nspeed = 28 ∨ call.nspeed = 128) (accepted : call.accepted = true) :
    ∀ stream ∈ call.streams, ∃ last, ReadsAll stream last := by
  have address := addressFront_addressBytes call.address call.mode
  rcases handedStreams_eq call.func form steps accepted with ⟨speed, speedDecoded, handed⟩
  rw [MultiFuncCall.streams, handed]
  by_cases both : call.nfuncs = 0
  · rw [if_pos both]
    intro stream mem
    have lower : (0xb0 : Byte) &&& 0xf0 = 0xb0 := by decide
    have alone := exists_readsAll_speed address speedDecoded lower 0 0
    rw [List.mem_singleton.mp mem]
    simpa using alone
  · rcases calcFunctionStream_packets (addressBytes call.address call.mode)
      (packetBits 15 (completed (addressBytes call.address call.mode ++ speed))) call.func
      call.nfuncs with ⟨one, two, three, four, five, oneDecoded, twoDecoded, threeDecoded, _, _,
        streamsEq⟩
    rw [if_neg both, streamsEq]
    intro stream mem
    rcases List.mem_cons.mp mem with rfl | later
    · exact exists_readsAll_speed address speedDecoded (lowerGroup_class twoDecoded) four _
    · rw [List.mem_singleton.mp later]
      exact exists_readsAll_groupOne address (groupOne_class oneDecoded)
        (upperGroup_class threeDecoded) five _

/-- Long address 1000, forwards, step 42 of 128, all functions on. -/
theorem multiFuncStreams_readAll_long :
    (⟨1000, 1, 43, 0x1fffffff, 128, 28, 2⟩ : MultiFuncCall).accepted = true ∧
      ∀ stream ∈ (⟨1000, 1, 43, 0x1fffffff, 128, 28, 2⟩ : MultiFuncCall).streams,
        ∃ last, ReadsAll stream last :=
  ⟨by decide,
    multiFuncStreams_readAll ⟨1000, 1, 43, 0x1fffffff, 128, 28, 2⟩ (.inr rfl) (.inr rfl)
      (by decide)⟩

end Srcpd.Ddl
