import Srcpd.Ddl.MultiFunc
import Srcpd.Ddl.NmraPool
import Srcpd.Ddl.PacketQueue
import Srcpd.Ddl.TranslateV3

/-!
# The packets that `comp_nmra_multi_func` adds to the queue

One packet for each stream that is handed to the translation routine, provided
the routine yields bytes for all of them.  The third routine always does, and
the line signal of its bytes is the stream.
-/

namespace Srcpd.Ddl

open Srcpd.Dcc Srcpd.Transition

/-- The streams that a call hands to the translation. -/
def MultiFuncCall.streams (call : MultiFuncCall) : List Bitstream :=
  handedStreams call.address call.direction call.speed call.func call.nspeed call.nfuncs call.mode

/-! ## Every stream begins with a preamble -/

theorem preamble_prefix_calcAddressStream (address mode : Int) :
    preamble ++ [false] <+: (calcAddressStream address mode).1 := by
  simp only [calcAddressStream]
  split_ifs <;> simp [List.append_assoc]

theorem prefix_calcSpeedStream (addrstream addrerrbyte : Bitstream) (direction speed : Int)
    (func : BitVec 32) (nspeed : Int) :
    addrstream <+: calcSpeedStream addrstream addrerrbyte direction speed func nspeed := by
  simp only [calcSpeedStream]
  split_ifs <;> simp [List.append_assoc]

theorem prefix_calcFunctionStream (bitstream addrerrbyte addrstream : Bitstream)
    (func : BitVec 32) (nfuncs : Int) :
    let streams := calcFunctionStream bitstream addrerrbyte addrstream func nfuncs
    bitstream <+: streams.1 ∧ addrstream <+: streams.2 := by
  simp only [calcFunctionStream]
  split_ifs <;> simp [List.append_assoc]

theorem MultiFuncCall.preamble_prefix {call : MultiFuncCall} {stream : Bitstream}
    (mem : stream ∈ call.streams) : preamble ++ [false] <+: stream := by
  have address := preamble_prefix_calcAddressStream call.address call.mode
  simp only [MultiFuncCall.streams, handedStreams, multiFuncStreams] at mem
  generalize (if 127 < call.speed then 127 else call.speed) = speed at mem
  have front := address.trans (prefix_calcSpeedStream _
    (calcAddressStream call.address call.mode).2 call.direction speed call.func call.nspeed)
  split_ifs at mem
  · have both := prefix_calcFunctionStream (calcSpeedStream
      (calcAddressStream call.address call.mode).1 (calcAddressStream call.address call.mode).2
      call.direction speed call.func call.nspeed) (calcAddressStream call.address call.mode).2
      (calcAddressStream call.address call.mode).1 call.func call.nfuncs
    rcases List.mem_cons.mp mem with rfl | mem
    · exact front.trans both.1
    · rw [Option.toList_some, List.mem_singleton] at mem
      rw [mem]
      exact address.trans both.2
  · rcases List.mem_cons.mp mem with rfl | mem
    · exact front
    · cases mem

/-! ## Translations -/

/-- The routine of this version yields bytes for the stream. -/
def Translatable (nmradccTrV : Int) (stream : Bitstream) : Prop :=
  ∃ fuel n packetstream,
    translateBitstream2Packetstream nmradccTrV fuel stream false = some (n, packetstream) ∧ 0 < n

theorem translateBitstream2Packetstream_mono {nmradccTrV : Int} {fuel more : Nat}
    {stream : Bitstream} {forceTranslation : Bool} {result : Nat × Packetstream}
    (le : fuel ≤ more)
    (finished : translateBitstream2Packetstream nmradccTrV fuel stream forceTranslation =
      some result) :
    translateBitstream2Packetstream nmradccTrV more stream forceTranslation = some result := by
  rw [translateBitstream2Packetstream] at finished ⊢
  split_ifs at finished ⊢
  · exact iterate_mono le finished
  · exact iterate_mono le finished
  · exact iterate_mono le finished
  · exact finished

/-- Results do not depend on the fuel. -/
theorem translateBitstream2Packetstream_unique {nmradccTrV : Int} {fuel fuel' : Nat}
    {stream : Bitstream} {forceTranslation : Bool} {result result' : Nat × Packetstream}
    (finished : translateBitstream2Packetstream nmradccTrV fuel stream forceTranslation =
      some result)
    (finished' : translateBitstream2Packetstream nmradccTrV fuel' stream forceTranslation =
      some result') : result = result' := by
  have first := translateBitstream2Packetstream_mono (Nat.le_max_left fuel fuel') finished
  have second := translateBitstream2Packetstream_mono (Nat.le_max_right fuel fuel') finished'
  rw [first] at second
  exact Option.some.inj second

theorem translatable_v3 {stream : Bitstream} (lead : preamble ++ [false] <+: stream) :
    ∃ fuel n packetstream,
      translateBitstream2Packetstream 3 fuel stream false = some (n, packetstream) ∧ 0 < n ∧
        (n < pktsize → ∃ more, readLine (uartLine (packetstream.take n)) =
          some ⟨true, true :: stream ++ List.replicate more true, true⟩) := by
  rcases lead with ⟨body, rfl⟩
  have shape : preamble ++ [false] ++ body = List.replicate 15 true ++ false :: body := by
    rw [List.append_assoc]
    rfl
  have suitable : (15 + 2) % 5 ≠ 0 := by decide
  have leadingRun := leadingRun_of_replicate body suitable (by decide)
  rw [shape]
  rcases translateBitstream2PacketstreamV3_total _ leadingRun with
    ⟨enough, ⟨n, packetstream⟩, result, finished⟩
  refine ⟨enough, n, packetstream, finished enough le_rfl, ?_, result.readLine⟩
  by_contra none
  have zero : n = 0 := Nat.eq_zero_of_not_pos none
  have notFull : n < pktsize := by
    rw [zero]
    decide
  rcases result notFull with ⟨r, atEnd, _, consumed, _⟩
  rw [zero] at consumed
  simp only [v3BufEnd] at atEnd
  omega

theorem Translatable.eventually {nmradccTrV : Int} {streams : List Bitstream}
    (translatable : ∀ stream ∈ streams, Translatable nmradccTrV stream) :
    ∃ enough, ∀ fuel, enough ≤ fuel → ∀ stream ∈ streams, ∃ n packetstream,
      translateBitstream2Packetstream nmradccTrV fuel stream false = some (n, packetstream) ∧
        0 < n := by
  induction streams with
  | nil => exact ⟨0, fun _ _ _ mem => absurd mem List.not_mem_nil⟩
  | cons stream streams ih =>
      rcases ih fun other mem => translatable other (List.mem_cons_of_mem _ mem) with ⟨rest, finish⟩
      rcases translatable stream List.mem_cons_self with ⟨first, n, packetstream, finished, bytes⟩
      refine ⟨max first rest, fun fuel le other mem => ?_⟩
      rcases List.mem_cons.mp mem with rfl | mem
      · exact ⟨n, packetstream, translateBitstream2Packetstream_mono
          (le_trans (Nat.le_max_left _ _) le) finished, bytes⟩
      · exact finish fuel (le_trans (Nat.le_max_right _ _) le) other mem

/-! ## The packets in the queue -/

/-- A packet with the bytes of a stream.  For the third routine, and as long as
the bytes do not fill the packet, their line signal is the stream, behind one
leading `1` and with more ones after it. -/
structure QData.Carries (data : QData) (nmradccTrV adr : Int) (stream : Bitstream) : Prop where
  addr : data.addr = adr
  translated : ∃ fuel n packetstream,
    translateBitstream2Packetstream nmradccTrV fuel stream false = some (n, packetstream) ∧
      0 < n ∧ data = QData.of adr packetstream .nbLocoPkt n
  line : nmradccTrV = 3 → data.packetSize < pktsize →
    ∃ more, readLine (uartLine (data.packet.val.take data.packetSize)) =
      some ⟨true, true :: stream ++ List.replicate more true, true⟩

theorem QData.carries_of_translated {nmradccTrV : Int} {fuel n : Nat} {stream : Bitstream}
    {packetstream : Packetstream} (adr : Int) (lead : preamble ++ [false] <+: stream)
    (finished : translateBitstream2Packetstream nmradccTrV fuel stream false =
      some (n, packetstream)) (bytes : 0 < n) :
    (QData.of adr packetstream .nbLocoPkt n).Carries nmradccTrV adr stream where
  addr := rfl
  translated := ⟨fuel, n, packetstream, finished, bytes, rfl⟩
  line := by
    rintro rfl notFull
    rcases translatable_v3 lead with ⟨fuel', n', packetstream', finished', _, line⟩
    cases translateBitstream2Packetstream_unique finished finished'
    have whole := translateBitstream2Packetstream_length finished
    have inPacket : n ≤ packetstream.length := by
      rw [whole]
      exact Nat.le_of_lt notFull
    have content := (QData.of_content adr .nbLocoPkt inPacket (Nat.le_of_lt notFull)).2.2.2
    rw [content]
    exact line notFull

theorem updateNmraPacketPool_isSome {pool : NmraPacketPool} (malloc : Option NmraPacket)
    (update : NmraUpdate) (unlocked : pool.locked = false) :
    ∃ next, updateNmraPacketPool pool malloc update = some next := by
  rw [updateNmraPacketPool, if_neg (by rw [unlocked]; decide)]
  split
  · exact ⟨_, rfl⟩
  · exact ⟨_, rfl⟩

/-- A call that passes the range check adds one packet for each stream, if the
routine yields bytes for all of them.  It ends unless the pool is locked for
ever. -/
theorem compNmraMultiFunc_sends {fuel : Nat} {ddl : DdlData} {call : MultiFuncCall}
    (malloc : Option NmraPacket) (accepted : call.accepted = true)
    (translated : ∀ stream ∈ call.streams, ∃ n packetstream,
      translateBitstream2Packetstream ddl.nmradccTrV fuel stream false = some (n, packetstream) ∧
        0 < n) :
    (ddl.nmraPacketPool.locked = false →
        ∃ result, compNmraMultiFunc fuel malloc ddl call = some result) ∧
      ∀ result, compNmraMultiFunc fuel malloc ddl call = some result →
        ∃ queued, result.2.queue.added = ddl.queue.added ++ queued ∧
          List.Forall₂ (fun data stream => data.Carries ddl.nmradccTrV
            (multiFuncAdr call.address call.mode) stream) queued call.streams := by
  have lead := fun stream (mem : stream ∈ call.streams) => call.preamble_prefix mem
  rw [compNmraMultiFunc, if_neg (by rw [accepted]; decide)]
  simp only [MultiFuncCall.streams, handedStreams] at translated lead ⊢
  generalize multiFuncStreams call.address call.direction call.speed call.func call.nspeed
    call.nfuncs call.mode = streams at translated lead ⊢
  rcases streams with ⟨first, second⟩
  rcases translated first List.mem_cons_self with ⟨j, packetstream, finished, bytes⟩
  have carries := QData.carries_of_translated (multiFuncAdr call.address call.mode)
    (lead first List.mem_cons_self) finished bytes
  cases second with
  | none =>
      simp only [finished, Option.bind_some, Option.map_none, Option.getD_none]
      rw [if_pos ⟨bytes, bytes⟩]
      constructor
      · intro unlocked
        rcases updateNmraPacketPool_isSome malloc _ unlocked with ⟨pool, updated⟩
        rw [updated]
        exact ⟨_, rfl⟩
      · intro result done
        rcases Option.map_eq_some_iff.mp done with ⟨pool, _, rfl⟩
        exact ⟨[_], rfl, .cons carries .nil⟩
  | some second =>
      have mem : second ∈ first :: (some second).toList :=
        List.mem_cons_of_mem _ List.mem_cons_self
      rcases translated second mem with ⟨jj, packetstream2, finished2, bytes2⟩
      have carries2 := QData.carries_of_translated (multiFuncAdr call.address call.mode)
        (lead second mem) finished2 bytes2
      simp only [finished, finished2, Option.bind_some, Option.map_some, Option.getD_some]
      rw [if_pos ⟨bytes, bytes2⟩]
      constructor
      · intro unlocked
        rcases updateNmraPacketPool_isSome malloc _ unlocked with ⟨pool, updated⟩
        rw [updated]
        exact ⟨_, rfl⟩
      · intro result done
        rcases Option.map_eq_some_iff.mp done with ⟨pool, _, rfl⟩
        exact ⟨[_, _], List.append_assoc _ _ _, .cons carries (.cons carries2 .nil)⟩

end Srcpd.Ddl
