import Srcpd.Ddl.Translate
import Srcpd.Queue.Ring
import Srcpd.Pool.Known

/-!
# The data of a DDL bus

The packet queue and the two packet pools of `ddl.c`.  The queue and the NMRA
pool keep a record of what was done to them, next to the data the source has.
-/

namespace Srcpd.Ddl

open Srcpd.Queue Srcpd.Pool

/-- The `PKTSIZE` bytes of a packet in the queue or in a pool. -/
abbrev PacketBuffer := { bytes : Packetstream // bytes.length = pktsize }

/-- A packet buffer of zeros. -/
def PacketBuffer.zero : PacketBuffer :=
  ⟨emptyPacketstream, List.length_replicate⟩

/-- `memcpy` of `size` bytes to the start of a buffer. -/
def PacketBuffer.memcpy (buffer : PacketBuffer) (source : Packetstream) (size : Nat) :
    PacketBuffer :=
  ⟨buffer.val.mapIdx fun i old => if i < size then source.getD i 0 else old, by
    rw [List.length_mapIdx, buffer.property]⟩

theorem PacketBuffer.take_memcpy (buffer : PacketBuffer) {source : Packetstream} {size : Nat}
    (enough : min size pktsize ≤ source.length) :
    (buffer.memcpy source size).val.take size = source.take (min size pktsize) := by
  apply List.ext_getElem
  · rw [List.length_take, List.length_take, (buffer.memcpy source size).property]
    omega
  · intro i inside inside'
    have before : i < min size pktsize :=
      (List.length_take ▸ inside').trans_le (Nat.min_le_left _ _)
    have inSource : i < source.length := before.trans_le enough
    simp [PacketBuffer.memcpy, before.trans_le (Nat.min_le_left _ _), inSource]

/-! ## The packet queue -/

/-- `QSIZE`, the length of the packet queue. -/
def qsize : Nat := 2000

/-- The types of packets, which decide about speed and repeats on the line. -/
inductive PacketType
  | noValidPkt
  | m1LocoPkt
  | m2LocoPkt
  | m2FxPkt
  | m1FuncPkt
  | m1SolePkt
  | nbLocoPkt
  | nbAccPkt
  deriving DecidableEq, Repr

/-- An entry of the packet queue. -/
structure QData where
  packetType : PacketType
  packetSize : Nat
  packet : PacketBuffer
  addr : Int
  deriving DecidableEq

/-- A queue slot after `queue_init`. -/
def QData.empty : QData :=
  { packetType := .noValidPkt, packetSize := 0, packet := .zero, addr := 0 }

/-- What `queue_add` writes into a slot. -/
def QData.of (addr : Int) (packet : Packetstream) (packetType : PacketType)
    (packetSize : Nat) : QData :=
  { packetType := packetType
    packetSize := packetSize
    packet := PacketBuffer.zero.memcpy packet packetSize
    addr := addr }

/-- There is no test for a full queue. -/
def queueAdd (queue : Log QData) (addr : Int) (packet : Packetstream)
    (packetType : PacketType) (packetSize : Nat) : Log QData :=
  queue.put qsize (QData.of addr packet packetType packetSize)

/-- What `queue_get` leaves in the slot. -/
def QData.taken (data : QData) : QData :=
  { data with packetType := .noValidPkt }

/-- `queue_get` marks the entry it takes as invalid. -/
def queueGet (queue : Log QData) : Log QData :=
  queue.take qsize QData.taken

/-- A queue without packets. -/
def queueInit : Log QData :=
  ⟨⟨fun _ => QData.empty, 0, 0⟩, [], []⟩

/-! ## The NMRA packet pool -/

/-- Idle address, 127 basic addresses and 10239 long ones. -/
def maxNmraAddress : Nat := 10367

/-- The identifier of the idle packet. -/
def nmraIdle : Nat := 128

/-- The packets that are refreshed for an NMRA address. -/
structure NmraPacket where
  packet : PacketBuffer
  packetSize : Nat
  fxPacket : PacketBuffer
  fxPacketSize : Nat
  deriving DecidableEq

/-- The arguments of a completed update. -/
structure NmraUpdate where
  adr : Nat
  packet : Packetstream
  packetSize : Nat
  fxPacket : Packetstream
  fxPacketSize : Nat
  deriving DecidableEq, Repr

/-- The memory of a packet after an update. -/
def NmraPacket.store (memory : NmraPacket) (update : NmraUpdate) : NmraPacket :=
  { packet := memory.packet.memcpy update.packet update.packetSize
    packetSize := update.packetSize
    fxPacket := memory.fxPacket.memcpy update.fxPacket update.fxPacketSize
    fxPacketSize := update.fxPacketSize }

/-- The packets of all NMRA locomotives, with the order in which their addresses were entered. -/
structure NmraPacketPool extends Known Nat where
  packets : Nat → Option NmraPacket
  /-- Held for ever after a failed allocation. -/
  locked : Bool
  /-- The updates that were completed, the last one at the end. -/
  updates : List NmraUpdate

/-- The search in `update_NMRAPacketPool`; it looks at one entry more than there
are known addresses. -/
def NmraPacketPool.found (pool : NmraPacketPool) (adr : Nat) : Bool :=
  pool.search (pool.nrOfKnownAddresses + 1) adr

/-- `none` when the caller waits for the mutex.  `malloc` is the memory an
allocation would yield, with whatever it contains, or `none` when it fails. -/
def updateNmraPacketPool (pool : NmraPacketPool) (malloc : Option NmraPacket)
    (update : NmraUpdate) : Option NmraPacketPool :=
  let found := pool.found update.adr
  if pool.locked then none
  else
    match pool.packets update.adr <|> malloc with
    | none => some { pool with locked := true }
    | some memory =>
        some
          { toKnown := pool.enter nmraIdle update.adr found
            packets := Function.update pool.packets update.adr (some (memory.store update))
            locked := false
            updates := pool.updates ++ [update] }

/-- `111111111111111 0 11111111 0 00000000 0 11111111 1`. -/
def idlePacket : Bitstream :=
  List.replicate 15 true ++ [false] ++ List.replicate 8 true ++ List.replicate 10 false ++
    List.replicate 9 true

/-- A pool before its first update. -/
def NmraPacketPool.empty : NmraPacketPool :=
  { knownAddresses := fun _ => 0
    nrOfKnownAddresses := 0
    packets := fun _ => none
    locked := false
    updates := [] }

/-- `none` when the translation is still running, or when it yields no bytes and
the idle data cannot be computed. -/
def initNmraPacketPool (nmradccTrV : Int) (fuel : Nat) (malloc : Option NmraPacket) :
    Option NmraPacketPool :=
  match translateBitstream2Packetstream nmradccTrV fuel idlePacket false with
  | none => none
  | some (j, idlePktstr) =>
      if j = 0 then none
      else updateNmraPacketPool .empty malloc ⟨nmraIdle, idlePktstr, j, idlePktstr, j⟩

/-! ## The Maerklin packet pool -/

/-- The number of entries of the Maerklin pool. -/
def maxMarklinAddress : Nat := 256

/-- The address of the idle packet. -/
def maerklinIdle : Nat := 81

/-- The packets that are refreshed for a Maerklin address. -/
structure MaerklinPacket where
  packet : Packetstream
  fPackets : Fin 4 → Packetstream

/-- The arguments of an update. -/
structure MaerklinUpdate where
  adr : Nat
  packets : MaerklinPacket

/-- The packets of all Maerklin locomotives, with the order of their addresses. -/
structure MaerklinPacketPool extends Known Nat where
  packets : Nat → MaerklinPacket
  /-- The updates so far, the last one at the end. -/
  updates : List MaerklinUpdate

/-- The address is among those that were entered. -/
def MaerklinPacketPool.found (pool : MaerklinPacketPool) (adr : Nat) : Bool :=
  pool.search pool.nrOfKnownAddresses adr

/-- `update_MaerklinPacketPool`: the idle address gives way to the first locomotive. -/
def updateMaerklinPacketPool (pool : MaerklinPacketPool) (update : MaerklinUpdate) :
    MaerklinPacketPool :=
  { toKnown := pool.enter maerklinIdle update.adr (pool.found update.adr)
    packets := Function.update pool.packets update.adr update.packets
    updates := pool.updates ++ [update] }

/-! The bytes that send one half of a trit. -/

/-- The byte of a high half trit. -/
def hi : BitVec 8 := 0

/-- The byte of a low half trit. -/
def lo : BitVec 8 := 63

/-- The packet of the idle address. -/
def maerklinIdlePacket : Packetstream :=
  (List.replicate 4 [hi, lo]).flatten ++ (List.replicate 5 [lo, lo]).flatten

/-- The packets of the other addresses keep what the memory contains. -/
def initMaerklinPacketPool (memory : Nat → MaerklinPacket) : MaerklinPacketPool :=
  { toKnown := Known.init (fun _ => 0) maerklinIdle
    packets := Function.update memory maerklinIdle
      ⟨maerklinIdlePacket, fun _ => maerklinIdlePacket⟩
    updates := [] }

/-! ## The bus -/

/-- `DDL_DATA`, as far as the composers and the refresh use it. -/
structure DdlData where
  nmradccTrV : Int
  /-- `ENABLED_PROTOCOLS`. -/
  maerklinEnabled : Bool
  nmradccEnabled : Bool
  queue : Log QData
  nmraPacketPool : NmraPacketPool
  maerklinPacketPool : MaerklinPacketPool
  lastRefreshedMaerklinLoco : Nat
  lastRefreshedMaerklinFx : Int
  lastRefreshedNmraLoco : Nat
  lastRefreshedNmraFx : Int
  maerklinRefresh : Bool

/-- The packet queue and the pools after `init_bus_DDL`; `memory` is what the
allocated data contains, with the configuration in it. -/
def initBusDDL (fuel : Nat) (malloc : Option NmraPacket) (memory : DdlData) : Option DdlData :=
  let maerklinPacketPool :=
    if memory.maerklinEnabled then initMaerklinPacketPool memory.maerklinPacketPool.packets
    else { memory.maerklinPacketPool with nrOfKnownAddresses := 0 }
  let nmraPacketPool :=
    if memory.nmradccEnabled then initNmraPacketPool memory.nmradccTrV fuel malloc
    else some memory.nmraPacketPool
  nmraPacketPool.map fun nmraPacketPool =>
    { memory with
      queue := queueInit
      nmraPacketPool := nmraPacketPool
      maerklinPacketPool := maerklinPacketPool
      lastRefreshedMaerklinLoco := 0
      lastRefreshedMaerklinFx := -1
      lastRefreshedNmraLoco := 0
      lastRefreshedNmraFx := -1
      maerklinRefresh := memory.maerklinEnabled }

end Srcpd.Ddl
