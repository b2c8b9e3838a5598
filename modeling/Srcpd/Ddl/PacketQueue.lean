import Srcpd.Ddl.State

/-!
# The packet queue of a DDL bus

The bus thread and the delayed accessory threads add packets; the refresh thread
takes them out as long as power is on.  While power is off only additions
happen.  Unlike the command queues this queue is never tested for being full.
-/

namespace Srcpd.Ddl

open Srcpd.Queue Srcpd.Transition

/-- What the composers and the refresh thread do to the queue. -/
inductive QueueAction
  | add (addr : Int) (packet : Packetstream) (packetType : PacketType) (packetSize : Nat)
  | get

/-- A call of `queue_add` or of `queue_get`. -/
def queueStep : Step (Log QData) QueueAction
  | queue, .add addr packet packetType packetSize =>
      some (queueAdd queue addr packet packetType packetSize)
  | queue, .get => some (queueGet queue)

/-- An addition leaves one slot unused. -/
def HasRoom (queue : Log QData) : QueueAction → Prop
  | .add _ _ _ _ => queue.ring.length qsize + 1 < qsize
  | .get => True

theorem queueInit_fifo : queueInit.Fifo qsize :=
  ⟨⟨by decide, by decide⟩, rfl⟩

theorem queueStep_fifo {queue next : Log QData} {action : QueueAction}
    (fifo : queue.Fifo qsize) (room : HasRoom queue action)
    (taken : queueStep queue action = some next) : next.Fifo qsize := by
  cases action with
  | add addr packet packetType packetSize =>
      cases taken
      exact fifo.put room _
  | get =>
      cases taken
      exact (fifo.take QData.taken).1

theorem queueStep_not_delivers {queue next : Log QData} {action : QueueAction}
    (fifo : queue.Fifo qsize) (full : ¬ HasRoom queue action)
    (taken : queueStep queue action = some next) : ¬ next.Delivers qsize QData.taken := by
  cases action with
  | add addr packet packetType packetSize =>
      cases taken
      exact fifo.not_delivers_put (Nat.le_of_not_lt full) _
  | get => exact absurd trivial full

theorem queueStep_holdsAlong_iff (actions : List QueueAction) :
    HoldsAlong queueStep (Log.Delivers qsize QData.taken) queueInit actions ↔
      MeetsAlong queueStep HasRoom queueInit actions := by
  have sound (queue : Log QData) (fifo : queue.Fifo qsize) :
      queue.Delivers qsize QData.taken := fifo.delivers QData.taken
  apply holdsAlong_iff_meetsAlong sound _ _ queueInit_fifo
  · intro queue action next fifo room taken
    exact queueStep_fifo fifo room taken
  · intro queue action next fifo full taken
    exact queueStep_not_delivers fifo full taken

/-- What is added is the address, the type, the length and the bytes. -/
theorem QData.of_content (addr : Int) (packetType : PacketType) {packet : Packetstream}
    {packetSize : Nat} (inPacket : packetSize ≤ packet.length) (inBuffer : packetSize ≤ pktsize) :
    let data := QData.of addr packet packetType packetSize
    data.addr = addr ∧ data.packetType = packetType ∧ data.packetSize = packetSize ∧
      data.packet.val.take data.packetSize = packet.take packetSize := by
  refine ⟨rfl, rfl, rfl, ?_⟩
  have copied := PacketBuffer.zero.take_memcpy (le_trans (Nat.min_le_left _ _) inPacket :
    min packetSize pktsize ≤ packet.length)
  rw [Nat.min_eq_left inBuffer] at copied
  exact copied

/-- In every sequence of additions and reads all packets are delivered in every
state reached if and only if every addition finds at most `QSIZE - 2` packets in
the queue; and what is delivered is what was added. -/
theorem packetQueue_delivers_iff (actions : List QueueAction) :
    (HoldsAlong queueStep (Log.Delivers qsize QData.taken) queueInit actions ↔
      MeetsAlong queueStep HasRoom queueInit actions) ∧
    ∀ (queue : Log QData) (addr : Int) (packet : Packetstream) (packetType : PacketType)
      (packetSize : Nat), packetSize ≤ packet.length → packetSize ≤ pktsize →
      ∃ data, (queueAdd queue addr packet packetType packetSize).added = queue.added ++ [data] ∧
        data.addr = addr ∧ data.packetType = packetType ∧ data.packetSize = packetSize ∧
        data.packet.val.take data.packetSize = packet.take packetSize := by
  constructor
  · exact queueStep_holdsAlong_iff actions
  · intro queue addr packet packetType packetSize inPacket inBuffer
    exact ⟨_, rfl, QData.of_content addr packetType inPacket inBuffer⟩

/-- One packet of a locomotive keeps its content and is delivered. -/
theorem packetQueue_delivers_one :
    HoldsAlong queueStep (Log.Delivers qsize QData.taken) queueInit
        [.add 3 [hi, lo] .m2LocoPkt 2, .get] ∧
      ∃ data, (queueAdd queueInit 3 [hi, lo] .m2LocoPkt 2).added = queueInit.added ++ [data] ∧
        data.addr = 3 ∧ data.packetType = .m2LocoPkt ∧ data.packetSize = 2 ∧
        data.packet.val.take data.packetSize = [hi, lo].take 2 := by
  constructor
  · apply (packetQueue_delivers_iff _).1.mpr
    simp [MeetsAlong, HasRoom, queueStep, queueInit, Ring.length, qsize]
  · exact (packetQueue_delivers_iff []).2 _ _ _ _ _ (by decide) (by decide)

/-- Additions alone fill the queue. -/
theorem not_meetsAlong_additions {queue : Log QData} {waiting more : Nat}
    (fifo : queue.Fifo qsize) (length : queue.ring.length qsize = waiting)
    (many : qsize ≤ waiting + more) (addr : Int) (packet : Packetstream)
    (packetType : PacketType) (packetSize : Nat) :
    ¬ MeetsAlong queueStep HasRoom queue
      (List.replicate more (.add addr packet packetType packetSize)) := by
  induction more generalizing queue waiting with
  | zero =>
      have below := fifo.valid.length_lt
      omega
  | succ more ih =>
      intro meets
      obtain ⟨room, rest⟩ := meets _ rfl
      have added := congrArg List.length (fifo.valid.contents_put room
        (QData.of addr packet packetType packetSize))
      rw [List.length_append, Ring.length_contents, Ring.length_contents, length] at added
      exact ih (fifo.put room _) added (by rw [List.length_singleton]; omega) rest

/-- While power is off, 2000 packets for one locomotive arrive. -/
theorem queueStep_overrun :
    ¬ HoldsAlong queueStep (Log.Delivers qsize QData.taken) queueInit
      (List.replicate 2000 (.add 3 (List.replicate 18 lo) .m2LocoPkt 18)) := by
  intro holds
  have empty : queueInit.ring.length qsize = 0 := rfl
  have many : qsize ≤ 0 + 2000 := by decide
  apply not_meetsAlong_additions queueInit_fifo empty many
  exact (queueStep_holdsAlong_iff _).mp holds

end Srcpd.Ddl
