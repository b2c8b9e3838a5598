import Srcpd.Ddl.MaerklinPool
import Srcpd.Ddl.Motorola

/-!
# The Maerklin pool after any commands

`comp_maerklin_2` and `comp_maerklin_4` store five packets for a locomotive: one for
speed and direction and one for each function.  In the last four trits of all of them
the first bits are the speed, and the second ones say which packet it is.
`pool_decodes` says that the pool has what was commanded last for each address.
-/

namespace Srcpd.Ddl

open Srcpd.Motorola Srcpd.Pool

/-- A call of one of the two composers. -/
structure Type2Command where
  /-- `comp_maerklin_4`, for 255 addresses. -/
  extended : Bool
  address : Int
  direction : Int
  speed : Int
  func : Bool
  f : Fin 4 → Bool

/-- The composer that the bus thread calls for a command. -/
def Type2Command.process (ddl : DdlData) (command : Type2Command) : Nat × DdlData :=
  if command.extended then
    compMaerklin4 ddl command.address command.direction command.speed command.func command.f
  else compMaerklin2 ddl command.address command.direction command.speed command.func command.f

/-- The calls one after the other. -/
def processAll (ddl : DdlData) (commands : List Type2Command) : DdlData :=
  commands.foldl (fun ddl command => (command.process ddl).2) ddl

/-- Accepted, with a speed other than the obsolete one. -/
structure Type2Command.Proper (command : Type2Command) : Prop where
  accepted : maerklin2Accepts (if command.extended then 255 else 80) command.address
    command.direction command.speed = true
  speed : command.speed = 0 ∨ 2 ≤ command.speed

/-- What the five packets for a command have to tell. -/
def Type2Command.parts (command : Type2Command) : List Part :=
  partsOf command.direction command.f

/-- The five packets of an entry. -/
def MaerklinPacket.all (entry : MaerklinPacket) : List Packetstream :=
  entry.packet :: (List.finRange 4).map entry.fPackets

/-- What one of the packets of a command tells a decoder. -/
def Type2Command.message (command : Type2Command) (part : Part) : Message :=
  messageOf command.address command.func command.speed.toNat part

/-- The packets tell the parts of the command in their order. -/
def MaerklinPacket.Decodes (entry : MaerklinPacket) (command : Type2Command) : Prop :=
  List.Forall₂ (fun packet part => readPacket packet = some (command.message part)) entry.all
    command.parts

theorem MaerklinPacket.Decodes.exists_part {entry : MaerklinPacket} {command : Type2Command}
    (decodes : entry.Decodes command) {packet : Packetstream} (stored : packet ∈ entry.all) :
    ∃ part, readPacket packet = some (command.message part) := by
  unfold MaerklinPacket.Decodes at decodes
  generalize entry.all = packets, command.parts = parts at decodes stored
  induction decodes with
  | nil => cases stored
  | cons read _ ih =>
      rcases List.mem_cons.mp stored with rfl | rest
      · exact ⟨_, read⟩
      · exact ih rest

/-! ## Bits of the speed trits -/

/-- The pairs behind the address and the function of a packet. -/
def speedPairs (packet : Packetstream) : Option (List (Bool × Bool)) :=
  (readPairs packet).map fun pairs => pairs.drop 5

/-- The first halves of the speed trits, which carry the speed. -/
def firstBits (packet : Packetstream) : Option (List Bool) :=
  (speedPairs packet).map fun pairs => pairs.map Prod.fst

/-- The second halves of the speed trits, which carry direction or a function. -/
def secondBits (packet : Packetstream) : Option (List Bool) :=
  (speedPairs packet).map fun pairs => pairs.map Prod.snd

/-- What is read depends on the bits: the first ones are the speed, and the second ones
differ from these and say the part. -/
theorem bits_of_readPacket {packet : Packetstream} {message : Message} {part : Part}
    (read : readPacket packet = some message) (new : message.part = some part) :
    ∃ first second, firstBits packet = some first ∧ secondBits packet = some second ∧
      message.speed = speedOf first ∧ second ≠ first ∧
      readPart message.speed second = some part := by
  obtain ⟨pairs, paired, read⟩ := Option.bind_eq_some_iff.mp read
  obtain ⟨tail, tailed, rfl⟩ := Option.map_eq_some_iff.mp read
  unfold readTail at tailed
  split at tailed
  · rename_i f0 a b c d behind
    have five : pairs.drop 5 = [a, b, c, d] := by
      have more := congrArg (List.drop 1) behind
      rwa [List.drop_drop] at more
    refine ⟨[a.1, b.1, c.1, d.1], [a.2, b.2, c.2, d.2], ?_, ?_, ?_⟩
    · rw [firstBits, speedPairs, paired, Option.map_some, Option.map_some, five]
      rfl
    · rw [secondBits, speedPairs, paired, Option.map_some, Option.map_some, five]
      rfl
    · dsimp only at tailed
      split at tailed
      · cases tailed
      · split at tailed
        · cases tailed
          cases new
        · rename_i differ
          obtain ⟨other, said, rfl⟩ := Option.map_eq_some_iff.mp tailed
          cases new
          exact ⟨rfl, differ, said⟩
  · cases tailed

/-- With one speed two packets that say different things differ in their second bits. -/
theorem part_unique {packet other : Packetstream} {message message' : Message}
    {part part' : Part} (read : readPacket packet = some message)
    (read' : readPacket other = some message') (new : message.part = some part)
    (new' : message'.part = some part') (speed : message.speed = message'.speed)
    (same : secondBits packet = secondBits other) : part = part' := by
  obtain ⟨first, second, -, seconds, -, -, said⟩ := bits_of_readPacket read new
  obtain ⟨first', second', -, seconds', -, -, said'⟩ := bits_of_readPacket read' new'
  rw [seconds, seconds', Option.some.injEq] at same
  subst same
  rw [speed, said'] at said
  exact (Option.some.inj said).symm

/-! ## One command -/

section Commands

variable {command : Type2Command} {ddl : DdlData}

theorem Type2Command.Proper.range (proper : command.Proper) :
    (0 ≤ command.address ∧ command.address ≤ if command.extended then 255 else 80) ∧
      0 ≤ command.speed ∧ command.speed ≤ 15 ∧ command.speed ≠ 1 := by
  obtain ⟨accepted, speed⟩ := proper
  simp only [maerklin2Accepts, Bool.not_eq_true', Bool.or_eq_false_iff,
    decide_eq_false_iff_not] at accepted
  refine ⟨⟨by omega, by omega⟩, by omega, ?_, by omega⟩
  by_cases back : command.direction = 0
  · rw [if_pos back] at accepted
    omega
  · rw [if_neg back] at accepted
    omega

/-- The entry that a command stores. -/
def Type2Command.entry (command : Type2Command) : MaerklinPacket :=
  let packet := maerklin2Packet command.address command.direction command.speed command.func
    (!command.extended)
  ⟨packet, fun j => functionPacket packet command.speed.natAbs j (command.f j)⟩

theorem Type2Command.process_eq (command : Type2Command) (ddl : DdlData) :
    command.process ddl = compMaerklinType2 (if command.extended then 255 else 80)
      (!command.extended) ddl command.address command.direction command.speed command.func
      command.f := by
  rw [process]
  cases command.extended <;> rfl

theorem Type2Command.Proper.decodes (proper : command.Proper) :
    command.entry.Decodes command := by
  obtain ⟨-, lower, upper, notOne⟩ := proper.range
  obtain ⟨direction, function⟩ := readPacket_maerklin2Packet command.address command.direction
    command.func (!command.extended) ⟨lower, upper⟩
  have sent := sentSpeed_of_ne_one (!command.extended) lower notOne
  rw [sent] at direction function
  show List.Forall₂ _ (_ :: (List.finRange 4).map command.entry.fPackets)
    (_ :: (List.finRange 4).map fun j : Fin 4 => Part.function (j + 1) (command.f j))
  rw [List.forall₂_cons]
  refine ⟨direction, ?_⟩
  rw [List.forall₂_map_left_iff, List.forall₂_map_right_iff]
  apply List.forall₂_same.mpr
  intro j _
  exact function j (command.f j)

/-- A command stores its packets and queues one of them. -/
theorem Type2Command.Proper.process (proper : command.Proper) :
    let next := (command.process ddl).2
    next.maerklinPacketPool.packets =
        Function.update ddl.maerklinPacketPool.packets command.address.toNat command.entry ∧
      ∃ data, next.queue.added = ddl.queue.added ++ [data] ∧ data.addr = command.address ∧
        data.packet.val.take data.packetSize ∈ command.entry.all := by
  have length := length_maerklin2Packet command.address command.direction command.speed
    command.func (!command.extended)
  have whole (addr : Int) (packetType : PacketType) {packet : Packetstream}
      (eighteen : packet.length = 18) :
      (QData.of addr packet packetType 18).packet.val.take 18 = packet := by
    have content := (QData.of_content addr packetType (Nat.le_of_eq eighteen.symm)
      (show 18 ≤ pktsize by decide)).2.2.2
    exact content.trans (List.take_of_length_le (Nat.le_of_eq eighteen))
  rw [Type2Command.process_eq, compMaerklinType2,
    if_neg (by rw [proper.accepted]; decide)]
  refine ⟨rfl, ?_⟩
  dsimp only
  split
  · refine ⟨_, rfl, rfl, ?_⟩
    have bytes := whole command.address .m2LocoPkt length
    exact bytes.symm ▸ List.mem_cons_self
  · rename_i fx _
    refine ⟨_, rfl, rfl, ?_⟩
    have bytes := whole command.address .m2FxPkt
      ((length_functionPacket _ command.speed.natAbs fx (command.f fx)).trans length)
    exact bytes.symm ▸ List.mem_cons_of_mem _ (List.mem_map_of_mem (List.mem_finRange fx))

theorem Type2Command.Proper.process_of_ne (proper : command.Proper) {address : Int}
    (lower : 0 ≤ address) (ne : command.address ≠ address) :
    (command.process ddl).2.maerklinPacketPool.packets address.toNat =
      ddl.maerklinPacketPool.packets address.toNat := by
  have other : address.toNat ≠ command.address.toNat := by
    have positive := proper.range.1.1
    omega
  rw [proper.process.1, Function.update_of_ne other]

end Commands

/-! ## Runs -/

theorem processAll_append (ddl : DdlData) (commands : List Type2Command)
    (command : Type2Command) :
    processAll ddl (commands ++ [command]) = (command.process (processAll ddl commands)).2 := by
  rw [processAll, List.foldl_append, processAll]
  rfl

/-- After any commands the entry for an address is that of its last command. -/
theorem entry_of_lastUpdate {ddl : DdlData} {commands : List Type2Command}
    (proper : ∀ command ∈ commands, command.Proper) {command : Type2Command}
    (last : lastUpdate Type2Command.address commands command.address = some command) :
    (processAll ddl commands).maerklinPacketPool.packets command.address.toNat =
      command.entry := by
  induction commands using List.reverseRecOn with
  | nil => cases last
  | append_singleton commands latest ih =>
      have latestProper := proper latest (List.mem_append_right _ List.mem_cons_self)
      have earlierProper (other : Type2Command) (mem : other ∈ commands) : other.Proper :=
        proper other (List.mem_append_left _ mem)
      rw [lastUpdate_append_singleton] at last
      rw [processAll_append]
      by_cases same : latest.address = command.address
      · rw [if_pos same] at last
        cases last
        rw [latestProper.process.1, Function.update_self]
      · rw [if_neg same] at last
        have mem : command ∈ commands :=
          List.mem_reverse.mp (List.mem_of_find?_eq_some last)
        rw [latestProper.process_of_ne (earlierProper command mem).range.1.1 same]
        exact ih earlierProper last

/-- The pool and the queue after any commands, and what the bits say. -/
structure PoolDecodes (start : DdlData) (commands : List Type2Command) : Prop where
  /-- For every address the packets are read as the last command for it. -/
  last : ∀ command, lastUpdate Type2Command.address commands command.address = some command →
    ((processAll start commands).maerklinPacketPool.packets command.address.toNat).Decodes
      command
  /-- The packet that a command queues is one of those it has just stored. -/
  queued : ∀ before command after, commands = before ++ command :: after →
    let stored := processAll start (before ++ [command])
    ∃ data, stored.queue.added = (processAll start before).queue.added ++ [data] ∧
      data.addr = command.address ∧ data.packet.val.take data.packetSize ∈
        (stored.maerklinPacketPool.packets command.address.toNat).all
  /-- The first bits of every packet are the speed, and the second ones differ from
  them. -/
  bits : ∀ command ∈ commands, ∀ packet ∈ command.entry.all, ∃ first second,
    firstBits packet = some first ∧ secondBits packet = some second ∧
      command.speed = speedOf first ∧ second ≠ first
  /-- Packets that say different things at one speed differ in their second bits. -/
  distinct : ∀ first ∈ commands, ∀ second ∈ commands, first.speed = second.speed →
    ∀ (packet other : Packetstream) (part part' : Part),
      packet ∈ first.entry.all → readPacket packet = some (first.message part) →
      other ∈ second.entry.all → readPacket other = some (second.message part') →
      secondBits packet = secondBits other → part = part'

/-- Whatever was commanded, the pool decodes to it. -/
theorem pool_decodes (start : DdlData) {commands : List Type2Command}
    (proper : ∀ command ∈ commands, command.Proper) : PoolDecodes start commands where
  last := by
    intro command last
    have mem : command ∈ commands := List.mem_reverse.mp (List.mem_of_find?_eq_some last)
    rw [entry_of_lastUpdate proper last]
    exact (proper command mem).decodes
  queued := by
    rintro before command after rfl
    have latestProper := proper command (List.mem_append_right _ List.mem_cons_self)
    dsimp only
    rw [processAll_append]
    obtain ⟨stored, data, added, addr, mem⟩ := latestProper.process
    refine ⟨data, added, addr, ?_⟩
    rw [stored, Function.update_self]
    exact mem
  bits := by
    intro command mem packet stored
    obtain ⟨part, read⟩ := (proper command mem).decodes.exists_part stored
    obtain ⟨first, second, firsts, seconds, speed, differ, -⟩ := bits_of_readPacket read rfl
    have positive := (proper command mem).range.2.1
    change command.speed.toNat = speedOf first at speed
    exact ⟨first, second, firsts, seconds, by omega, differ⟩
  distinct := by
    intro first _ second _ speed packet other part part' _ read _ read' same
    have speeds : (first.message part).speed = (second.message part').speed :=
      congrArg Int.toNat speed
    exact part_unique read read' rfl rfl speeds same

/-- Speed 14 with F3, of which the code is replaced, and then speed 3 without F1. -/
theorem pool_decodes_replaced :
    PoolDecodes maerklinBus [⟨false, 24, 1, 14, true, fun j => j == 2⟩,
      ⟨true, 24, 0, 3, true, fun _ => false⟩] := by
  apply pool_decodes
  intro command mem
  simp only [List.mem_cons, List.not_mem_nil, or_false] at mem
  rcases mem with rfl | rfl
  · exact ⟨by decide, by decide⟩
  · exact ⟨by decide, by decide⟩

end Srcpd.Ddl
