import Srcpd.Ddl.Bus
import Srcpd.Ddl.MaerklinPool
import Srcpd.Transition.Core

/-!
# The reversal code of the first Märklin protocol

A locomotive of the first protocol knows no direction, but reverses at speed code 1.
`comp_maerklin_1` makes this code of a command whose direction is not the cached one,
and stores it in the pool like any other packet, from where the refresh repeats it,
while the cache gets the speed of the command.  `holdsAlong_agrees_iff` says for which
commands pool and cache agree.
-/

namespace Srcpd.Ddl

open Srcpd.Command Srcpd.Motorola Srcpd.Transition

/-- A command for a decoder of the old Maerklin format. -/
structure M1Command where
  addr : Int
  speed : Int
  direction : Int
  funcs : BitVec 32

/-- The bus and the addresses for which a command was processed. -/
structure M1System where
  bus : DdlBus
  commanded : List Int

/-- An initialised locomotive of the first protocol. -/
def IsM1 (gl : Gl) (addr : Int) : Prop :=
  gl.isInitialized addr = true ∧ (gl.glstate addr).protocol = 'M' ∧
    (gl.glstate addr).protocolversion = 1 ∧ addr < 80

instance (gl : Gl) (addr : Int) : Decidable (IsM1 gl addr) :=
  inferInstanceAs (Decidable (_ ∧ _))

/-- What is taken from the queue: the other values are those of the initialisation. -/
def M1Command.gltmp (command : M1Command) (gl : Gl) : GlState :=
  { gl.glstate command.addr with
    id := command.addr
    speed := command.speed
    direction := command.direction
    funcs := command.funcs }

/-- The bus thread processes a command; `memory` is a record in which nothing is
stored. -/
def m1Step (memory : GlState) : Step M1System M1Command := fun system command =>
  if IsM1 system.bus.gl command.addr then
    (sendGl 0 none memory system.bus (command.gltmp system.bus.gl)).map fun bus =>
      { bus := bus, commanded := command.addr :: system.commanded }
  else none

/-- The packets that the refresh repeats. -/
def repeated (ddl : DdlData) (addr : Int) : List Packetstream :=
  let pool := ddl.maerklinPacketPool
  if addr.toNat ∈ pool.list then
    (pool.packets addr.toNat).packet :: (List.finRange 4).map (pool.packets addr.toNat).fPackets
  else []

/-- A packet with the cached speed and F0, and not the reversal code. -/
def AgreesWith (packet : Packetstream) (addr : Int) (loco : GlState) : Prop :=
  ∃ message, readPacket packet = some message ∧ message.code = addressCode addr ∧
    (message.speed : Int) = loco.speed ∧ message.f0 = loco.funcs.getLsbD 0 ∧ message.speed ≠ 1

/-- What is repeated for the locomotives commanded so far agrees with the cache. -/
def M1System.Agrees (system : M1System) : Prop :=
  ∀ addr ∈ system.commanded, repeated system.bus.ddl addr ≠ [] ∧
    ∀ packet ∈ repeated system.bus.ddl addr,
      AgreesWith packet addr (system.bus.gl.glstate addr)

/-- In the ranges of the composer. -/
def M1Command.Sent (command : M1Command) : Prop :=
  0 ≤ command.direction ∧ command.direction ≤ 1 ∧ 0 ≤ command.speed ∧ command.speed ≤ 15

instance (command : M1Command) : Decidable command.Sent :=
  inferInstanceAs (Decidable (_ ∧ _))

/-- A command that is sent keeps the direction and does not ask for speed 1, and one that
is not sent repeats the speed and F0 of the one before. -/
def Keeps (system : M1System) (command : M1Command) : Prop :=
  let loco := system.bus.gl.glstate command.addr
  if command.Sent then command.direction = loco.direction ∧ command.speed ≠ 1
  else command.addr ∈ system.commanded ∧ command.speed = loco.speed ∧
    command.funcs.getLsbD 0 = loco.funcs.getLsbD 0

/-- After the initialisation of the pool, with any locomotives. -/
def M1System.start (ddl : DdlData) (memory : Nat → MaerklinPacket) (gl : Gl) : M1System where
  bus := { ddl := { ddl with maerklinPacketPool := initMaerklinPacketPool memory }, gl := gl }
  commanded := []

/-- Pool and cache agree, and the pool lists no other locomotives. -/
structure M1System.Inv (system : M1System) : Prop where
  agrees : system.Agrees
  range : ∀ addr ∈ system.commanded, 0 < addr ∧ addr < 80
  listed : ∀ addr : Int, 0 < addr → addr < 80 →
    addr.toNat ∈ system.bus.ddl.maerklinPacketPool.list → addr ∈ system.commanded

section Steps

variable {memory : GlState} {system next : M1System} {command : M1Command} {addr : Int}

theorem IsM1.range {gl : Gl} (m1 : IsM1 gl addr) : 0 < addr ∧ addr < 80 := by
  obtain ⟨initialized, -, -, upper⟩ := m1
  have valid := (Gl.isInitialized_iff.mp initialized).1
  simp only [Gl.isValid, Bool.and_eq_true, decide_eq_true_eq] at valid
  exact ⟨valid.1.2, upper⟩

/-- What a step does to pool and cache. -/
theorem m1Step_cases (taken : m1Step memory system command = some next) :
    let loco := system.bus.gl.glstate command.addr
    IsM1 system.bus.gl command.addr ∧ next.commanded = command.addr :: system.commanded ∧
      next.bus.gl = (cacheSetGL system.bus.gl command.addr
        (command.gltmp system.bus.gl)).2 ∧
      next.bus.ddl = (compMaerklin1 system.bus.ddl command.addr command.direction
        (maerklinSpeed (command.gltmp system.bus.gl)) (command.funcs.getLsbD 0)
        loco.direction).2 := by
  rw [m1Step] at taken
  split at taken
  · rename_i m1
    obtain ⟨initialized, motorola, version, upper⟩ := m1
    have first : sentVersion (command.gltmp system.bus.gl) = 1 := by
      have short : ¬ 127 < (command.gltmp system.bus.gl).id := by
        show ¬ 127 < command.addr
        omega
      rw [sentVersion, if_neg short]
      exact version
    have cached : system.bus.loco memory command.addr = system.bus.gl.glstate command.addr := by
      rw [DdlBus.loco, cacheGetGL, if_pos initialized]
      rfl
    rw [sendGl, first,
      if_pos (show (command.gltmp system.bus.gl).protocol = 'M' from motorola)] at taken
    cases taken
    refine ⟨⟨initialized, motorola, version, upper⟩, rfl, rfl, ?_⟩
    show sendMaerklin system.bus.ddl (command.gltmp system.bus.gl)
      (system.bus.loco memory command.addr) 1 = _
    rw [cached, sendMaerklin, if_pos rfl]
    rfl
  · cases taken

theorem accepts_iff (gl : Gl) (range : 0 < command.addr ∧ command.addr < 80) :
    maerklin1Accepts command.addr command.direction (maerklinSpeed (command.gltmp gl)) = true ↔
      command.Sent := by
  have speeds : maerklinSpeed (command.gltmp gl) =
      if command.direction = 2 then 0 else if command.speed = 1 then 2 else command.speed := by
    show (if command.direction = 2 then 0 else
      if command.speed = 1 then command.speed + 1 else command.speed) = _
    split
    · rfl
    · split
      · rename_i one
        rw [one]
        rfl
      · rfl
  rw [speeds]
  simp only [maerklin1Accepts, M1Command.Sent, Bool.not_eq_true', Bool.or_eq_false_iff,
    decide_eq_false_iff_not]
  split
  · omega
  · split <;> omega

/-- An update of an address below the idle one lists it. -/
theorem mem_list_update {pool : MaerklinPacketPool} {adr other : Nat} {entry : MaerklinPacket}
    (small : adr < 80) (small' : other < 80) :
    other ∈ (updateMaerklinPacketPool pool ⟨adr, entry⟩).list ↔
      other = adr ∨ other ∈ pool.list := by
  have entered : (updateMaerklinPacketPool pool ⟨adr, entry⟩).list =
      (if pool.idleOnly maerklinIdle then [] else pool.list) ++
        if pool.found adr then [] else [adr] :=
    Pool.Known.list_enter pool.toKnown maerklinIdle adr (pool.found adr)
  have found : pool.found adr = true ↔ adr ∈ pool.list := Pool.Known.search_iff pool.toKnown adr
  have notIdle : adr ≠ maerklinIdle := by
    rw [maerklinIdle]
    omega
  have notIdle' : other ≠ maerklinIdle := by
    rw [maerklinIdle]
    omega
  rw [entered, List.mem_append]
  by_cases idle : pool.idleOnly maerklinIdle = true
  · have alone : pool.list = [maerklinIdle] := (Pool.Known.idleOnly_iff_list _ _).mp idle
    rw [alone, List.mem_singleton] at found
    rw [if_pos idle, if_neg (fun known => notIdle (found.mp known)), alone, List.mem_singleton,
      List.mem_singleton]
    simp [notIdle']
  · rw [if_neg idle]
    split
    · rename_i known
      constructor
      · rintro (listed | added)
        · exact Or.inr listed
        · cases added
      · rintro (rfl | listed)
        · exact Or.inl (found.mp known)
        · exact Or.inl listed
    · rw [List.mem_singleton]
      exact Or.comm

/-- The cached record after a command, and the others. -/
theorem m1Step_cached (taken : m1Step memory system command = some next) :
    let loco := next.bus.gl.glstate command.addr
    loco.speed = command.speed ∧ loco.funcs = command.funcs ∧
      ∀ other, other ≠ command.addr →
        next.bus.gl.glstate other = system.bus.gl.glstate other := by
  obtain ⟨m1, -, gl, -⟩ := m1Step_cases taken
  have stored := cacheSetGL_of_isInitialized m1.1 (l := command.gltmp system.bus.gl)
  rw [← gl] at stored
  refine ⟨congrArg GlState.speed stored, congrArg GlState.funcs stored, fun other ne => ?_⟩
  rw [gl, cacheSetGL, if_pos (Gl.isInitialized_iff.mp m1.1).1]
  exact Function.update_of_ne ne _ _

/-- A command that is not sent leaves the pool as it is. -/
theorem m1Step_refused (refused : ¬ command.Sent)
    (taken : m1Step memory system command = some next) : next.bus.ddl = system.bus.ddl := by
  obtain ⟨m1, -, -, ddl⟩ := m1Step_cases taken
  have rejected : maerklin1Accepts command.addr command.direction
      (maerklinSpeed (command.gltmp system.bus.gl)) = false :=
    Bool.eq_false_iff.mpr fun accepted => refused ((accepts_iff _ m1.range).mp accepted)
  rw [ddl, compMaerklin1, rejected]
  rfl

/-- A command that is sent stores one packet five times. -/
theorem m1Step_sent (sent : command.Sent) (taken : m1Step memory system command = some next) :
    let packet := maerklin1Packet command.addr command.direction
      (maerklinSpeed (command.gltmp system.bus.gl)) (command.funcs.getLsbD 0)
      (system.bus.gl.glstate command.addr).direction
    next.bus.ddl.maerklinPacketPool = updateMaerklinPacketPool system.bus.ddl.maerklinPacketPool
      ⟨command.addr.toNat, ⟨packet, fun _ => packet⟩⟩ := by
  obtain ⟨m1, -, -, ddl⟩ := m1Step_cases taken
  have accepted := (accepts_iff system.bus.gl m1.range).mpr sent
  rw [ddl, compMaerklin1, accepted]
  rfl

/-- The other locomotives keep what is repeated for them. -/
theorem m1Step_repeated_other (taken : m1Step memory system command = some next)
    (range : 0 < addr ∧ addr < 80) (ne : addr ≠ command.addr) :
    repeated next.bus.ddl addr = repeated system.bus.ddl addr := by
  by_cases sent : command.Sent
  · have m1 := (m1Step_cases taken).1.range
    have pool := m1Step_sent sent taken
    have apart : addr.toNat ≠ command.addr.toNat := by omega
    have listed : addr.toNat ∈ next.bus.ddl.maerklinPacketPool.list ↔
        addr.toNat ∈ system.bus.ddl.maerklinPacketPool.list := by
      rw [pool, mem_list_update (by omega) (by omega)]
      exact or_iff_right apart
    have packets : next.bus.ddl.maerklinPacketPool.packets addr.toNat =
        system.bus.ddl.maerklinPacketPool.packets addr.toNat := by
      rw [pool]
      exact Function.update_of_ne apart _ _
    simp only [repeated, listed, packets]
  · rw [m1Step_refused sent taken]

/-- What is repeated after a command that is sent. -/
theorem m1Step_repeated (sent : command.Sent)
    (taken : m1Step memory system command = some next) :
    repeated next.bus.ddl command.addr = List.replicate 5 (maerklin1Packet command.addr
      command.direction (maerklinSpeed (command.gltmp system.bus.gl)) (command.funcs.getLsbD 0)
      (system.bus.gl.glstate command.addr).direction) := by
  have m1 := (m1Step_cases taken).1.range
  have pool := m1Step_sent sent taken
  have listed : command.addr.toNat ∈ next.bus.ddl.maerklinPacketPool.list := by
    rw [pool, mem_list_update (by omega) (by omega)]
    exact Or.inl rfl
  have packets := congrArg (fun pool => pool.packets command.addr.toNat) pool
  dsimp only [updateMaerklinPacketPool] at packets
  rw [Function.update_self] at packets
  rw [repeated, if_pos listed, packets]
  rfl

/-- The packet of a command that is sent is the cached speed unless it reverses. -/
theorem agreesWith_sent_iff (sent : command.Sent) {loco stored : GlState}
    (speed : stored.speed = command.speed) (funcs : stored.funcs = command.funcs) (gl : Gl) :
    AgreesWith (maerklin1Packet command.addr command.direction
        (maerklinSpeed (command.gltmp gl)) (command.funcs.getLsbD 0) loco.direction)
        command.addr stored ↔
      command.direction = loco.direction ∧ command.speed ≠ 1 := by
  obtain ⟨lower, upper, slow, fast⟩ := sent
  have speeds : maerklinSpeed (command.gltmp gl) =
      if command.speed = 1 then 2 else command.speed := by
    have running : ¬ (command.gltmp gl).direction = 2 := by
      show ¬ command.direction = 2
      omega
    rw [maerklinSpeed, if_neg running]
    show (if command.speed = 1 then command.speed + 1 else command.speed) = _
    split
    · rename_i one
      rw [one]
      rfl
    · rfl
  rw [speeds]
  have read := readPacket_maerklin1Packet command.addr command.direction
    (command.funcs.getLsbD 0) loco.direction
    (show 0 ≤ (if command.speed = 1 then 2 else command.speed) ∧
      (if command.speed = 1 then 2 else command.speed) ≤ 15 by split <;> omega)
  constructor
  · rintro ⟨message, said, -, same, -, notReversal⟩
    rw [read, Option.some.injEq] at said
    subst said
    dsimp only at same notReversal
    by_cases way : command.direction = loco.direction
    · rw [if_neg (not_not.mpr way)] at same
      refine ⟨way, fun one => ?_⟩
      rw [if_pos one, speed, one] at same
      cases same
    · rw [if_pos way] at notReversal
      exact absurd rfl notReversal
  · rintro ⟨way, notOne⟩
    refine ⟨_, read, rfl, ?_, ?_, ?_⟩
    · dsimp only
      rw [if_neg (not_not.mpr way), if_neg notOne, speed]
      omega
    · rw [funcs]
    · dsimp only
      rw [if_neg (not_not.mpr way), if_neg notOne]
      omega

/-- The agreement for the address of a command, in the state behind it. -/
theorem agrees_after_iff (inv : system.Inv) (taken : m1Step memory system command = some next) :
    (repeated next.bus.ddl command.addr ≠ [] ∧
      ∀ packet ∈ repeated next.bus.ddl command.addr,
        AgreesWith packet command.addr (next.bus.gl.glstate command.addr)) ↔
      Keeps system command := by
  obtain ⟨speed, funcs, -⟩ := m1Step_cached taken
  have range := (m1Step_cases taken).1.range
  rw [Keeps]
  by_cases sent : command.Sent
  · rw [if_pos sent, m1Step_repeated sent taken,
      ← agreesWith_sent_iff sent speed funcs system.bus.gl]
    constructor
    · rintro ⟨-, all⟩
      exact all _ List.mem_cons_self
    · intro agrees
      refine ⟨List.cons_ne_nil _ _, fun packet mem => ?_⟩
      rw [List.eq_of_mem_replicate mem]
      exact agrees
  · rw [if_neg sent, m1Step_refused sent taken]
    constructor
    · rintro ⟨some_packet, all⟩
      have listed : command.addr.toNat ∈ system.bus.ddl.maerklinPacketPool.list := by
        by_contra missing
        exact some_packet (if_neg missing)
      have mem := inv.listed command.addr range.1 range.2 listed
      obtain ⟨packet, inside⟩ := List.exists_mem_of_ne_nil _ some_packet
      obtain ⟨message, read, -, same, f0, -⟩ := all packet inside
      obtain ⟨message', read', -, same', f0', -⟩ :=
        (inv.agrees command.addr mem).2 packet inside
      rw [read, Option.some.injEq] at read'
      subst read'
      refine ⟨mem, ?_, ?_⟩
      · rw [← speed, ← same, same']
      · rw [← funcs, ← f0, f0']
    · rintro ⟨mem, sameSpeed, sameF0⟩
      obtain ⟨some_packet, all⟩ := inv.agrees command.addr mem
      refine ⟨some_packet, fun packet inside => ?_⟩
      obtain ⟨message, read, code, same, f0, notReversal⟩ := all packet inside
      refine ⟨message, read, code, ?_, ?_, notReversal⟩
      · rw [speed, sameSpeed, same]
      · rw [funcs, sameF0, f0]

theorem M1System.Inv.step (inv : system.Inv) (keeps : Keeps system command)
    (taken : m1Step memory system command = some next) : next.Inv := by
  obtain ⟨m1, commanded, -, -⟩ := m1Step_cases taken
  constructor
  · intro addr mem
    by_cases same : addr = command.addr
    · subst same
      exact (agrees_after_iff inv taken).mpr keeps
    · rw [commanded] at mem
      have earlier := (List.mem_cons.mp mem).resolve_left same
      rw [m1Step_repeated_other taken (inv.range addr earlier) same,
        (m1Step_cached taken).2.2 addr same]
      exact inv.agrees addr earlier
  · intro addr mem
    rw [commanded] at mem
    rcases List.mem_cons.mp mem with rfl | earlier
    · exact m1.range
    · exact inv.range addr earlier
  · intro addr lower upper listed
    rw [commanded]
    by_cases same : addr = command.addr
    · subst same
      exact List.mem_cons_self
    · apply List.mem_cons_of_mem
      apply inv.listed addr lower upper
      by_cases sent : command.Sent
      · rw [m1Step_sent sent taken, mem_list_update (by have := m1.range; omega) (by omega)]
          at listed
        have range := m1.range
        exact listed.resolve_left (by omega)
      · rwa [m1Step_refused sent taken] at listed

theorem M1System.Inv.broken (inv : system.Inv) (violated : ¬ Keeps system command)
    (taken : m1Step memory system command = some next) : ¬ next.Agrees := by
  intro agrees
  apply violated
  apply (agrees_after_iff inv taken).mp
  apply agrees
  rw [(m1Step_cases taken).2.1]
  exact List.mem_cons_self

end Steps

theorem inv_m1Start (ddl : DdlData) (packets : Nat → MaerklinPacket) (gl : Gl) :
    (M1System.start ddl packets gl).Inv := by
  constructor
  · rintro addr ⟨⟩
  · rintro addr ⟨⟩
  · intro addr lower upper listed
    have idle : (M1System.start ddl packets gl).bus.ddl.maerklinPacketPool.list =
        [maerklinIdle] := Pool.Known.list_init _ _
    rw [idle, List.mem_singleton, maerklinIdle] at listed
    omega

/-- In every run the packets that are repeated agree with the cache in all states
exactly when every command that is sent keeps the direction and is not speed 1, and
every other one repeats what was commanded before. -/
theorem holdsAlong_repeats_iff (memory : GlState) (ddl : DdlData)
    (packets : Nat → MaerklinPacket) (gl : Gl) (commands : List M1Command) :
    HoldsAlong (m1Step memory) M1System.Agrees (M1System.start ddl packets gl) commands ↔
      MeetsAlong (m1Step memory) Keeps (M1System.start ddl packets gl) commands :=
  holdsAlong_iff_meetsAlong (fun _ inv => inv.agrees)
    (fun _ _ _ inv keeps taken => inv.step keeps taken)
    (fun _ _ _ inv violated taken => inv.broken violated taken) (inv_m1Start ddl packets gl)

/-- Locomotive 3 as `INIT 1 GL 3 M 1 14 1` leaves it. -/
def m1Locomotive : Gl where
  configured := true
  numberOfGl := 80
  glstate addr :=
    if addr = 3 then
      { GlState.zero with
        state := 1, protocol := 'M', protocolversion := 1, nFs := 14, nFunc := 1, id := 3 }
    else .zero
  clock := 0

/-- Right after the initialisation of the bus. -/
def m1Start : M1System :=
  .start maerklinBus maerklinBus.maerklinPacketPool.packets m1Locomotive

/-- The stop of the init and then `SET 1 GL 3 1 5 14 0`: the reversal code is repeated. -/
theorem not_repeats :
    ¬ HoldsAlong (m1Step .zero) M1System.Agrees m1Start [⟨3, 0, 0, 0⟩, ⟨3, 5, 1, 0⟩] := by
  intro holds
  have goes_on : (run (m1Step .zero) m1Start [⟨3, 0, 0, 0⟩, ⟨3, 5, 1, 0⟩]).isSome = true := rfl
  obtain ⟨last, executed⟩ := Option.isSome_iff_exists.mp goes_on
  have agrees := holds.last executed
  obtain ⟨middle, stopped, executed⟩ := run_cons_eq_some_iff.mp executed
  obtain ⟨next, reversed, executed⟩ := run_cons_eq_some_iff.mp executed
  cases executed
  have kept : Keeps m1Start ⟨3, 0, 0, 0⟩ := by
    rw [Keeps, if_pos (by decide)]
    exact ⟨rfl, by decide⟩
  have inv : middle.Inv := (inv_m1Start _ _ _).step kept stopped
  have forward : (middle.bus.gl.glstate 3).direction = 0 := by
    rw [(m1Step_cases stopped).2.2.1]
    rfl
  apply inv.broken _ reversed agrees
  intro keeps
  rw [Keeps, if_pos (by decide)] at keeps
  exact absurd (keeps.1.trans forward) (by decide)

end Srcpd.Ddl
