import Srcpd.Command.Gl

/-!
# The command queues of a bus

The queues for locomotives, accessories and service mode differ in their size,
in the commands they take and in how an append fills a slot.  All of them test
for a full queue before they lock it, so that all of them lose commands in the
same way; `commandQueues_deliver_iff` is the exact condition under which they do
not.
-/

namespace Srcpd.Command

open Srcpd.Queue Srcpd.Transition

/-! ## Accessories -/

/-- `MAXGAPORT`, the number of times that each record keeps. -/
def maxgaport : Nat := 8

/-- Accessory decoder; the queue uses these fields of it. -/
structure GaState where
  protocol : Char
  id : Int
  port : Int
  action : Int
  activetime : Int
  /-- Time of last activation, each port gets its own time value. -/
  tv : Int → Nat

/-- The accessories of one bus, and the clock. -/
structure Ga where
  numberOfGa : Int
  gastate : Int → GaState
  clock : Nat

/-- The parameters of `SET GA`, as they are handed to the queue. -/
structure GaCommand where
  addr : Int
  port : Int
  action : Int
  activetime : Int
  deriving DecidableEq, Repr

/-- An entry keeps what the slot held in the fields that are not written. -/
def gaEntry (ga : Ga) (command : GaCommand) (slot : GaState) : GaState :=
  { slot with
    protocol := (ga.gastate command.addr).protocol
    action := command.action
    port := command.port
    activetime := command.activetime
    tv := Function.update slot.tv command.port ga.clock
    id := command.addr }

/-- `QUEUELEN` of the accessories. -/
def gaQueuelen : Nat := 50

/-- The queue of the accessory commands: an entry is accepted for an address in the table. -/
def gaQueue : Kind GaState Ga GaCommand where
  capacity := gaQueuelen
  accepts ga command := 0 < command.addr && command.addr ≤ ga.numberOfGa
  fill := gaEntry

/-- `enqueueGA`: a full queue prohibits the command for now. -/
def enqueueGA (ga : Ga) (queue : Log GaState) (command : GaCommand) : SrcpCode × Log GaState :=
  if 0 < command.addr ∧ command.addr ≤ ga.numberOfGa then
    if gaQueue.isFull queue.ring then (.temporarilyProhibited, queue)
    else
      (.ok, queue.put gaQueuelen (gaEntry ga command (queue.ring.slots queue.ring.inIndex)))
  else (.wrongValue, queue)

theorem reachable_enqueueGA {tested : Nat → Option GaCommand} {session : Nat}
    (idle : tested session = none) (ga : Ga) (queue : Log GaState) (command : GaCommand) :
    Reachable gaQueue.step ⟨queue, ga, tested⟩ ⟨(enqueueGA ga queue command).2, ga, tested⟩ := by
  have same : (enqueueGA ga queue command).2 = gaQueue.enqueue ga queue command := by
    have accepts : gaQueue.accepts ga command =
      (decide (0 < command.addr) && decide (command.addr ≤ ga.numberOfGa)) := rfl
    by_cases accepted : 0 < command.addr ∧ command.addr ≤ ga.numberOfGa
    · by_cases full : gaQueue.isFull queue.ring = true
      · simp [enqueueGA, Kind.enqueue, accepted, full]
      · simp [enqueueGA, Kind.enqueue, accepts, accepted, full]
        rfl
    · rw [enqueueGA, if_neg accepted, Kind.enqueue, accepts, if_pos]
      rw [Bool.or_eq_true, Bool.not_eq_true', ← Bool.decide_and, decide_eq_false_iff_not]
      exact Or.inl accepted
  rw [same]
  exact Kind.reachable_enqueue idle command

/-! ## Service mode -/

/-- What is done with a value in service mode. -/
inductive SmCommandName
  | set
  | get
  | verify
  | init
  | term
  deriving DecidableEq, Repr

/-- How a value in service mode is addressed. -/
inductive SmType
  | register
  | page
  | cv
  | cvBit
  deriving DecidableEq, Repr

/-- A request in service mode. -/
structure SmCommand where
  command : SmCommandName
  type : SmType
  /-- -1 is the separate program track, others are programming on the main. -/
  addr : Int
  typeaddr : Int
  bit : Int
  value : Int
  deriving DecidableEq, Repr

/-- An entry of the service mode queue. -/
structure SmState where
  protocol : String
  protocolversion : Int
  request : SmCommand
  tv : Nat
  deriving DecidableEq, Repr

/-- Defaults to protocol version 1, short addresses. -/
def smEntry (clock : Nat) (command : SmCommand) (_slot : SmState) : SmState :=
  { protocol := "NMRA", protocolversion := 1, request := command, tv := clock }

/-- `QUEUELEN` of the service mode. -/
def smQueuelen : Nat := 2

/-- The queue of the service mode takes every request. -/
def smQueue : Kind SmState Nat SmCommand where
  capacity := smQueuelen
  accepts _ _ := true
  fill := smEntry

/-- `enqueueSM`: a full queue prohibits the request for now. -/
def enqueueSM (clock : Nat) (queue : Log SmState) (command : SmCommand) :
    SrcpCode × Log SmState :=
  if smQueue.isFull queue.ring then (.temporarilyProhibited, queue)
  else
    (.ok, queue.put smQueuelen (smEntry clock command (queue.ring.slots queue.ring.inIndex)))

theorem reachable_enqueueSM {tested : Nat → Option SmCommand} {session : Nat}
    (idle : tested session = none) (clock : Nat) (queue : Log SmState) (command : SmCommand) :
    Reachable smQueue.step ⟨queue, clock, tested⟩
      ⟨(enqueueSM clock queue command).2, clock, tested⟩ := by
  have same : (enqueueSM clock queue command).2 = smQueue.enqueue clock queue command := by
    have accepted : smQueue.accepts clock command = true := rfl
    by_cases full : smQueue.isFull queue.ring = true
    · simp [enqueueSM, Kind.enqueue, full]
    · simp [enqueueSM, Kind.enqueue, accepted, full]
      rfl
  rw [same]
  exact Kind.reachable_enqueue idle command

/-! ## Delivery -/

/-- For each queue, whatever its slots held and whatever the tables say, every
interleaving of any number of sessions with the driver delivers all commands in
every state reached if and only if no append of the interleaving finds the queue
full. -/
theorem commandQueues_deliver_iff (glSlots : Nat → GlState) (gl : Gl)
    (glActions : List (Action Gl GlCommand)) (gaSlots : Nat → GaState) (ga : Ga)
    (gaActions : List (Action Ga GaCommand)) (smSlots : Nat → SmState) (clock : Nat)
    (smActions : List (Action Nat SmCommand)) :
    (HoldsAlong glQueue.step glQueue.Delivers (Producers.init glSlots gl) glActions ↔
        MeetsAlong glQueue.step glQueue.FindsRoom (Producers.init glSlots gl) glActions) ∧
      (HoldsAlong gaQueue.step gaQueue.Delivers (Producers.init gaSlots ga) gaActions ↔
        MeetsAlong gaQueue.step gaQueue.FindsRoom (Producers.init gaSlots ga) gaActions) ∧
      (HoldsAlong smQueue.step smQueue.Delivers (Producers.init smSlots clock) smActions ↔
        MeetsAlong smQueue.step smQueue.FindsRoom (Producers.init smSlots clock) smActions) := by
  refine ⟨?_, ?_, ?_⟩
  · exact Kind.holdsAlong_delivers_iff (by decide) glSlots gl glActions
  · exact Kind.holdsAlong_delivers_iff (by decide) gaSlots ga gaActions
  · exact Kind.holdsAlong_delivers_iff (by decide) smSlots clock smActions

/-- A slot of the queue that nothing was written to. -/
def idleGaSlot : GaState :=
  { protocol := Char.ofNat 0, id := 0, port := 0, action := 0, activetime := 0, tv := fun _ => 0 }

/-- Ten accessories, none of them initialised. -/
def tenAccessories : Ga :=
  { numberOfGa := 10, gastate := fun _ => idleGaSlot, clock := 0 }

/-- Session 0 has 48 commands in the queue; then sessions 0 and 1 both find room
for one more before either of them appends. -/
def overrun : List (Action Ga GaCommand) :=
  let switch : GaCommand := ⟨1, 0, 1, 100⟩
  (List.replicate 48 [.test 0 switch, .append 0]).flatten ++
    [.test 0 switch, .test 1 switch, .append 0, .append 1]

/-- A whole lap of commands that were answered OK vanishes. -/
theorem gaQueue_overrun :
    ¬ HoldsAlong gaQueue.step gaQueue.Delivers
      (Producers.init (fun _ => idleGaSlot) tenAccessories) overrun := by
  intro holds
  have outcome : (run gaQueue.step (Producers.init (fun _ => idleGaSlot) tenAccessories)
      overrun).map (fun state =>
        (state.log.ring.isEmpty, state.log.added.length, state.log.taken.length)) =
      some (true, 50, 0) := by
    decide
  obtain ⟨state, executed, observed⟩ := Option.map_eq_some_iff.mp outcome
  simp only [Prod.mk.injEq] at observed
  obtain ⟨empty, added, taken⟩ := observed
  have same := congrArg List.length ((holds.last executed).seenEmpty empty)
  omega

end Srcpd.Command
