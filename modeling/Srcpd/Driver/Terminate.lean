import Srcpd.Driver.GlCommand

/-!
# Terminating a locomotive that runs

`cacheTermGL` queues a stop command, writes the stop into the record of the
locomotive and erases the record.  Meanwhile the driver takes the command from
the queue, reads the record and sends what is different.  All of these are
separate steps here, of any number of terminating sessions and the driver.

`stopsTransmitted_iff` says when the stop reaches the locomotive: what the
driver reads has to differ from the stop.  The steps of `cacheTermGL` do not
see to that.
-/

namespace Srcpd.Driver

open Srcpd.Command Srcpd.Queue Srcpd.Transition

/-! ## What a call appends to the queue -/

/-- Entries were appended at most. -/
structure Grows (queue next : Log GlState) : Prop where
  fifo : queue.Fifo glQueuelen → next.Fifo glQueuelen
  added : queue.added <+: next.added
  taken : next.taken = queue.taken

theorem Grows.refl (queue : Log GlState) : Grows queue queue :=
  ⟨id, List.prefix_rfl, rfl⟩

theorem Grows.trans {first second third : Log GlState} (before : Grows first second)
    (after : Grows second third) : Grows first third where
  fifo := fun fifo => after.fifo (before.fifo fifo)
  added := before.added.trans after.added
  taken := after.taken.trans before.taken

theorem enqueueInitializedGL_grows (gl : Gl) (queue : Log GlState) (command : GlCommand) :
    Grows queue (enqueueInitializedGL gl queue command).2 := by
  rw [enqueueInitializedGL]
  split
  · exact Grows.refl queue
  · rename_i notFull
    constructor
    · intro fifo
      rw [Bool.not_eq_true, Kind.isFull_eq_false (by decide)] at notFull
      exact fifo.put notFull _
    · exact List.prefix_append _ _
    · rfl

theorem cacheInitGL_grows (driver : GlDriver) (gl : Gl) (queue : Log GlState) (addr : Int)
    (protocol : Char) (protoversion nFs nFunc : Int) :
    Grows queue (cacheInitGL driver gl queue addr protocol protoversion nFs nFunc).2.2 := by
  rcases cacheInitGL_cases driver gl queue addr protocol protoversion nFs nFunc with
    ⟨-, -, -, result⟩ | ⟨-, -, unchanged⟩
  · rw [result]
    exact enqueueInitializedGL_grows _ _ _
  · rw [unchanged]
    exact Grows.refl queue

theorem enqueueGL_grows (driver : GlDriver) (gl : Gl) (queue : Log GlState)
    (command : GlCommand) : Grows queue (enqueueGL driver gl queue command).2.2 := by
  rw [enqueueGL]
  split
  · dsimp only
    split
    · exact enqueueInitializedGL_grows _ _ _
    · apply (cacheInitGL_grows driver gl queue command.addr 'P' 1 14 1).trans
      exact enqueueInitializedGL_grows _ _ _
  · exact Grows.refl queue

/-- A command answered OK is the last one in the queue. -/
theorem enqueueGL_last {driver : GlDriver} {gl : Gl} {queue : Log GlState} {command : GlCommand}
    (answered : (enqueueGL driver gl queue command).1 = .ok) :
    ∃ before entry, (enqueueGL driver gl queue command).2.2.added = before ++ [entry] ∧
      entry.direction = command.dir := by
  rw [enqueueGL] at answered ⊢
  split at answered
  · rename_i valid
    rw [if_pos valid]
    dsimp only at answered ⊢
    generalize (if gl.isInitialized command.addr = true then (gl, queue)
      else (cacheInitGL driver gl queue command.addr 'P' 1 14 1).2) = bus at answered ⊢
    rw [enqueueInitializedGL] at answered ⊢
    split at answered
    · cases answered
    · rename_i notFull
      rw [if_neg notFull]
      exact ⟨_, _, rfl, rfl⟩
  · cases answered

/-! ## The parties -/

/-- A session in `cacheTermGL`: behind `cacheGetGL`, behind `enqueueGL`, behind
`cacheSetGL`. -/
inductive Termination
  | idle
  | begun (addr : Int) (gltmp : GlState)
  | braked (addr : Int) (gltmp : GlState)
  | stored (addr : Int)

/-- The driver with a command: behind the read of the queue, behind the comparison
with the record, behind the writes to the device. -/
inductive Handler
  | idle
  | dequeued (gltmp : GlState) (stop : Bool)
  | compared (gltmp : GlState) (stop : Bool) (messages : List Message) (store : Option GlState)
  | sent (addr : Int) (store : Option GlState)

/-- A command, the table of slots and the messages sent for it. -/
structure Processed where
  command : GlState
  stop : Bool
  slotmap : Nat → Nat
  messages : List Message

/-- A bus with the terminations of its sessions and the command that the driver handles. -/
structure Bus where
  gl : Gl
  queue : Log GlState
  slotmap : Nat → Nat
  term : Nat → Termination
  handler : Handler
  /-- Which of the commands added to the queue are stops of `cacheTermGL`. -/
  stops : List Nat
  processed : List Processed

/-- What the parties do: calls of `enqueueGL` and inits by other sessions, reports
of the hardware to the driver, the steps of `cacheTermGL` and those of the driver
with a command.  `garbage` is what the local record of the driver contains, and
`accepted` the answer of the Intellibox. -/
inductive Action
  | tick (clock : Nat)
  | enqueue (command : GlCommand)
  | init (addr : Int) (protocol : Char) (protoversion nFs nFunc : Int)
  | report (addr : Int) (l : GlState)
  | slotData (slot addr : Nat)
  | termBegin (session : Nat) (addr : Int)
  | termBrake (session : Nat)
  | termStore (session : Nat)
  | termClear (session : Nat)
  | dequeue
  | read (garbage : GlState) (accepted : Bool)
  | send
  | store

/-- The bus with one termination in another state. -/
def Bus.setTerm (bus : Bus) (session : Nat) (term : Termination) : Bus :=
  { bus with term := Function.update bus.term session term }

/-- First brake if the speed is not 0. -/
def cacheTermGLBrake (driver : GlDriver) (bus : Bus) (session : Nat) (addr : Int)
    (gltmp : GlState) : Bus :=
  if gltmp.speed ≠ 0 then
    let gltmp := { gltmp with speed := 0, state := 2, direction := 2 }
    let result := enqueueGL driver bus.gl bus.queue
      ⟨addr, gltmp.direction, gltmp.speed, gltmp.nFs, gltmp.funcs⟩
    { bus.setTerm session (.braked addr gltmp) with
      gl := result.2.1
      queue := result.2.2
      stops :=
        if result.1 = .ok then bus.stops ++ [result.2.2.added.length - 1] else bus.stops }
  else bus.setTerm session (.stored addr)

/-- One step of anybody. -/
def step (device : Device) (driver : GlDriver) : Step Bus Action
  | bus, .tick clock => some { bus with gl := { bus.gl with clock := clock } }
  | bus, .enqueue command =>
      let result := enqueueGL driver bus.gl bus.queue command
      some { bus with gl := result.2.1, queue := result.2.2 }
  | bus, .init addr protocol protoversion nFs nFunc =>
      let result := cacheInitGL driver bus.gl bus.queue addr protocol protoversion nFs nFunc
      some { bus with gl := result.2.1, queue := result.2.2 }
  | bus, .report addr l =>
      match bus.handler with
      | .idle => some { bus with gl := (cacheSetGL bus.gl addr l).2 }
      | _ => none
  | bus, .slotData slot addr =>
      match bus.handler with
      | .idle => some { bus with slotmap := Function.update bus.slotmap slot addr }
      | _ => none
  | bus, .termBegin session addr =>
      match bus.term session, (cacheGetGL bus.gl addr).2 with
      | .idle, some gltmp => some (bus.setTerm session (.begun addr gltmp))
      | .idle, none => some bus
      | _, _ => none
  | bus, .termBrake session =>
      match bus.term session with
      | .begun addr gltmp => some (cacheTermGLBrake driver bus session addr gltmp)
      | _ => none
  | bus, .termStore session =>
      match bus.term session with
      | .braked addr gltmp =>
          some { bus.setTerm session (.stored addr) with gl := (cacheSetGL bus.gl addr gltmp).2 }
      | _ => none
  | bus, .termClear session =>
      match bus.term session with
      | .stored addr =>
          some { bus.setTerm session .idle with gl := bus.gl.setState addr .zero }
      | _ => none
  | bus, .dequeue =>
      match bus.handler, bus.queue.ring.take glQueuelen id with
      | .idle, some (gltmp, _) =>
          some { bus with
            queue := bus.queue.take glQueuelen id
            handler := .dequeued gltmp (bus.queue.taken.length ∈ bus.stops) }
      | _, _ => none
  | bus, .read garbage accepted =>
      match bus.handler with
      | .dequeued gltmp stop =>
          let glakt := (cacheGetGL bus.gl gltmp.id).2.getD garbage
          (device.handle bus.slotmap accepted gltmp glakt).map fun (messages, store) =>
            { bus with handler := .compared gltmp stop messages store }
      | _ => none
  | bus, .send =>
      match bus.handler with
      | .compared gltmp stop messages store =>
          some { bus with
            handler := .sent gltmp.id store
            processed := bus.processed ++ [⟨gltmp, stop, bus.slotmap, messages⟩] }
      | _ => none
  | bus, .store =>
      match bus.handler with
      | .sent _ none => some { bus with handler := .idle }
      | .sent addr (some l) =>
          some { bus with handler := .idle, gl := (cacheSetGL bus.gl addr l).2 }
      | _ => none

/-- For every stop command of `cacheTermGL` that was processed a stop was sent, and
for the one that is processed now a stop is about to be sent. -/
structure Bus.StopsTransmitted (device : Device) (bus : Bus) : Prop where
  processed : ∀ entry ∈ bus.processed, entry.stop = true →
    ∃ message ∈ entry.messages, device.IsStop entry.slotmap entry.command.id message
  compared : ∀ gltmp messages store, bus.handler = .compared gltmp true messages store →
    ∃ message ∈ messages, device.IsStop bus.slotmap gltmp.id message

/-- What the driver reads for a stop command, the record or, when there is none,
what its local record contains, differs from the command. -/
def ReadsDifference (device : Device) (bus : Bus) : Action → Prop
  | .read garbage _ => ∀ gltmp, bus.handler = .dequeued gltmp true →
      device.Differs bus.slotmap gltmp ((cacheGetGL bus.gl gltmp.id).2.getD garbage)
  | _ => True

/-- No session is in `cacheTermGL`, and no command was processed. -/
structure Bus.Initial (bus : Bus) : Prop where
  fifo : bus.queue.Fifo glQueuelen
  term : ∀ session, bus.term session = .idle
  handler : bus.handler = .idle
  stops : bus.stops = []
  processed : bus.processed = []

/-! ## The invariant -/

/-- A stop that `cacheTermGL` has added is in the queue or was handled. -/
structure Bus.Inv (device : Device) (bus : Bus) : Prop where
  fifo : bus.queue.Fifo glQueuelen
  stops : ∀ n ∈ bus.stops, ∃ entry, bus.queue.added[n]? = some entry ∧ entry.direction = 2
  dequeued : ∀ gltmp, bus.handler = .dequeued gltmp true → gltmp.direction = 2
  transmitted : bus.StopsTransmitted device

variable {device : Device} {driver : GlDriver} {bus next : Bus}

theorem Bus.Initial.inv (initial : bus.Initial) (device : Device) : bus.Inv device where
  fifo := initial.fifo
  stops := by
    intro n mem
    rw [initial.stops] at mem
    cases mem
  dequeued := by
    intro gltmp dequeued
    rw [initial.handler] at dequeued
    cases dequeued
  transmitted := by
    constructor
    · intro entry mem
      rw [initial.processed] at mem
      cases mem
    · intro gltmp messages store compared
      rw [initial.handler] at compared
      cases compared

/-- Appending to the queue keeps the numbers of the stops. -/
theorem Bus.Inv.grow (inv : bus.Inv device) {queue : Log GlState} (grows : Grows bus.queue queue)
    (gl : Gl) : Bus.Inv device { bus with gl := gl, queue := queue } where
  fifo := grows.fifo inv.fifo
  stops := by
    intro n mem
    rcases inv.stops n mem with ⟨entry, found, emergency⟩
    rcases List.getElem?_eq_some_iff.mp found with ⟨before, value⟩
    refine ⟨entry, ?_, emergency⟩
    rw [← value]
    exact List.prefix_iff_getElem?.mp grows.added n before
  dequeued := inv.dequeued
  transmitted := ⟨inv.transmitted.processed, inv.transmitted.compared⟩

/-- A step of a session that leaves the queue and the driver alone. -/
theorem Bus.Inv.setTerm (inv : bus.Inv device) (session : Nat) (term : Termination) :
    (bus.setTerm session term).Inv device :=
  ⟨inv.fifo, inv.stops, inv.dequeued, inv.transmitted.processed, inv.transmitted.compared⟩

theorem Bus.Inv.setGl (inv : bus.Inv device) (gl : Gl) : Bus.Inv device { bus with gl := gl } :=
  ⟨inv.fifo, inv.stops, inv.dequeued, inv.transmitted.processed, inv.transmitted.compared⟩

/-- The stop command of a termination is the last one in the queue. -/
theorem Bus.Inv.brake (inv : bus.Inv device) (driver : GlDriver) (session : Nat) (addr : Int)
    (gltmp : GlState) : (cacheTermGLBrake driver bus session addr gltmp).Inv device := by
  rw [cacheTermGLBrake]
  split
  · dsimp only
    have grown := (inv.setTerm session (.braked addr
      { gltmp with speed := 0, state := 2, direction := 2 })).grow
      (enqueueGL_grows driver bus.gl bus.queue ⟨addr, 2, 0, gltmp.nFs, gltmp.funcs⟩)
      (enqueueGL driver bus.gl bus.queue ⟨addr, 2, 0, gltmp.nFs, gltmp.funcs⟩).2.1
    refine ⟨grown.fifo, ?_, grown.dequeued, grown.transmitted.processed,
      grown.transmitted.compared⟩
    intro n mem
    split at mem
    · rename_i answered
      rcases List.mem_append.mp mem with earlier | last
      · exact grown.stops n earlier
      · rcases enqueueGL_last answered with ⟨before, entry, added, direction⟩
        refine ⟨entry, ?_, direction⟩
        rw [List.mem_singleton.mp last, added]
        simp
    · exact grown.stops n mem
  · exact inv.setTerm session _

/-- What the driver takes from the queue as a stop command is one. -/
theorem Bus.Inv.dequeue (inv : bus.Inv device) {gltmp : GlState} {rest : Queue.Ring GlState}
    (taken : bus.queue.ring.take glQueuelen id = some (gltmp, rest)) :
    Bus.Inv device { bus with
      queue := bus.queue.take glQueuelen id
      handler := .dequeued gltmp (bus.queue.taken.length ∈ bus.stops) } := by
  rcases inv.fifo.take id with ⟨fifo, added⟩
  constructor
  · exact fifo
  · show ∀ n ∈ bus.stops, ∃ entry, (bus.queue.take glQueuelen id).added[n]? = some entry ∧ _
    rw [added]
    exact inv.stops
  · intro command dequeued
    cases command_eq : decide (bus.queue.taken.length ∈ bus.stops) with
    | false =>
        rw [command_eq] at dequeued
        cases dequeued
    | true =>
        rw [command_eq] at dequeued
        cases dequeued
        rcases inv.stops _ (of_decide_eq_true command_eq) with ⟨entry, found, emergency⟩
        rw [← inv.fifo.order, (inv.fifo.valid.take taken).2,
          List.getElem?_append_right le_rfl, Nat.sub_self, List.getElem?_cons_zero,
          Option.some.injEq] at found
        rw [found]
        exact emergency
  · constructor
    · exact inv.transmitted.processed
    · intro _ _ _ compared
      cases compared

/-- The comparison with the record keeps the invariant if a stop command meets a
difference, and only then. -/
theorem Bus.Inv.read_iff (inv : bus.Inv device) {gltmp glakt : GlState} {stop accepted : Bool}
    {messages : List Message} {store : Option GlState}
    (dequeued : bus.handler = .dequeued gltmp stop)
    (handled : device.handle bus.slotmap accepted gltmp glakt = some (messages, store)) :
    Bus.StopsTransmitted device { bus with handler := .compared gltmp stop messages store } ↔
      (stop = true → device.Differs bus.slotmap gltmp glakt) := by
  have stops (isStop : stop = true) := device.handle_stops_iff bus.slotmap
    (inv.dequeued gltmp (by rw [dequeued, isStop])) handled
  constructor
  · intro transmitted isStop
    rw [← stops isStop]
    exact transmitted.compared gltmp messages store (by rw [isStop])
  · intro differs
    constructor
    · exact inv.transmitted.processed
    · intro command sent store' compared
      cases compared
      exact (stops rfl).mpr (differs rfl)

theorem step_inv {action : Action} (inv : bus.Inv device)
    (ok : ReadsDifference device bus action) (taken : step device driver bus action = some next) :
    next.Inv device := by
  cases action with
  | tick clock =>
      cases taken
      exact inv.setGl _
  | enqueue command =>
      cases taken
      exact inv.grow (enqueueGL_grows _ _ _ _) _
  | init addr protocol protoversion nFs nFunc =>
      cases taken
      exact inv.grow (cacheInitGL_grows _ _ _ _ _ _ _ _) _
  | report addr l =>
      rw [step] at taken
      split at taken
      · cases taken
        exact inv.setGl _
      · cases taken
  | slotData slot addr =>
      rw [step] at taken
      split at taken
      · rename_i idle
        cases taken
        refine ⟨inv.fifo, inv.stops, inv.dequeued, inv.transmitted.processed, ?_⟩
        intro gltmp messages store compared
        rw [idle] at compared
        cases compared
      · cases taken
  | termBegin session addr =>
      rw [step] at taken
      split at taken
      · cases taken
        exact inv.setTerm session _
      · cases taken
        exact inv
      · cases taken
  | termBrake session =>
      rw [step] at taken
      split at taken
      · cases taken
        exact inv.brake driver session _ _
      · cases taken
  | termStore session =>
      rw [step] at taken
      split at taken
      · cases taken
        exact (inv.setTerm session _).setGl _
      · cases taken
  | termClear session =>
      rw [step] at taken
      split at taken
      · cases taken
        exact (inv.setTerm session _).setGl _
      · cases taken
  | dequeue =>
      rw [step] at taken
      split at taken
      · rename_i taken'
        cases taken
        exact inv.dequeue taken'
      · cases taken
  | read garbage accepted =>
      rw [step] at taken
      split at taken
      · rename_i gltmp stop dequeued
        rcases Option.map_eq_some_iff.mp taken with ⟨⟨messages, store⟩, handled, rfl⟩
        refine ⟨inv.fifo, inv.stops, ?_, ?_⟩
        · intro _ compared
          cases compared
        · apply (inv.read_iff dequeued handled).mpr
          intro isStop
          exact ok gltmp (by rw [dequeued, isStop])
      · cases taken
  | send =>
      rw [step] at taken
      split at taken
      · rename_i gltmp stop messages store compared
        cases taken
        refine ⟨inv.fifo, inv.stops, ?_, ?_, ?_⟩
        · intro _ sent
          cases sent
        · intro entry mem isStop
          rcases List.mem_append.mp mem with mem | mem
          · exact inv.transmitted.processed entry mem isStop
          · rw [List.mem_singleton.mp mem] at isStop ⊢
            dsimp only at isStop ⊢
            rw [isStop] at compared
            exact inv.transmitted.compared _ _ _ compared
        · intro _ _ _ sent
          cases sent
      · cases taken
  | store =>
      rw [step] at taken
      split at taken
      · cases taken
        refine ⟨inv.fifo, inv.stops, ?_, inv.transmitted.processed, ?_⟩
        · intro _ idle
          cases idle
        · intro _ _ _ idle
          cases idle
      · cases taken
        refine ⟨inv.fifo, inv.stops, ?_, inv.transmitted.processed, ?_⟩
        · intro _ idle
          cases idle
        · intro _ _ _ idle
          cases idle
      · cases taken

theorem step_not_transmitted {action : Action} (inv : bus.Inv device)
    (bad : ¬ ReadsDifference device bus action)
    (taken : step device driver bus action = some next) : ¬ next.StopsTransmitted device := by
  cases action with
  | read garbage accepted =>
      rw [step] at taken
      split at taken
      · rename_i gltmp stop dequeued
        rcases Option.map_eq_some_iff.mp taken with ⟨⟨messages, store⟩, handled, rfl⟩
        intro transmitted
        apply bad
        intro command dequeued'
        rw [dequeued] at dequeued'
        cases dequeued'
        exact (inv.read_iff dequeued handled).mp transmitted rfl
      · cases taken
  | _ => exact absurd trivial bad

/-- In every interleaving of terminating sessions, other sessions and the driver,
whatever the local record of the driver contains: every stop command of a
termination that is processed is transmitted if and only if each of them meets a
difference when the driver reads the record. -/
theorem stopsTransmitted_iff (device : Device) (driver : GlDriver) (bus : Bus)
    (initial : bus.Initial) (actions : List Action) :
    HoldsAlong (step device driver) (Bus.StopsTransmitted device) bus actions ↔
      MeetsAlong (step device driver) (ReadsDifference device) bus actions := by
  have sound (bus : Bus) (inv : bus.Inv device) : bus.StopsTransmitted device := inv.transmitted
  apply holdsAlong_iff_meetsAlong sound
  · intro bus action next inv ok taken
    exact step_inv inv ok taken
  · intro bus action next inv bad taken
    exact step_not_transmitted inv bad taken
  · exact initial.inv device

/-- Locomotive 3 runs with speed 5; the LocoNet knows it in slot 4. -/
def runningBus : Bus :=
  { gl :=
      { configured := true
        numberOfGl := 10
        glstate := fun addr =>
          if addr = 3 then
            { GlState.zero with
              state := 1, protocol := 'P', protocolversion := 1, nFs := 126, nFunc := 5, id := 3,
              speed := 5, direction := 1 }
          else .zero
        clock := 0 }
    queue := ⟨⟨fun _ => .zero, 0, 0⟩, [], []⟩
    slotmap := fun slot => if slot = 4 then 3 else 0
    term := fun _ => .idle
    handler := .idle
    stops := []
    processed := [] }

theorem runningBus_initial : runningBus.Initial where
  fifo := ⟨⟨by decide, by decide⟩, rfl⟩
  term := fun _ => rfl
  handler := rfl
  stops := rfl
  processed := rfl

/-- The driver reads the record after the stop was written into it. -/
def readBraked : List Action :=
  [.termBegin 0 3, .termBrake 0, .termStore 0, .dequeue, .read .zero true, .send]

theorem stopsTransmitted_iff_running :
    HoldsAlong (step .intellibox ⟨['P'], none⟩) (Bus.StopsTransmitted .intellibox) runningBus
        readBraked ↔
      MeetsAlong (step .intellibox ⟨['P'], none⟩) (ReadsDifference .intellibox) runningBus
        readBraked :=
  stopsTransmitted_iff .intellibox ⟨['P'], none⟩ runningBus runningBus_initial readBraked

/-- None of the three drivers sends anything then. -/
theorem readBraked_not_transmitted :
    ¬ HoldsAlong (step (.dccar true) ⟨['P'], none⟩) (Bus.StopsTransmitted (.dccar true))
        runningBus readBraked ∧
      ¬ HoldsAlong (step .intellibox ⟨['P'], none⟩) (Bus.StopsTransmitted .intellibox)
        runningBus readBraked ∧
      ¬ HoldsAlong (step .loconet ⟨['P'], none⟩) (Bus.StopsTransmitted .loconet)
        runningBus readBraked := by
  refine ⟨?_, ?_, ?_⟩
  · intro holds
    have executed : run (step (.dccar true) ⟨['P'], none⟩) runningBus readBraked = some _ := rfl
    rcases (holds.last executed).processed _ List.mem_cons_self rfl with ⟨message, mem, _⟩
    cases mem
  · intro holds
    have executed : run (step .intellibox ⟨['P'], none⟩) runningBus readBraked = some _ := rfl
    rcases (holds.last executed).processed _ List.mem_cons_self rfl with ⟨message, mem, _⟩
    cases mem
  · intro holds
    have executed : run (step .loconet ⟨['P'], none⟩) runningBus readBraked = some _ := rfl
    rcases (holds.last executed).processed _ List.mem_cons_self rfl with ⟨message, mem, stop⟩
    cases mem

end Srcpd.Driver
