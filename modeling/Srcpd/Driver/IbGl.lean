import Srcpd.Driver.Inits
import Srcpd.Driver.Terminate

/-!
# Locomotive commands of the Intellibox

`send_command_gl_IB` adds the light to the functions, so that F5 and F6 reach the
bits of light and direction, and divides by the speed steps of the cached record,
or of its local record when there is none.  `sendsRight_iff` says for which
commands the first message is right, in every state that the sessions and the
driver reach.
-/

namespace Srcpd.Driver.Ib

open Srcpd.Command Srcpd.Queue Srcpd.Transition

/-! ## The message -/

/-- The message for a command of speed, direction and the functions up to F4. -/
def RightLok (gltmp : GlState) (message : Message) : Prop :=
  ∃ low high speed flags, message = [xLok, low, high, speed, flags] ∧
    (gltmp.direction = 0 → flags.getLsbD 5 = false) ∧
    (gltmp.direction = 1 → flags.getLsbD 5 = true) ∧
    flags.getLsbD 4 = gltmp.funcs.getLsbD 0 ∧
    (∀ k < 4, flags.getLsbD k = gltmp.funcs.getLsbD (k + 1)) ∧
    (speed = 0 → gltmp.direction ≠ 2 ∧ gltmp.speed = 0) ∧
    (speed = 1 → gltmp.direction = 2) ∧
    speed.toNat ≤ 127

/-- There is no division by zero, and the first message, if any, is right. -/
def SendsRight (gltmp : GlState) (handled : Option (List Message × Option GlState)) : Prop :=
  ∃ messages store, handled = some (messages, store) ∧
    ∀ message ∈ messages.head?, RightLok gltmp message

/-- F5 is added to the bit of the light, and F6 to that of the direction. -/
def Fits (gltmp : GlState) : Prop :=
  gltmp.funcs.getLsbD 5 = false ∧ (gltmp.direction = 0 → gltmp.funcs.getLsbD 6 = false)

/-- What the driver compares. -/
def Changed (gltmp glakt : GlState) : Prop :=
  gltmp.direction ≠ glakt.direction ∨ gltmp.speed ≠ glakt.speed ∨ gltmp.funcs ≠ glakt.funcs

/-- The last byte, from the functions above F0. -/
def flagsByte (functions : BitVec 8) (light moving : Bool) : BitVec 8 :=
  (functions + (if light then 0x10 else 0)) ||| 0xc0 ||| (if moving then 0x20 else 0)

theorem flagsByte_bits (functions : BitVec 8) (light moving : Bool) :
    (∀ k < 4, (flagsByte functions light moving).getLsbD k = functions.getLsbD k) ∧
      ((flagsByte functions light moving).getLsbD 4 = light ↔ functions.getLsbD 4 = false) ∧
      (functions.getLsbD 4 = false →
        (flagsByte functions light moving).getLsbD 5 = (moving || functions.getLsbD 5)) := by
  revert functions light moving
  decide

/-- The speed of 126 steps. -/
def scaledSpeed (speed : Int) : BitVec 8 :=
  let scaled := byte ((int32 (speed * speedSteps)).tdiv speedSteps)
  if 0 < scaled then scaled + 1 else scaled

theorem scaledSpeed_bits {speed : Int} (least : 0 ≤ speed) (most : speed ≤ speedSteps) :
    (scaledSpeed speed = 0 → speed = 0) ∧ scaledSpeed speed ≠ 1 ∧
      (scaledSpeed speed).toNat ≤ 127 := by
  have table : ∀ speed : Fin 127, (scaledSpeed (speed : Nat) = 0 → (speed : Nat) = 0) ∧
      scaledSpeed (speed : Nat) ≠ 1 ∧ (scaledSpeed (speed : Nat)).toNat ≤ 127 := by
    decide
  have below : speed.toNat < 127 := by
    change speed ≤ 126 at most
    omega
  have entry := table ⟨speed.toNat, below⟩
  rw [show ((⟨speed.toNat, below⟩ : Fin 127) : Nat) = speed.toNat from rfl,
    Int.toNat_of_nonneg least] at entry
  exact ⟨fun zero => by have := entry.1 zero; omega, entry.2⟩

variable {gltmp glakt : GlState} {accepted : Bool}

theorem sendCommandGlIB_lok (changed : Changed gltmp glakt)
    (steps : gltmp.direction ≠ 2 → glakt.nFs = speedSteps) (accepted : Bool) :
    ∃ functions store, sendCommandGlIB accepted gltmp glakt =
      some ([xLok, byte gltmp.id, byte (gltmp.id >>> (8 : Nat)),
        if gltmp.direction = 2 then 1 else scaledSpeed gltmp.speed,
        flagsByte ((gltmp.funcs >>> 1).setWidth 8) (gltmp.funcs.getLsbD 0)
          (gltmp.direction ≠ 0)] :: functions, store) := by
  rw [Changed] at changed
  simp only [flagsByte, decide_eq_true_eq]
  rw [sendCommandGlIB, if_pos changed]
  dsimp only
  by_cases emergency : gltmp.direction = 2
  · rw [if_pos emergency, if_pos emergency, Option.map_some]
    exact ⟨_, _, rfl⟩
  · have nonzero : glakt.nFs ≠ 0 := by
      rw [steps emergency]
      decide
    rw [if_neg emergency, if_neg emergency, if_neg nonzero, Option.map_some, steps emergency]
    exact ⟨_, _, rfl⟩

theorem sendCommandGlIB_div_zero (changed : Changed gltmp glakt) (moving : gltmp.direction ≠ 2)
    (zero : glakt.nFs = 0) : sendCommandGlIB accepted gltmp glakt = none := by
  rw [Changed] at changed
  rw [sendCommandGlIB, if_pos changed, if_neg moving, if_pos zero]
  rfl

theorem sendsRight_of_not_changed (same : ¬ Changed gltmp glakt) :
    SendsRight gltmp (sendCommandGlIB accepted gltmp glakt) := by
  rw [Changed] at same
  rw [sendCommandGlIB, if_neg same]
  exact ⟨[], none, rfl, fun _ mem => absurd mem (Option.not_mem_none _)⟩

/-- A command as `enqueueGL` queues it. -/
structure InRange (gltmp : GlState) : Prop where
  direction : 0 ≤ gltmp.direction ∧ gltmp.direction ≤ 2
  speed : 0 ≤ gltmp.speed ∧ gltmp.speed ≤ speedSteps

theorem sendsRight_iff_fits (inRange : InRange gltmp) (changed : Changed gltmp glakt)
    (steps : gltmp.direction ≠ 2 → glakt.nFs = speedSteps) (accepted : Bool) :
    SendsRight gltmp (sendCommandGlIB accepted gltmp glakt) ↔ Fits gltmp := by
  obtain ⟨functions, store, sent⟩ := sendCommandGlIB_lok changed steps accepted
  have bit (k : Nat) (below : k < 8) :
      ((gltmp.funcs >>> 1).setWidth 8).getLsbD k = gltmp.funcs.getLsbD (k + 1) := by
    simp [below, Nat.add_comm]
  obtain ⟨lowBits, light, direction⟩ := flagsByte_bits ((gltmp.funcs >>> 1).setWidth 8)
    (gltmp.funcs.getLsbD 0) (gltmp.direction ≠ 0)
  rw [bit 4 (by decide)] at light direction
  rw [bit 5 (by decide)] at direction
  obtain ⟨stop, notOne, most⟩ := scaledSpeed_bits inRange.speed.1 inRange.speed.2
  rw [sent]
  constructor
  · rintro ⟨messages, stored, same, right⟩
    cases same
    obtain ⟨low, high, speed, flags, fields, halted, _, lightBit, _⟩ := right _ rfl
    cases fields
    have f5 := light.mp lightBit
    refine ⟨f5, fun zero => ?_⟩
    have clear := halted zero
    rw [direction f5] at clear
    simpa [zero] using clear
  · rintro ⟨f5, f6⟩
    refine ⟨_, _, rfl, ?_⟩
    rintro message ⟨rfl⟩
    refine ⟨_, _, _, _, rfl, ?_, ?_, light.mpr f5, ?_, ?_, ?_, ?_⟩
    · intro zero
      rw [direction f5, f6 zero]
      simp [zero]
    · intro one
      rw [direction f5]
      simp [one]
    · intro k below
      rw [lowBits k below, bit k (by omega)]
    · intro zero
      split at zero
      · exact absurd zero (by decide)
      · next moving => exact ⟨moving, stop zero⟩
    · intro one
      split at one
      · next emergency => exact emergency
      · exact absurd one notOne
    · split
      · decide
      · exact most

/-! ## The cached steps -/

/-- The driver of the Intellibox. -/
def driver : GlDriver :=
  Inits.Kind.ib.driver

/-- Initialised locomotives have the steps of the Intellibox. -/
def Steps (gl : Gl) : Prop :=
  ∀ addr, gl.isInitialized addr = true → (gl.glstate addr).nFs = speedSteps

/-- Every command in the queue has the speed steps of the Intellibox. -/
def QueuedSteps (queue : Log GlState) : Prop :=
  ∀ entry ∈ queue.added, entry.nFs = speedSteps

variable {gl : Gl} {queue : Log GlState}

theorem Steps.setState (steps : Steps gl) (addr : Int) {state : GlState}
    (new : state.state = 1 → state.nFs = speedSteps) : Steps (gl.setState addr state) := by
  intro other initialised
  obtain ⟨valid, living⟩ := Gl.isInitialized_iff.mp initialised
  by_cases same : other = addr
  · rw [same] at living ⊢
    simp only [Gl.setState, Function.update_self] at living ⊢
    exact new living
  · have kept : (gl.setState addr state).glstate other = gl.glstate other :=
      Function.update_of_ne same _ _
    rw [kept] at living ⊢
    exact steps other (Gl.isInitialized_iff.mpr ⟨valid, living⟩)

theorem Steps.cacheSetGL (steps : Steps gl) (addr : Int) {l : GlState}
    (stored : l.nFs = speedSteps) : Steps (cacheSetGL gl addr l).2 := by
  rw [Command.cacheSetGL]
  split
  · apply steps.setState
    intro living
    dsimp only at living ⊢
    split at living
    · cases living
    · next other =>
        rw [if_neg other]
        exact stored
  · exact steps

/-- An entry has the steps of the record. -/
theorem QueuedSteps.append (queued : QueuedSteps queue) {command : GlCommand}
    (steps : (gl.glstate command.addr).nFs = speedSteps) :
    QueuedSteps (enqueueInitializedGL gl queue command).2 := by
  rw [enqueueInitializedGL]
  split
  · exact queued
  · intro entry mem
    rcases List.mem_append.mp mem with old | new
    · exact queued entry old
    · rw [List.mem_singleton.mp new]
      exact steps

theorem initGlIB_nFs (gl : GlState) : (Inits.initGlIB gl).2.nFs = speedSteps := by
  rw [Inits.initGlIB]
  dsimp only
  split <;> rfl

theorem Steps.cacheInitGL (steps : Steps gl) (queued : QueuedSteps queue) (addr : Int)
    (protocol : Char) (protoversion nFs nFunc : Int) :
    Steps (cacheInitGL driver gl queue addr protocol protoversion nFs nFunc).2.1 ∧
      QueuedSteps (cacheInitGL driver gl queue addr protocol protoversion nFs nFunc).2.2 := by
  rcases cacheInitGL_cases driver gl queue addr protocol protoversion nFs nFunc with
    ⟨-, -, -, result⟩ | ⟨-, -, unchanged⟩
  · rw [result]
    refine ⟨steps.setState addr fun _ => initGlIB_nFs _, queued.append ?_⟩
    simp only [Gl.setState, Function.update_self]
    exact initGlIB_nFs _
  · rw [unchanged]
    exact ⟨steps, queued⟩

/-- The Intellibox accepts the default init. -/
theorem cacheInitGL_default (valid : gl.isValid addr = true) :
    (cacheInitGL driver gl queue addr 'P' 1 14 1).1 = .ok := by
  rcases cacheInitGL_cases driver gl queue addr 'P' 1 14 1 with
    ⟨-, -, -, result⟩ | ⟨refused, -, -⟩
  · rw [result]
  · exact absurd ⟨valid, rfl, rfl⟩ refused

theorem Steps.enqueueGL (steps : Steps gl) (queued : QueuedSteps queue) (command : GlCommand) :
    Steps (enqueueGL driver gl queue command).2.1 ∧
      QueuedSteps (enqueueGL driver gl queue command).2.2 := by
  rw [Command.enqueueGL]
  split
  · next valid =>
      dsimp only
      split
      · next initialised =>
          exact ⟨steps, queued.append (steps _ initialised)⟩
      · obtain ⟨steps, queued⟩ := steps.cacheInitGL queued command.addr 'P' 1 14 1
        refine ⟨steps, queued.append (steps _ ?_)⟩
        exact cacheInitGL_isInitialized (cacheInitGL_default valid)
  · exact ⟨steps, queued⟩

/-! ## Runs -/

/-- What the driver has in its hands has the steps as well. -/
def HandlerSteps : Handler → Prop
  | .dequeued gltmp _ => gltmp.nFs = speedSteps
  | .compared gltmp _ _ store =>
      gltmp.nFs = speedSteps ∧ ∀ l ∈ store, l.nFs = speedSteps
  | .sent _ store => ∀ l ∈ store, l.nFs = speedSteps
  | .idle => True

/-- A record that a termination has read has the speed steps of the Intellibox. -/
def TermSteps : Termination → Prop
  | .begun _ gltmp => gltmp.nFs = speedSteps
  | .braked _ gltmp => gltmp.nFs = speedSteps
  | .idle | .stored _ => True

/-- All records that are around have the speed steps of the Intellibox. -/
structure Inv (bus : Bus) : Prop where
  fifo : bus.queue.Fifo glQueuelen
  records : Steps bus.gl
  queued : QueuedSteps bus.queue
  terms : ∀ session, TermSteps (bus.term session)
  handler : HandlerSteps bus.handler

/-- A report of the box is stored with the steps of the record it is about. -/
def ReportsSteps (_ : Bus) : Action → Prop
  | .report _ l => l.nFs = speedSteps
  | _ => True

/-- The server at its start, with room for some locomotives on the bus. -/
def startBus (number : Int) : Bus :=
  { gl := { configured := true, numberOfGl := number, glstate := fun _ => .zero, clock := 0 }
    queue := ⟨⟨fun _ => .zero, 0, 0⟩, [], []⟩
    slotmap := fun _ => 0
    term := fun _ => .idle
    handler := .idle
    stops := []
    processed := [] }

theorem inv_startBus (number : Int) : Inv (startBus number) where
  fifo := ⟨⟨Nat.zero_lt_succ 49, Nat.zero_lt_succ 49⟩, rfl⟩
  records := by
    intro addr initialised
    cases (Gl.isInitialized_iff.mp initialised).2
  queued := by
    intro entry mem
    cases mem
  terms := fun _ => trivial
  handler := trivial

variable {bus next : Bus}

theorem Inv.setTerm (inv : Inv bus) (session : Nat) {term : Termination}
    (steps : TermSteps term) : Inv (bus.setTerm session term) where
  fifo := inv.fifo
  records := inv.records
  queued := inv.queued
  terms := by
    intro other
    change TermSteps (Function.update bus.term session term other)
    by_cases same : other = session
    · rw [same, Function.update_self]
      exact steps
    · rw [Function.update_of_ne same]
      exact inv.terms other
  handler := inv.handler

theorem Inv.setGl (inv : Inv bus) {gl : Gl} (steps : Steps gl) : Inv { bus with gl := gl } :=
  ⟨inv.fifo, steps, inv.queued, inv.terms, inv.handler⟩

theorem Inv.grow (inv : Inv bus) {gl : Gl} {queue : Log GlState}
    (grows : Grows bus.queue queue) (kept : Steps gl ∧ QueuedSteps queue) :
    Inv { bus with gl := gl, queue := queue } :=
  ⟨grows.fifo inv.fifo, kept.1, kept.2, inv.terms, inv.handler⟩

theorem Inv.brake (inv : Inv bus) (session : Nat) (addr : Int) {gltmp : GlState}
    (steps : gltmp.nFs = speedSteps) : Inv (cacheTermGLBrake driver bus session addr gltmp) := by
  rw [cacheTermGLBrake]
  split
  · dsimp only
    have braked : TermSteps
        (.braked addr { gltmp with speed := 0, state := 2, direction := 2 }) := steps
    have grown := (inv.setTerm session braked).grow
      (enqueueGL_grows driver bus.gl bus.queue ⟨addr, 2, 0, gltmp.nFs, gltmp.funcs⟩)
      (inv.records.enqueueGL inv.queued ⟨addr, 2, 0, gltmp.nFs, gltmp.funcs⟩)
    exact ⟨grown.fifo, grown.records, grown.queued, grown.terms, grown.handler⟩
  · exact inv.setTerm session trivial

theorem Inv.dequeue (inv : Inv bus) {gltmp : GlState} {rest : Queue.Ring GlState} {stop : Bool}
    (taken : bus.queue.ring.take glQueuelen id = some (gltmp, rest)) :
    Inv { bus with
      queue := bus.queue.take glQueuelen id
      handler := .dequeued gltmp stop } := by
  obtain ⟨fifo, added⟩ := inv.fifo.take id
  refine ⟨fifo, inv.records, ?_, inv.terms, ?_⟩
  · intro entry mem
    rw [added] at mem
    exact inv.queued entry mem
  · apply inv.queued
    rw [← inv.fifo.order, (inv.fifo.valid.take taken).2]
    exact List.mem_append_right _ List.mem_cons_self

/-- What is stored behind the messages is the command. -/
theorem sendCommandGlIB_store {gltmp glakt : GlState} {accepted : Bool} {messages : List Message}
    {store : Option GlState}
    (handled : sendCommandGlIB accepted gltmp glakt = some (messages, store)) :
    ∀ l ∈ store, l = gltmp := by
  rw [sendCommandGlIB] at handled
  split at handled
  · obtain ⟨speed, _, same⟩ := Option.map_eq_some_iff.mp handled
    have stored := congrArg Prod.snd same
    dsimp only at stored
    rw [← stored]
    intro l mem
    split at mem
    · exact (Option.some.inj mem).symm
    · cases mem
  · cases handled
    intro l mem
    cases mem

theorem step_inv {action : Action} (inv : Inv bus) (ok : ReportsSteps bus action)
    (taken : step .intellibox driver bus action = some next) : Inv next := by
  cases action with
  | tick clock =>
      cases taken
      exact inv.setGl inv.records
  | enqueue command =>
      cases taken
      exact inv.grow (enqueueGL_grows _ _ _ _) (inv.records.enqueueGL inv.queued command)
  | init addr protocol protoversion nFs nFunc =>
      cases taken
      exact inv.grow (cacheInitGL_grows _ _ _ _ _ _ _ _)
        (inv.records.cacheInitGL inv.queued addr protocol protoversion nFs nFunc)
  | report addr l =>
      rw [step] at taken
      split at taken
      · cases taken
        exact inv.setGl (inv.records.cacheSetGL addr ok)
      · cases taken
  | slotData slot addr =>
      rw [step] at taken
      split at taken
      · cases taken
        exact ⟨inv.fifo, inv.records, inv.queued, inv.terms, inv.handler⟩
      · cases taken
  | termBegin session addr =>
      rw [step] at taken
      split at taken
      · next gltmp _ read =>
          cases taken
          rw [cacheGetGL] at read
          split at read
          · next initialised =>
              cases read
              exact inv.setTerm session (inv.records addr initialised)
          · cases read
      · cases taken
        exact inv
      · cases taken
  | termBrake session =>
      rw [step] at taken
      split at taken
      · next addr gltmp begun =>
          cases taken
          have steps := inv.terms session
          rw [begun] at steps
          exact inv.brake session addr steps
      · cases taken
  | termStore session =>
      rw [step] at taken
      split at taken
      · next addr gltmp braked =>
          cases taken
          have steps := inv.terms session
          rw [braked] at steps
          have stored : TermSteps (.stored addr) := trivial
          exact (inv.setTerm session stored).setGl (inv.records.cacheSetGL addr steps)
      · cases taken
  | termClear session =>
      rw [step] at taken
      split at taken
      · cases taken
        have idle : TermSteps .idle := trivial
        exact (inv.setTerm session idle).setGl
          (inv.records.setState _ fun living => absurd living (by decide))
      · cases taken
  | dequeue =>
      rw [step] at taken
      split at taken
      · next taken' =>
          cases taken
          exact inv.dequeue taken'
      · cases taken
  | read garbage accepted =>
      rw [step] at taken
      split at taken
      · next gltmp stop dequeued =>
          rcases Option.map_eq_some_iff.mp taken with ⟨⟨messages, store⟩, handled, rfl⟩
          have steps := inv.handler
          rw [dequeued] at steps
          refine ⟨inv.fifo, inv.records, inv.queued, inv.terms, steps, fun l mem => ?_⟩
          rw [sendCommandGlIB_store handled l mem]
          exact steps
      · cases taken
  | send =>
      rw [step] at taken
      split at taken
      · next gltmp stop messages store compared =>
          cases taken
          have steps := inv.handler
          rw [compared] at steps
          exact ⟨inv.fifo, inv.records, inv.queued, inv.terms, steps.2⟩
      · cases taken
  | store =>
      rw [step] at taken
      split at taken
      · cases taken
        exact ⟨inv.fifo, inv.records, inv.queued, inv.terms, trivial⟩
      · next addr l sent =>
          cases taken
          have steps := inv.handler
          rw [sent] at steps
          have records := inv.records.cacheSetGL addr (steps l rfl)
          exact ⟨inv.fifo, records, inv.queued, inv.terms, trivial⟩
      · cases taken

/-! ## The command that is processed -/

/-- A changed command for an initialised locomotive has to fit; one for another has to be an
emergency stop as well, since the driver then divides by what its local record contains. -/
def ProcessedRight (gl : Gl) (gltmp : GlState) : Prop :=
  if gl.isInitialized gltmp.id then Changed gltmp (gl.glstate gltmp.id) → Fits gltmp
  else gltmp.direction = 2 ∧ Fits gltmp

theorem sendsRight_record_iff {gl : Gl} {gltmp : GlState} (steps : Steps gl)
    (inRange : InRange gltmp) :
    (∀ garbage accepted, SendsRight gltmp
      (sendCommandGlIB accepted gltmp ((cacheGetGL gl gltmp.id).2.getD garbage))) ↔
      ProcessedRight gl gltmp := by
  rw [ProcessedRight, cacheGetGL]
  by_cases initialised : gl.isInitialized gltmp.id = true
  · simp only [if_pos initialised, Option.getD_some]
    by_cases changed : Changed gltmp (gl.glstate gltmp.id)
    · have fits := sendsRight_iff_fits inRange changed fun _ => steps _ initialised
      constructor
      · exact fun right _ => (fits true).mp (right .zero true)
      · exact fun right _ accepted => (fits accepted).mpr (right changed)
    · exact iff_of_true (fun _ _ => sendsRight_of_not_changed changed)
        fun all => absurd all changed
  · simp only [if_neg initialised, Option.getD_none]
    -- A local record with another direction differs from the command.
    have other : Changed gltmp { GlState.zero with direction := gltmp.direction + 1 } :=
      .inl (by dsimp only; omega)
    constructor
    · intro right
      by_cases emergency : gltmp.direction = 2
      · exact ⟨emergency, (sendsRight_iff_fits inRange other
          (fun moving => absurd emergency moving) true).mp (right _ true)⟩
      · obtain ⟨_, _, handled, _⟩ :=
          right { GlState.zero with direction := gltmp.direction + 1 } true
        rw [sendCommandGlIB_div_zero other emergency rfl] at handled
        cases handled
    · rintro ⟨emergency, fits⟩ garbage accepted
      by_cases changed : Changed gltmp garbage
      · exact (sendsRight_iff_fits inRange changed (fun moving => absurd emergency moving)
          accepted).mpr fits
      · exact sendsRight_of_not_changed changed

/-- In every interleaving of the sessions with the driver, reports of the box included: a
command that the driver has dequeued is sent right, whatever its local record contains and
the box answers, exactly when it fits and has a record. -/
theorem sendsRight_iff (number : Int) (actions : List Action)
    (reports : MeetsAlong (step .intellibox driver) ReportsSteps (startBus number) actions) :
    HoldsAlong (step .intellibox driver)
      (fun bus => ∀ gltmp stop, bus.handler = .dequeued gltmp stop → InRange gltmp →
        ((∀ garbage accepted, SendsRight gltmp
          (sendCommandGlIB accepted gltmp ((cacheGetGL bus.gl gltmp.id).2.getD garbage))) ↔
          ProcessedRight bus.gl gltmp))
      (startBus number) actions := by
  refine holdsAlong_of_meets ?_ (fun _ _ _ inv ok taken => step_inv inv ok taken)
    (inv_startBus number) reports
  intro bus inv gltmp stop _ inRange
  exact sendsRight_record_iff inv.records inRange

/-- A locomotive gets F5 and direction 0. -/
def switchF5 : List Action :=
  [.init 3 'P' 1 28 5, .enqueue ⟨3, 0, 5, 126, 0x20⟩, .dequeue, .read .zero false, .send, .store,
    .dequeue]

theorem sendsRight_iff_switchF5 :
    HoldsAlong (step .intellibox driver)
      (fun bus => ∀ gltmp stop, bus.handler = .dequeued gltmp stop → InRange gltmp →
        ((∀ garbage accepted, SendsRight gltmp
          (sendCommandGlIB accepted gltmp ((cacheGetGL bus.gl gltmp.id).2.getD garbage))) ↔
          ProcessedRight bus.gl gltmp))
      (startBus 10) switchF5 :=
  sendsRight_iff 10 switchF5 (meetsAlong_of_forall _ (by simp [switchF5, ReportsSteps]) _)

/-- The locomotive is terminated while a command for it is queued. -/
def terminateQueued : List Action :=
  [.init 3 'P' 1 28 5, .dequeue, .read .zero false, .send, .store, .enqueue ⟨3, 1, 5, 126, 0⟩,
    .termBegin 0 3, .termBrake 0, .termClear 0, .dequeue]

/-- F5 switches the light on; and the command for the terminated locomotive is divided by 0. -/
theorem not_sendsRight :
    (∃ bus gltmp, run (step .intellibox driver) (startBus 10) switchF5 = some bus ∧
      bus.handler = .dequeued gltmp false ∧ InRange gltmp ∧
      ¬ SendsRight gltmp
        (sendCommandGlIB true gltmp ((cacheGetGL bus.gl gltmp.id).2.getD .zero))) ∧
    ∃ bus gltmp, run (step .intellibox driver) (startBus 10) terminateQueued = some bus ∧
      bus.handler = .dequeued gltmp false ∧ InRange gltmp ∧
      sendCommandGlIB true gltmp ((cacheGetGL bus.gl gltmp.id).2.getD .zero) = none := by
  constructor
  · refine ⟨_, _, rfl, rfl, ⟨by decide, by decide⟩, ?_⟩
    rintro ⟨messages, store, same, right⟩
    cases same
    obtain ⟨low, high, speed, flags, fields, _, _, light, _⟩ := right _ rfl
    cases fields
    revert light
    decide
  · exact ⟨_, _, rfl, rfl, ⟨by decide, by decide⟩, rfl⟩

end Srcpd.Driver.Ib
