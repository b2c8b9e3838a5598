import Srcpd.Ddl.DelayedGa
import Srcpd.Driver.GlCommand
import Srcpd.Timer.Table
import Srcpd.Types

/-!
# Accessories that are switched off later

The loopback, LI100 and Intellibox drivers put an accessory that is activated for some
time in a table of 50 slots and look through the table before they take a command from
the queue.  `Spec` has any number of activations and no table; `serves_of_meetsAlong`
says for which commands a driver does the same.
-/

namespace Srcpd.Driver.DelayedOff

open Srcpd.Command Srcpd.Transition Srcpd.Timer Srcpd.Ddl.DelayedGa

/-! ## Time -/

/-- `cmpTime`: the first time is earlier than the second one. -/
def cmpTime (t1 t2 : Timeval) : Bool :=
  if t1.sec < t2.sec then true
  else if t2.sec = t1.sec then decide (t1.usec < t2.usec) else false

/-- The time at which an accessory is switched off. -/
def offTime (time : Timeval) (activetime : Int) : Timeval :=
  let sec := time.sec + activetime.tdiv 1000
  let usec := time.usec + activetime.tmod 1000 * 1000
  if 1000000 < usec then { sec := sec + 1, usec := usec - 1000000 } else { sec, usec }

/-! ## The drivers -/

/-- The queue accepts addresses from 1 on. -/
structure Queued where
  ga : GaState
  positive : 0 < ga.id

/-- A slot without an accessory has the address 0. -/
structure Slot where
  ga : GaState
  t : Timeval

/-- A slot with the number 0 is free. -/
def Slot.free (slot : Slot) : Bool :=
  slot.ga.id = 0

/-- The number 0 frees a slot, which keeps everything else. -/
def Slot.clear (slot : Slot) : Slot :=
  { slot with ga := { slot.ga with id := 0 } }

/-- The slots of the driver with the accessories they are for, and what was written. -/
structure State where
  slots : List Slot
  cache : Cache
  written : List Message

/-- The drivers that keep such slots. -/
inductive Bus
  | loopback
  | li100
  | intellibox

/-- The Intellibox takes any address but 0. -/
def Bus.due (now : Nat) : Bus → Slot → Bool
  | .intellibox, slot => slot.ga.id ≠ 0 && cmpTime slot.t (gettimeofday now)
  | _, slot => 0 < slot.ga.id && cmpTime slot.t (gettimeofday now)

/-- The messages that switch an accessory. -/
def Bus.switch (gatmp : GaState) : Bus → List Message
  | .loopback => []
  | .li100 =>
      let temp := gatmp.id - 1
      [[0x52, byte (temp >>> (2 : Nat)), 0x80 ||| (byte temp &&& 0x03) <<< 1 |||
        (if 0 < gatmp.action then 0x08 else 0) ||| (if 0 < gatmp.port then 0x01 else 0)]]
  | .intellibox =>
      [[0x90, byte gatmp.id, byte (gatmp.id >>> (8 : Nat)) |||
        (if gatmp.action ≠ 0 then 0x40 else 0) ||| (if gatmp.port ≠ 0 then 0x80 else 0)]]

/-- The command that switches an accessory off. -/
def switchedOff (gatmp : GaState) : GaState :=
  { gatmp with action := 0 }

/-- `setGA` for each accessory in turn. -/
def record (cache : Cache) (accessories : List GaState) : Cache :=
  accessories.foldl (fun cache gatmp => setGA cache gatmp.id gatmp) cache

/-- The loop over the table. -/
def Bus.poll (bus : Bus) (now : Nat) (state : State) : State :=
  let expired := expire (bus.due now) Slot.clear state.slots
  let accessories := expired.1.map fun slot => switchedOff slot.ga
  { slots := expired.2
    cache := record state.cache accessories
    written := state.written ++ accessories.flatMap (bus.switch ·) }

/-- The first empty place of the table. -/
def schedule (now : Nat) (gatmp : GaState) (slots : List Slot) : Option (List Slot) :=
  store Slot.free ⟨gatmp, offTime (gettimeofday now) gatmp.activetime⟩ slots

/-- `handle_ga_command` of the loopback bus. -/
def handleGaCommand (now : Nat) (gatmp : GaState) (state : State) : State :=
  { state with
    cache := setGA state.cache gatmp.id gatmp
    slots :=
      if gatmp.action ≠ 0 ∧ 0 < gatmp.activetime then
        (schedule now gatmp state.slots).getD state.slots
      else state.slots }

/-- `send_command_ga_LI100` behind the loop; `status` is cleared with a place in the table. -/
def sendCommandGaLi100 (now : Nat) (gatmp : GaState) (state : State) : State :=
  let state := { state with written := state.written ++ Bus.li100.switch gatmp }
  let stored :=
    if 0 < gatmp.action ∧ 0 < gatmp.activetime then schedule now gatmp state.slots else none
  match stored with
  | some slots => { state with slots := slots }
  | none => { state with cache := setGA state.cache gatmp.id gatmp }

/-- `send_command_ga_IB` behind the loop; `status` is set for a command with a delay. -/
def sendCommandGaIb (now : Nat) (gatmp : GaState) (state : State) : State :=
  let state := { state with written := state.written ++ Bus.intellibox.switch gatmp }
  if gatmp.action ≠ 0 ∧ 0 < gatmp.activetime then
    { state with
      slots := (schedule now gatmp state.slots).getD state.slots
      cache := setGA state.cache gatmp.id gatmp }
  else state

/-- A command at the driver of the bus. -/
def Bus.handle (now : Nat) (gatmp : GaState) (state : State) : Bus → State
  | .loopback => handleGaCommand now gatmp state
  | .li100 => sendCommandGaLi100 now gatmp state
  | .intellibox => sendCommandGaIb now gatmp state

/-- The bus thread polls its slots and handles commands from the queue. -/
inductive Event
  | poll (now : Nat)
  | dequeueNextGA (now : Nat) (command : Queued)

/-- One turn of the bus thread. -/
def step (bus : Bus) : Step State Event := fun state event =>
  match event with
  | .poll now => some (bus.poll now state)
  | .dequeueNextGA now command => some (bus.handle now command.ga state)

/-! ## Any number of activations -/

/-- The command asks to be switched off later. -/
def Delayed (gatmp : GaState) : Prop :=
  gatmp.action ≠ 0 ∧ 0 < gatmp.activetime

instance (gatmp : GaState) : Decidable (Delayed gatmp) :=
  inferInstanceAs (Decidable (_ ∧ _))

/-- An accessory that is active since a time. -/
structure Activation where
  command : Queued
  since : Nat
  delayed : Delayed command.ga

/-- The time to switch it off. -/
def Activation.deadline (activation : Activation) : Int :=
  activation.since + activation.command.ga.activetime * 1000

/-- The command at the end of an activation. -/
def Activation.off (activation : Activation) : GaState :=
  switchedOff activation.command.ga

/-- What the slots stand for: the activations that are to be ended. -/
structure Spec where
  active : Multiset Activation
  cache : Cache
  written : List Message

/-- A poll switches off what is past its deadline and nothing before it; a command is
sent and recorded. -/
inductive Spec.Steps (bus : Bus) : Spec → Event → Spec → Prop
  | poll {now : Nat} {active rest : Multiset Activation} {cache : Cache} {written : List Message}
      (served : List Activation) : active = served + rest →
      (∀ activation ∈ served, activation.deadline ≤ now) →
      (∀ activation ∈ rest, (now : Int) ≤ activation.deadline) →
      Steps bus ⟨active, cache, written⟩ (.poll now)
        ⟨rest, record cache (served.map Activation.off),
          written ++ (served.map Activation.off).flatMap (bus.switch ·)⟩
  | dequeueNextGA {now : Nat} {active : Multiset Activation} {cache : Cache}
      {written : List Message} (command : Queued) :
      Steps bus ⟨active, cache, written⟩ (.dequeueNextGA now command)
        ⟨if delayed : Delayed command.ga then ⟨command, now, delayed⟩ ::ₘ active else active,
          setGA cache command.ga.id command.ga, written ++ bus.switch command.ga⟩

/-- A run of the specification over the same events. -/
inductive Spec.Runs (bus : Bus) : Spec → List Event → Spec → Prop
  | nil (spec : Spec) : Runs bus spec [] spec
  | cons {spec next last : Spec} {event : Event} {events : List Event} :
      Spec.Steps bus spec event next → Runs bus next events last →
      Runs bus spec (event :: events) last

/-- From a table without accessories, what is recorded and written is as without a table. -/
def Serves (bus : Bus) (start : State) (events : List Event) : Prop :=
  ∀ last, run (step bus) start events = some last →
    ∃ active, Spec.Runs bus ⟨0, start.cache, start.written⟩ events
      ⟨active, last.cache, last.written⟩

/-- To record the command changes nothing. -/
def Known (cache : Cache) (gatmp : GaState) : Prop :=
  setGA cache gatmp.id gatmp = cache

/-- There is a place for a command with a delay.  The LI100 does not record such a command,
and takes a negative action for none; the Intellibox records no other. -/
def Fits (bus : Bus) (state : State) : Event → Prop
  | .poll _ => True
  | .dequeueNextGA _ command =>
      (Delayed command.ga → ∃ slot ∈ state.slots, slot.free = true) ∧
        match bus with
        | .loopback => True
        | .li100 => Delayed command.ga → 0 < command.ga.action ∧ Known state.cache command.ga
        | .intellibox => ¬ Delayed command.ga → Known state.cache command.ga

/-! ## The table -/

/-- The carry leaves a whole second in the microseconds, and no more. -/
theorem offTime_micros (since : Nat) {activetime : Int} (positive : 0 < activetime) :
    (offTime (gettimeofday since) activetime).micros = since + activetime * 1000 ∧
      0 ≤ (offTime (gettimeofday since) activetime).usec ∧
      (offTime (gettimeofday since) activetime).usec ≤ 1000000 := by
  rw [offTime, gettimeofday, Int.tdiv_eq_ediv_of_nonneg positive.le,
    Int.tmod_eq_emod_of_nonneg positive.le]
  dsimp only
  split
  · dsimp only [Timeval.micros]
    omega
  · dsimp only [Timeval.micros]
    omega

theorem micros_le_of_cmpTime {time : Timeval} {now : Nat} (most : time.usec ≤ 1000000)
    (reached : cmpTime time (gettimeofday now) = true) : time.micros ≤ now := by
  rw [cmpTime, gettimeofday] at reached
  dsimp only at reached
  rw [Timeval.micros]
  split at reached
  · omega
  · split at reached
    · have later := of_decide_eq_true reached
      omega
    · contradiction

theorem le_micros_of_not_cmpTime {time : Timeval} {now : Nat} (least : 0 ≤ time.usec)
    (early : cmpTime time (gettimeofday now) = false) : (now : Int) ≤ time.micros := by
  rw [cmpTime, gettimeofday] at early
  dsimp only at early
  rw [Timeval.micros]
  split at early
  · contradiction
  · split at early
    · have before := of_decide_eq_false early
      omega
    · omega

/-- The slot of an activation. -/
def Activation.slot (activation : Activation) : Slot :=
  ⟨activation.command.ga,
    offTime (gettimeofday activation.since) activation.command.ga.activetime⟩

theorem Activation.slot_free (activation : Activation) : activation.slot.free = false :=
  decide_eq_false activation.command.positive.ne'

theorem Slot.clear_free (slot : Slot) : slot.clear.free = true :=
  rfl

variable {bus : Bus}

theorem Bus.due_of_free (now : Nat) {slot : Slot} (free : slot.free = true) :
    bus.due now slot = false := by
  have address : slot.ga.id = 0 := of_decide_eq_true free
  cases bus <;> simp [Bus.due, address]

theorem Bus.due_slot (now : Nat) (activation : Activation) :
    bus.due now activation.slot =
      cmpTime activation.slot.t (gettimeofday now) := by
  have positive : 0 < activation.slot.ga.id := activation.command.positive
  cases bus <;> simp [Bus.due, positive, positive.ne']

theorem Activation.deadline_le_of_due {now : Nat} {activation : Activation}
    (due : bus.due now activation.slot = true) : activation.deadline ≤ now := by
  obtain ⟨total, -, most⟩ := offTime_micros activation.since activation.delayed.2
  rw [Bus.due_slot] at due
  rw [Activation.deadline, ← total]
  exact micros_le_of_cmpTime most due

theorem Activation.le_deadline_of_not_due {now : Nat} {activation : Activation}
    (early : bus.due now activation.slot = false) : (now : Int) ≤ activation.deadline := by
  obtain ⟨total, least, -⟩ := offTime_micros activation.since activation.delayed.2
  rw [Bus.due_slot] at early
  rw [Activation.deadline, ← total]
  exact le_micros_of_not_cmpTime least early

/-- The table has the accessories that are active. -/
abbrev Tabled : List Slot → Multiset Activation → Prop :=
  Holds Slot.free Activation.slot

theorem poll_steps {state : State} {active : Multiset Activation} (now : Nat)
    (tabled : Tabled state.slots active) :
    ∃ rest, Tabled (bus.poll now state).slots rest ∧
      Spec.Steps bus ⟨active, state.cache, state.written⟩ (.poll now)
        ⟨rest, (bus.poll now state).cache, (bus.poll now state).written⟩ := by
  obtain ⟨served, rest, split, expired, holds, ready, early⟩ :=
    tabled.expire Slot.clear_free fun _ free => Bus.due_of_free now free
  have accessories : ((expire (bus.due now) Slot.clear state.slots).1.map fun slot =>
      switchedOff slot.ga) = served.map Activation.off := by
    rw [expired, List.map_map]
    rfl
  refine ⟨rest, holds, ?_⟩
  rw [Bus.poll]
  dsimp only
  rw [accessories]
  exact .poll served split (fun activation member => Activation.deadline_le_of_due (ready _ member))
    fun activation member => Activation.le_deadline_of_not_due (early _ member)

theorem schedule_tabled {slots stored : List Slot} {active : Multiset Activation} {now : Nat}
    {command : Queued} (delayed : Delayed command.ga) (tabled : Tabled slots active)
    (found : schedule now command.ga slots = some stored) :
    Tabled stored (⟨command, now, delayed⟩ ::ₘ active) := by
  have found : store Slot.free (Activation.slot ⟨command, now, delayed⟩) slots = some stored :=
    found
  exact tabled.store Activation.slot_free found

theorem schedule_of_free {slots : List Slot} (now : Nat) (gatmp : GaState)
    (free : ∃ slot ∈ slots, slot.free = true) :
    ∃ stored, schedule now gatmp slots = some stored := by
  cases found : schedule now gatmp slots with
  | some stored => exact ⟨stored, rfl⟩
  | none =>
      obtain ⟨slot, member, unused⟩ := free
      rw [store_eq_none_iff.mp found slot member] at unused
      contradiction

/-! ## Commands -/

section Commands

variable {state : State} {now : Nat} {command : Queued}

theorem handle_of_delayed {stored : List Slot} (delayed : Delayed command.ga)
    (found : schedule now command.ga state.slots = some stored)
    (fits : Fits bus state (.dequeueNextGA now command)) :
    bus.handle now command.ga state =
      { slots := stored
        cache := setGA state.cache command.ga.id command.ga
        written := state.written ++ bus.switch command.ga } := by
  have both : command.ga.action ≠ 0 ∧ 0 < command.ga.activetime := delayed
  cases bus with
  | loopback =>
      rw [Bus.handle, handleGaCommand, if_pos both, found, Bus.switch, List.append_nil]
      rfl
  | li100 =>
      obtain ⟨active, known⟩ := fits.2 delayed
      rw [Bus.handle, sendCommandGaLi100]
      dsimp only
      rw [if_pos ⟨active, delayed.2⟩, found, known]
  | intellibox =>
      rw [Bus.handle, sendCommandGaIb]
      dsimp only
      rw [if_pos both, found]
      rfl

theorem handle_of_not_delayed (other : ¬ Delayed command.ga)
    (fits : Fits bus state (.dequeueNextGA now command)) :
    bus.handle now command.ga state =
      { slots := state.slots
        cache := setGA state.cache command.ga.id command.ga
        written := state.written ++ bus.switch command.ga } := by
  have neither : ¬ (command.ga.action ≠ 0 ∧ 0 < command.ga.activetime) := other
  cases bus with
  | loopback =>
      rw [Bus.handle, handleGaCommand, if_neg neither, Bus.switch, List.append_nil]
  | li100 =>
      have direct : ¬ (0 < command.ga.action ∧ 0 < command.ga.activetime) :=
        fun both => other ⟨both.1.ne', both.2⟩
      rw [Bus.handle, sendCommandGaLi100]
      dsimp only
      rw [if_neg direct]
  | intellibox =>
      have known : setGA state.cache command.ga.id command.ga = state.cache := fits.2 other
      rw [Bus.handle, sendCommandGaIb]
      dsimp only
      rw [if_neg neither, known]

theorem handle_steps {active : Multiset Activation} (tabled : Tabled state.slots active)
    (fits : Fits bus state (.dequeueNextGA now command)) :
    ∃ rest, Tabled (bus.handle now command.ga state).slots rest ∧
      Spec.Steps bus ⟨active, state.cache, state.written⟩ (.dequeueNextGA now command)
        ⟨rest, (bus.handle now command.ga state).cache,
          (bus.handle now command.ga state).written⟩ := by
  have steps : Spec.Steps bus ⟨active, state.cache, state.written⟩ (.dequeueNextGA now command) _ :=
    .dequeueNextGA command
  by_cases delayed : Delayed command.ga
  · obtain ⟨stored, found⟩ := schedule_of_free now command.ga (fits.1 delayed)
    rw [handle_of_delayed delayed found fits]
    rw [dif_pos delayed] at steps
    exact ⟨_, schedule_tabled delayed tabled found, steps⟩
  · rw [handle_of_not_delayed delayed fits]
    rw [dif_neg delayed] at steps
    exact ⟨_, tabled, steps⟩

end Commands

theorem event_steps {state next : State} {active : Multiset Activation} {event : Event}
    (tabled : Tabled state.slots active) (fits : Fits bus state event)
    (taken : step bus state event = some next) :
    ∃ rest, Tabled next.slots rest ∧
      Spec.Steps bus ⟨active, state.cache, state.written⟩ event
        ⟨rest, next.cache, next.written⟩ := by
  cases event with
  | poll now =>
      cases taken
      exact poll_steps now tabled
  | dequeueNextGA now command =>
      cases taken
      exact handle_steps tabled fits

/-- A run that starts with some accessories active. -/
theorem run_runs {start last : State} {active : Multiset Activation} {events : List Event}
    (tabled : Tabled start.slots active) (fits : MeetsAlong (step bus) (Fits bus) start events)
    (executed : run (step bus) start events = some last) :
    ∃ rest, Spec.Runs bus ⟨active, start.cache, start.written⟩ events
      ⟨rest, last.cache, last.written⟩ := by
  induction events generalizing start active with
  | nil =>
      cases executed
      exact ⟨active, .nil _⟩
  | cons event events ih =>
      obtain ⟨next, taken, behind⟩ := run_cons_eq_some_iff.mp executed
      obtain ⟨first, others⟩ := fits next taken
      obtain ⟨middle, tabled, steps⟩ := event_steps tabled first taken
      obtain ⟨rest, runs⟩ := ih tabled others behind
      exact ⟨rest, .cons steps runs⟩

/-- The table makes no difference as long as it has room and every command is recorded. -/
theorem serves_of_meetsAlong (bus : Bus) (start : State)
    (empty : ∀ slot ∈ start.slots, slot.free = true) (events : List Event)
    (fits : MeetsAlong (step bus) (Fits bus) start events) : Serves bus start events :=
  fun _ executed => run_runs (Holds.of_all_free empty) fits executed

/-- A table of 50 slots, and one accessory that is initialised. -/
def started : State where
  slots := List.replicate 50
    ⟨{ protocol := 'N', id := 0, port := 0, action := 0, activetime := 0, tv := fun _ => 0 },
      ⟨0, 0⟩⟩
  cache addr := if addr = 5 then some ⟨0, 0⟩ else none
  written := []

/-- A command that switches accessory 5 on for 100 ms. -/
def activate5 : Queued where
  ga := { protocol := 'N', id := 5, port := 0, action := 1, activetime := 100, tv := fun _ => 0 }
  positive := by decide

/-- On the loopback bus, the accessory is switched off when its time is over. -/
theorem serves_of_meetsAlong_activate5 :
    Serves .loopback started [.dequeueNextGA 0 activate5, .poll 100000, .poll 100001] := by
  apply serves_of_meetsAlong .loopback started
  · intro slot member
    rw [List.eq_of_mem_replicate member]
    rfl
  · apply (meetsAlong_cons_iff rfl).mpr
    constructor
    · exact ⟨fun _ => ⟨_, List.mem_cons_self, rfl⟩, trivial⟩
    · apply (meetsAlong_cons_iff rfl).mpr
      constructor
      · trivial
      · apply (meetsAlong_cons_iff rfl).mpr
        constructor
        · trivial
        · trivial

theorem Spec.Runs.cache_eq {spec last : Spec} {now : Nat} {command : Queued}
    (runs : Spec.Runs bus spec [.dequeueNextGA now command] last) :
    last.cache = setGA spec.cache command.ga.id command.ga := by
  cases runs with
  | cons steps behind =>
      cases behind
      cases steps
      rfl

/-- The LI100 does not record that the accessory is active. -/
theorem not_serves_li100 : ¬ Serves .li100 started [.dequeueNextGA 0 activate5] := by
  intro serves
  obtain ⟨active, runs⟩ := serves _ rfl
  have entry : (Bus.handle 0 activate5.ga started .li100).cache 5 =
      setGA started.cache 5 activate5.ga 5 :=
    congrFun runs.cache_eq 5
  exact absurd entry (by decide)

end Srcpd.Driver.DelayedOff
