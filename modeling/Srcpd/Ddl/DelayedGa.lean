import Srcpd.Command.Queues

/-!
# Delayed resets of accessories

The bus thread of the DDL driver keeps the accessory command it handles in one
variable.  For a long activation time it starts a thread that switches the
accessory off later and that is given a pointer to this variable.  The steps of
the bus thread and of the threads it has started are taken in any order.
`holdsAlong_right` says which commands may be taken from the queue while a reset
is on its way.
-/

namespace Srcpd.Ddl.DelayedGa

open Srcpd.Command Srcpd.Transition

/-- What `comp_maerklin_ms` or `comp_nmra_accessory` is called with. -/
structure Telegram where
  protocol : Char
  id : Int
  port : Int
  action : Int
  deriving DecidableEq

/-- The telegram of the composer of the protocol; other protocols send none. -/
def comp (protocol : Char) (id port action : Int) : Option Telegram :=
  if protocol = 'M' ∨ protocol = 'N' then some ⟨protocol, id, port, action⟩ else none

/-- What `setGA` stores of an accessory that is initialised. -/
structure CacheEntry where
  port : Int
  action : Int
  deriving DecidableEq

/-- The accessories that are not initialised have no entry. -/
abbrev Cache := Int → Option CacheEntry

/-- `setGA`, which stores nothing for an accessory that is not initialised. -/
def setGA (cache : Cache) (addr : Int) (a : GaState) : Cache :=
  Function.update cache addr ((cache addr).map fun _ => ⟨a.port, a.action⟩)

/-- The argument of `usleep` is an unsigned number of 32 bits. -/
def sleepTime (activetime : Int) : Nat :=
  (activetime * 1000 % 2 ^ 32).toNat

/-- `thr_delayedGAResetCmd`: before it sleeps, asleep, behind the write of the action and
behind the telegram.  From the second one on the time it sleeps is kept. -/
inductive Stage
  | created
  | sleeping (slept wakeup : Nat)
  | woken (slept : Nat)
  | sent (slept : Nat) (telegram : Option Telegram)

/-- A thread, and the command it is started for. -/
structure Thread where
  command : GaState
  stage : Stage

/-- The accessory part of `thr_sendrec_DDL`; `off` is for the reset that the bus thread
itself waits for. -/
inductive BusPhase
  | waiting
  | loaded (off : Bool)
  | transmitted (off : Bool)
  | sleeping (wakeup : Nat)
  | spawning

/-- A reset that was carried out, and what the cache has for the accessory behind it. -/
structure Reset where
  command : GaState
  slept : Nat
  telegram : Option Telegram
  cached : Option CacheEntry

/-- The variable that the bus thread shares with its threads, and where they all are. -/
structure State where
  /-- `gatmp` of the bus thread. -/
  gatmp : GaState
  /-- The command that was dequeued last, with `addr` and `p` of the bus thread. -/
  current : GaState
  phase : BusPhase
  threads : Nat → Option Thread
  /-- In microseconds. -/
  clock : Nat
  cache : Cache
  telegrams : List Telegram
  resets : List Reset

/-- The steps of the bus thread and of the threads for the resets, in any order. -/
inductive Action
  | dequeueNextGA (command : GaState)
  | transmit
  | record
  | switchOff
  /-- `none` when there is no memory or no thread. -/
  | spawn (thread : Option Nat)
  | start (thread : Nat)
  | wake (thread : Nat)
  | send (thread : Nat)
  | finish (thread : Nat)
  | pass (time : Nat)
  /-- A client initialises or terminates an accessory. -/
  | client (addr : Int) (entry : Option CacheEntry)

/-- One thread goes on to its next stage. -/
def State.setStage (state : State) (number : Nat) (thread : Thread) (stage : Stage) : State :=
  { state with
    threads := Function.update state.threads number (some { thread with stage := stage }) }

/-- The action in the shared variable is switched to off. -/
def State.zeroAction (state : State) : State :=
  { state with gatmp := { state.gatmp with action := 0 } }

/-- The steps of the bus thread. -/
def busStep (state : State) : Action → Option State
  | .dequeueNextGA command =>
      match state.phase with
      | .waiting => some { state with gatmp := command, current := command, phase := .loaded false }
      | _ => none
  | .transmit =>
      match state.phase with
      | .loaded off => some { state with
          telegrams := state.telegrams ++ (comp state.current.protocol state.current.id
            state.gatmp.port state.gatmp.action).toList
          phase := .transmitted off }
      | _ => none
  | .record =>
      match state.phase with
      | .transmitted off => some { state with
          cache := setGA state.cache state.current.id state.gatmp
          phase :=
            if off ∨ state.gatmp.activetime < 0 then .waiting
            else if state.gatmp.activetime < 1000 then
              .sleeping (state.clock + sleepTime state.gatmp.activetime)
            else .spawning }
      | _ => none
  | .switchOff =>
      match state.phase with
      | .sleeping wakeup =>
          if wakeup ≤ state.clock then some { state.zeroAction with phase := .loaded true }
          else none
      | _ => none
  | .spawn none =>
      match state.phase with
      | .spawning => some { state with phase := .waiting }
      | _ => none
  | .spawn (some number) =>
      match state.phase, state.threads number with
      | .spawning, none => some { state with
          threads := Function.update state.threads number (some ⟨state.current, .created⟩)
          phase := .waiting }
      | _, _ => none
  | _ => none

/-- The steps of a thread for a reset; it reads the variable of the bus thread. -/
def threadStep (state : State) (number : Nat) (thread : Thread) : Action → Option State
  | .start _ =>
      match thread.stage with
      | .created =>
          let slept := sleepTime state.gatmp.activetime
          some (state.setStage number thread (.sleeping slept (state.clock + slept)))
      | _ => none
  | .wake _ =>
      match thread.stage with
      | .sleeping slept wakeup =>
          if wakeup ≤ state.clock then
            some (state.zeroAction.setStage number thread (.woken slept))
          else none
      | _ => none
  | .send _ =>
      match thread.stage with
      | .woken slept =>
          let telegram := comp state.gatmp.protocol state.gatmp.id state.gatmp.port
            state.gatmp.action
          some { state.setStage number thread (.sent slept telegram) with
            telegrams := state.telegrams ++ telegram.toList }
      | _ => none
  | .finish _ =>
      match thread.stage with
      | .sent slept telegram =>
          let cache := setGA state.cache state.gatmp.id state.gatmp
          some { state with
            threads := Function.update state.threads number none
            cache := cache
            resets := ⟨thread.command, slept, telegram, cache thread.command.id⟩ :: state.resets }
      | _ => none
  | _ => none

/-- A step of the thread that an action belongs to, or of the clients. -/
def step : Step State Action := fun state action =>
  match action with
  | .start number | .wake number | .send number | .finish number =>
      (state.threads number).bind fun thread => threadStep state number thread action
  | .pass time => some { state with clock := state.clock + time }
  | .client addr entry => some { state with cache := Function.update state.cache addr entry }
  | _ => busStep state action

/-- Nothing is in hand and there are no threads. -/
def State.start (idle : GaState) (cache : Cache) : State :=
  { gatmp := idle, current := idle, phase := .waiting, threads := fun _ => none, clock := 0,
    cache := cache, telegrams := [], resets := [] }

/-- The reset is for the accessory of its command, after the activation time of this
command, and is in the cache if the accessory is. -/
structure Reset.Right (reset : Reset) : Prop where
  slept : (reset.slept : Int) = reset.command.activetime * 1000
  telegram : reset.telegram =
    comp reset.command.protocol reset.command.id reset.command.port 0
  cached : ∀ entry, reset.cached = some entry → entry = ⟨reset.command.port, 0⟩

/-- All resets so far switched off the accessory that they were started for. -/
def Right (state : State) : Prop :=
  ∀ reset ∈ state.resets, reset.Right

/-- What a thread has still to read is as in the command it is started for. -/
def Thread.Served (thread : Thread) (gatmp : GaState) : Prop :=
  gatmp.id = thread.command.id ∧ gatmp.port = thread.command.port ∧
    match thread.stage with
    | .created =>
        gatmp.protocol = thread.command.protocol ∧ gatmp.activetime = thread.command.activetime
    | .sleeping _ _ => gatmp.protocol = thread.command.protocol
    | .woken _ => gatmp.protocol = thread.command.protocol ∧ gatmp.action = 0
    | .sent _ _ => gatmp.action = 0

/-- A command that is dequeued serves the threads that are under way, and a thread is
started for a time that `usleep` can take. -/
def Undisturbed (state : State) : Action → Prop
  | .dequeueNextGA command =>
      ∀ number thread, state.threads number = some thread → thread.Served command
  | .spawn (some _) => state.current.activetime * 1000 < 2 ^ 32
  | _ => True

/-- What a thread has read is as in the command it is started for. -/
def Thread.Own (thread : Thread) : Prop :=
  match thread.stage with
  | .created => 0 ≤ thread.command.activetime ∧ thread.command.activetime * 1000 < 2 ^ 32
  | .sleeping slept _ => (slept : Int) = thread.command.activetime * 1000
  | .woken slept => (slept : Int) = thread.command.activetime * 1000
  | .sent slept telegram =>
      (slept : Int) = thread.command.activetime * 1000 ∧
        telegram = comp thread.command.protocol thread.command.id thread.command.port 0

/-- The variable of the bus thread has the command in hand but for the action, which any
thread may have set to 0. -/
structure InHand (gatmp current : GaState) : Prop where
  id : gatmp.id = current.id
  port : gatmp.port = current.port
  protocol : gatmp.protocol = current.protocol
  activetime : gatmp.activetime = current.activetime

/-- What holds between the steps: the shared variable is the command that each thread
was started for. -/
structure Inv (state : State) : Prop where
  threads : ∀ number thread, state.threads number = some thread →
    thread.Served state.gatmp ∧ thread.Own
  inHand : InHand state.gatmp state.current
  spawning : state.phase = .spawning → 1000 ≤ state.current.activetime
  right : Right state

theorem sleepTime_eq {activetime : Int} (nonneg : 0 ≤ activetime)
    (fits : activetime * 1000 < 2 ^ 32) : (sleepTime activetime : Int) = activetime * 1000 := by
  rw [sleepTime, Int.emod_eq_of_lt (by omega) fits, Int.toNat_of_nonneg (by omega)]

theorem Thread.Served.zeroAction {thread : Thread} {gatmp : GaState}
    (served : thread.Served gatmp) : thread.Served { gatmp with action := 0 } := by
  rcases served with ⟨id, port, rest⟩
  refine ⟨id, port, ?_⟩
  cases stage : thread.stage with
  | created =>
      rw [stage] at rest
      exact rest
  | sleeping slept wakeup =>
      rw [stage] at rest
      exact rest
  | woken slept =>
      rw [stage] at rest
      exact ⟨rest.1, rfl⟩
  | sent slept telegram => rfl

theorem InHand.zeroAction {gatmp current : GaState} (inHand : InHand gatmp current) :
    InHand { gatmp with action := 0 } current :=
  ⟨inHand.id, inHand.port, inHand.protocol, inHand.activetime⟩

section Steps

variable {state next : State} {number : Nat} {thread : Thread}

/-- A write of 0 to the action disturbs no thread. -/
theorem Inv.zeroAction (inv : Inv state) : Inv state.zeroAction where
  threads := fun number thread present =>
    ⟨(inv.threads number thread present).1.zeroAction, (inv.threads number thread present).2⟩
  inHand := inv.inHand.zeroAction
  spawning := inv.spawning
  right := inv.right

theorem forall_update {threads : Nat → Option Thread} {property : Thread → Prop}
    {value : Option Thread}
    (others : ∀ number thread, threads number = some thread → property thread)
    (new : ∀ thread, value = some thread → property thread) :
    ∀ other thread, Function.update threads number value other = some thread →
      property thread := by
  intro other thread present
  rcases eq_or_ne other number with rfl | differs
  · rw [Function.update_self] at present
    exact new thread present
  · rw [Function.update_of_ne differs] at present
    exact others other thread present

/-- A thread goes on to a stage that it is ready for. -/
theorem Inv.setStage (inv : Inv state) {stage : Stage}
    (served : Thread.Served ⟨thread.command, stage⟩ state.gatmp)
    (own : Thread.Own ⟨thread.command, stage⟩) :
    Inv (state.setStage number thread stage) where
  threads := forall_update inv.threads fun _ same => by
    cases same
    exact ⟨served, own⟩
  inHand := inv.inHand
  spawning := inv.spawning
  right := inv.right

theorem Inv.start (inv : Inv state) (present : state.threads number = some thread)
    (created : thread.stage = .created) (wakeup : Nat) :
    Inv (state.setStage number thread (.sleeping (sleepTime state.gatmp.activetime) wakeup)) := by
  rcases inv.threads number thread present with ⟨⟨id, port, rest⟩, own⟩
  rw [created] at rest
  rw [Thread.Own, created] at own
  apply inv.setStage
  · exact ⟨id, port, rest.1⟩
  · rw [rest.2]
    exact sleepTime_eq own.1 own.2

theorem Inv.wake (inv : Inv state) (present : state.threads number = some thread)
    {slept wakeup : Nat} (asleep : thread.stage = .sleeping slept wakeup) :
    Inv (state.zeroAction.setStage number thread (.woken slept)) := by
  rcases inv.threads number thread present with ⟨⟨id, port, rest⟩, own⟩
  rw [asleep] at rest
  rw [Thread.Own, asleep] at own
  apply inv.zeroAction.setStage
  · exact ⟨id, port, rest, rfl⟩
  · exact own

theorem Inv.send (inv : Inv state) (present : state.threads number = some thread)
    {slept : Nat} (woken : thread.stage = .woken slept) :
    Inv (state.setStage number thread (.sent slept (comp state.gatmp.protocol state.gatmp.id
      state.gatmp.port state.gatmp.action))) := by
  rcases inv.threads number thread present with ⟨⟨id, port, rest⟩, own⟩
  rw [woken] at rest
  rw [Thread.Own, woken] at own
  apply inv.setStage
  · exact ⟨id, port, rest.2⟩
  · refine ⟨own, ?_⟩
    rw [id, port, rest.1, rest.2]

theorem setGA_self {cache : Cache} {addr : Int} {a : GaState} {entry : CacheEntry}
    (cached : setGA cache addr a addr = some entry) : entry = ⟨a.port, a.action⟩ := by
  rw [setGA, Function.update_self, Option.map_eq_some_iff] at cached
  rcases cached with ⟨_, _, stored⟩
  exact stored.symm

/-- The reset at the end of a thread. -/
theorem Inv.reset_right (inv : Inv state) (present : state.threads number = some thread)
    {slept : Nat} {telegram : Option Telegram} (sent : thread.stage = .sent slept telegram) :
    Reset.Right ⟨thread.command, slept, telegram,
      setGA state.cache state.gatmp.id state.gatmp thread.command.id⟩ := by
  rcases inv.threads number thread present with ⟨⟨id, port, rest⟩, own⟩
  rw [sent] at rest
  rw [Thread.Own, sent] at own
  constructor
  · exact own.1
  · exact own.2
  · intro entry cached
    rw [← id] at cached
    rw [setGA_self cached, port]
    exact congrArg _ rest

theorem Inv.threadStep {action : Action} (inv : Inv state)
    (present : state.threads number = some thread)
    (taken : threadStep state number thread action = some next) : Inv next := by
  unfold DelayedGa.threadStep at taken
  split at taken
  · split at taken
    · rename_i created
      cases taken
      exact inv.start present created _
    · contradiction
  · split at taken
    · rename_i asleep
      split at taken
      · cases taken
        exact inv.wake present asleep
      · contradiction
    · contradiction
  · split at taken
    · rename_i woken
      cases taken
      have sent := inv.send present woken
      exact ⟨sent.threads, sent.inHand, sent.spawning, sent.right⟩
    · contradiction
  · split at taken
    · rename_i slept telegram sent
      cases taken
      constructor
      · exact forall_update inv.threads fun _ gone => nomatch gone
      · exact inv.inHand
      · exact inv.spawning
      · intro reset mem
        rcases List.mem_cons.mp mem with rfl | earlier
        · exact inv.reset_right present sent
        · exact inv.right reset earlier
    · contradiction
  · contradiction

theorem Inv.busStep {action : Action} (inv : Inv state) (undisturbed : Undisturbed state action)
    (taken : busStep state action = some next) : Inv next := by
  unfold DelayedGa.busStep at taken
  split at taken
  · split at taken
    · cases taken
      refine ⟨fun number thread present => ⟨undisturbed number thread present,
        (inv.threads number thread present).2⟩, ⟨rfl, rfl, rfl, rfl⟩, nofun, inv.right⟩
    · contradiction
  · split at taken
    · cases taken
      exact ⟨inv.threads, inv.inHand, nofun, inv.right⟩
    · contradiction
  · split at taken
    · cases taken
      refine ⟨inv.threads, inv.inHand, fun spawning => ?_, inv.right⟩
      dsimp only at spawning
      split at spawning
      · contradiction
      · split at spawning
        · contradiction
        · rename_i long
          rw [inv.inHand.activetime] at long
          exact not_lt.mp long
    · contradiction
  · split at taken
    · split at taken
      · cases taken
        have zero := inv.zeroAction
        exact ⟨zero.threads, zero.inHand, nofun, zero.right⟩
      · contradiction
    · contradiction
  · split at taken
    · cases taken
      exact ⟨inv.threads, inv.inHand, nofun, inv.right⟩
    · contradiction
  · split at taken
    · rename_i spawning _
      cases taken
      refine ⟨forall_update inv.threads fun _ same => ?_, inv.inHand, nofun, inv.right⟩
      cases same
      have long := inv.spawning spawning
      refine ⟨⟨inv.inHand.id, inv.inHand.port, inv.inHand.protocol, inv.inHand.activetime⟩, ?_, ?_⟩
      · change 0 ≤ state.current.activetime
        omega
      · exact undisturbed
    · contradiction
  · contradiction

/-- What one step keeps. -/
theorem Inv.step {action : Action} (inv : Inv state) (undisturbed : Undisturbed state action)
    (taken : step state action = some next) : Inv next := by
  have thread : ∀ number, ((state.threads number).bind fun thread =>
      DelayedGa.threadStep state number thread action) = some next → Inv next := by
    intro number bound
    rcases Option.bind_eq_some_iff.mp bound with ⟨thread, present, moved⟩
    exact inv.threadStep present moved
  cases action with
  | dequeueNextGA | transmit | record | switchOff | spawn => exact inv.busStep undisturbed taken
  | start number | wake number | send number | finish number => exact thread number taken
  | pass | client =>
      cases taken
      exact ⟨inv.threads, inv.inHand, inv.spawning, inv.right⟩

end Steps

theorem Inv.initial (idle : GaState) (cache : Cache) : Inv (State.start idle cache) where
  threads := by
    intro number thread present
    cases present
  inHand := ⟨rfl, rfl, rfl, rfl⟩
  spawning := by
    intro spawning
    cases spawning
  right := fun _ mem => absurd mem List.not_mem_nil

/-- Every reset carried out in a run is right when the commands that are dequeued do not
disturb the threads under way. -/
theorem holdsAlong_right (idle : GaState) (cache : Cache) {actions : List Action}
    (undisturbed : MeetsAlong step Undisturbed (State.start idle cache) actions) :
    HoldsAlong step Right (State.start idle cache) actions :=
  holdsAlong_of_meets (fun _ inv => inv.right)
    (fun _ _ _ inv undisturbed taken => inv.step undisturbed taken)
    (Inv.initial idle cache) undisturbed

/-! ## Two accessories -/

/-- An activation of one second. -/
def command (id : Int) : GaState :=
  { protocol := 'M', id := id, port := 0, action := 1, activetime := 1000, tv := fun _ => 0 }

/-- The accessories 1 and 2 are initialised. -/
def bothInitialised : Cache :=
  fun addr => if addr = 1 ∨ addr = 2 then some ⟨0, 0⟩ else none

/-- The bus thread handles an activation, up to the start of its thread. -/
def handling (id : Int) : List Action :=
  [.dequeueNextGA (command id), .transmit, .record]

/-- A thread runs from its start to its end. -/
def resetting (number : Nat) : List Action :=
  [.start number, .pass 1000000, .wake number, .send number, .finish number]

/-- The accessories one behind the other. -/
theorem holdsAlong_right_separate :
    MeetsAlong step Undisturbed (State.start (command 0) bothInitialised)
        (handling 1 ++ .spawn (some 0) :: resetting 0) ∧
      HoldsAlong step Right (State.start (command 0) bothInitialised)
        (handling 1 ++ .spawn (some 0) :: resetting 0) := by
  have undisturbed : MeetsAlong step Undisturbed (State.start (command 0) bothInitialised)
      (handling 1 ++ .spawn (some 0) :: resetting 0) := by
    refine (meetsAlong_cons_iff rfl).mpr ⟨(fun _ _ absent => nomatch absent), ?_⟩
    refine (meetsAlong_cons_iff rfl).mpr ⟨trivial, ?_⟩
    refine (meetsAlong_cons_iff rfl).mpr ⟨trivial, ?_⟩
    refine (meetsAlong_cons_iff rfl).mpr ⟨(by decide : (1000 : Int) * 1000 < 2 ^ 32), ?_⟩
    -- nothing is asked of a thread that is under way
    apply meetsAlong_of_forall
    simp only [resetting, List.forall_mem_cons]
    exact ⟨fun _ => trivial, fun _ => trivial, fun _ => trivial, fun _ => trivial,
      fun _ => trivial, nofun⟩
  exact ⟨undisturbed, holdsAlong_right _ _ undisturbed⟩

/-- The second accessory is dequeued before the thread for the first one has read its
command: it is switched off twice, and the first one stays on. -/
theorem not_right_second_accessory :
    ¬ ∀ (idle : GaState) (cache : Cache) (actions : List Action),
      HoldsAlong step Right (State.start idle cache) actions := by
  intro always
  have wrong : (run step (State.start (command 0) bothInitialised)
      (handling 1 ++ .spawn (some 0) :: handling 2 ++ resetting 0)).map (fun last =>
        last.resets.all fun reset => reset.telegram =
          comp reset.command.protocol reset.command.id reset.command.port 0) = some false := by
    decide
  rcases Option.map_eq_some_iff.mp wrong with ⟨last, executed, other⟩
  have right := (always (command 0) bothInitialised _).last executed
  have telegrams := List.all_eq_true.mpr fun reset mem =>
    decide_eq_true (right reset mem).telegram
  exact absurd (telegrams.symm.trans other) (by decide)

end Srcpd.Ddl.DelayedGa
