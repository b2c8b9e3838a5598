import Srcpd.Command.Queues

/-!
# Suspending the Selectrix bus thread

The thread tests what there is to do one after another, and suspends itself when
a whole round found nothing.  A session appends its command or changes the power
first and signals afterwards, but neither the tests nor the appends share a lock
with the wait, a signal without a waiting thread has no effect, and `enqueueSM`
does not signal at all.

`servesWork_of_meets` says which order of these steps keeps the thread from
sleeping with work to do.
-/

namespace Srcpd.Driver.Selectrix

open Srcpd.Command Srcpd.Queue Srcpd.Transition

/-! ## The parties -/

/-- What the thread looks at in a round. -/
inductive Source
  | power
  | sm
  | gl
  | ga
  deriving DecidableEq, Repr

/-- The thread before each of its tests, before the reset of `power_changed`,
before the wait, in the wait, and signalled. -/
inductive Place
  | power
  | powerHandled
  | sm
  | gl
  | ga
  | feedback
  | suspending
  | suspended
  | resumed
  deriving DecidableEq, Repr

/-- The bus; `found` is whether `state` differs from 0 in this round. -/
structure Bus where
  powerState : Int
  powerChanged : Int
  smQueue : Queue.Ring SmState
  glQueue : Queue.Ring GlState
  gaQueue : Queue.Ring GaState
  numberFb : Int
  stateInterface : Int
  place : Place
  found : Bool
  /-- Threads in `setPower` that have not written `power_changed` yet. -/
  settingPower : Nat
  /-- Threads that have still to call `resume_bus_thread`. -/
  signalsDue : Nat

/-- The steps of the sessions and the feedback thread, and of the bus thread.  An
append follows a test for a full queue at any distance, so that it is possible
whatever the queue holds. -/
inductive Action
  | appendGL (entry : GlState)
  | appendGA (entry : GaState)
  | appendSM (entry : SmState)
  | setPowerState (on : Bool)
  | setPowerChanged
  | selectFeedback
  | setInterface (value : Int)
  | signal
  | testPower
  | clearPower
  | testSM
  | testGL
  | testGA
  | testFeedback
  | wait
  | spurious
  | resume

/-- `pthread_cond_signal` reaches the thread only in its wait. -/
def Place.signal : Place → Place
  | .suspended => .resumed
  | place => place

/-- One step of a session, or of the command thread. -/
def step : Step Bus Action
  | bus, .appendGL entry =>
      some { bus with
        glQueue := bus.glQueue.put glQueuelen entry
        signalsDue := bus.signalsDue + 1 }
  | bus, .appendGA entry =>
      some { bus with
        gaQueue := bus.gaQueue.put gaQueuelen entry
        signalsDue := bus.signalsDue + 1 }
  | bus, .appendSM entry => some { bus with smQueue := bus.smQueue.put smQueuelen entry }
  | bus, .setPowerState on =>
      some { bus with
        powerState := if on then 1 else 0
        settingPower := bus.settingPower + 1 }
  | bus, .setPowerChanged =>
      if 0 < bus.settingPower then
        some { bus with
          powerChanged := 1
          settingPower := bus.settingPower - 1
          signalsDue := bus.signalsDue + 1 }
      else none
  | bus, .selectFeedback =>
      some { bus with stateInterface := 1, signalsDue := bus.signalsDue + 1 }
  | bus, .setInterface value => some { bus with stateInterface := value }
  | bus, .signal =>
      if 0 < bus.signalsDue then
        some { bus with place := bus.place.signal, signalsDue := bus.signalsDue - 1 }
      else none
  | bus, .testPower =>
      if bus.place = .power then
        if bus.powerChanged ≠ 0 then some { bus with place := .powerHandled, found := true }
        else some { bus with place := .sm, found := false }
      else none
  | bus, .clearPower =>
      if bus.place = .powerHandled then some { bus with powerChanged := 0, place := .sm } else none
  | bus, .testSM =>
      -- only programming if power is off
      if bus.place = .sm then
        if bus.powerState = 0 then
          match bus.smQueue.take smQueuelen id with
          | some (_, rest) => some { bus with smQueue := rest, place := .gl, found := true }
          | none => some { bus with place := .gl }
        else some { bus with place := .gl }
      else none
  | bus, .testGL =>
      if bus.place = .gl then
        match bus.glQueue.take glQueuelen id with
        | some (_, rest) => some { bus with glQueue := rest, place := .ga, found := true }
        | none => some { bus with place := .ga }
      else none
  | bus, .testGA =>
      if bus.place = .ga then
        match bus.gaQueue.take gaQueuelen id with
        | some (_, rest) => some { bus with gaQueue := rest, place := .feedback, found := true }
        | none => some { bus with place := .feedback }
      else none
  | bus, .testFeedback =>
      if bus.place = .feedback then
        if 0 < bus.numberFb ∧ bus.stateInterface = 1 then
          some { bus with stateInterface := 2, place := .power, found := true }
        else some { bus with place := if bus.found then .power else .suspending }
      else none
  | bus, .wait =>
      if bus.place = .suspending then some { bus with place := .suspended } else none
  | bus, .spurious =>
      if bus.place = .suspended then some { bus with place := .resumed } else none
  | bus, .resume => if bus.place = .resumed then some { bus with place := .power } else none

/-! ## Work and signals -/

/-- There is something to do; service mode is served with the power off. -/
def Bus.Waits (bus : Bus) : Source → Prop
  | .power => bus.powerChanged ≠ 0
  | .sm => bus.powerState = 0 ∧ bus.smQueue.isEmpty = false
  | .gl => bus.glQueue.isEmpty = false
  | .ga => bus.gaQueue.isEmpty = false

/-- Some thread is still going to signal. -/
def Bus.SignalPending (bus : Bus) : Prop :=
  0 < bus.settingPower ∨ 0 < bus.signalsDue

instance (bus : Bus) : Decidable bus.SignalPending :=
  inferInstanceAs (Decidable (_ ∨ _))

/-- The thread does not sleep with work to do, unless a signal is on its way. -/
def Bus.ServesWork (bus : Bus) : Prop :=
  bus.place = .suspended → (∃ source, bus.Waits source) → bus.SignalPending

/-! ## What comes behind a test -/

/-- For each source whether something came up since the thread tested it last. -/
abbrev Behind := Source → Bool

/-- What is due behind an action that the thread has not seen yet. -/
def Behind.note (behind : Behind) (bus : Bus) : Action → Behind
  | .appendGL _ => Function.update behind .gl true
  | .appendGA _ => Function.update behind .ga true
  | .appendSM _ => Function.update behind .sm (behind .sm || bus.powerState == 0)
  | .setPowerState on => Function.update behind .sm (behind .sm || !on)
  | .setPowerChanged => Function.update behind .power true
  | .testPower => Function.update behind .power false
  | .testSM => Function.update behind .sm false
  | .testGL => Function.update behind .gl false
  | .testGA => Function.update behind .ga false
  | _ => behind

/-- A step with the note of what is due. -/
def watchedStep : Step (Bus × Behind) Action := fun watched action =>
  (step watched.1 action).map fun next => (next, watched.2.note watched.1 action)

/-- A signal is pending whenever the thread starts its wait although something
came up behind the test for it, and whenever a service mode command is appended
while the thread waits with the power off. -/
def SignalsInTime (watched : Bus × Behind) : Action → Prop
  | .wait => (∀ source, watched.2 source = false) ∨ watched.1.SignalPending
  | .appendSM _ =>
      watched.1.place = .suspended → watched.1.powerState = 0 → watched.1.SignalPending
  | _ => True

/-! ## A round -/

/-- The tests of a round that lie behind a place. -/
def Place.passed : Place → Source → Bool
  | .sm, .power => true
  | .gl, .power | .gl, .sm => true
  | .ga, .power | .ga, .sm | .ga, .gl => true
  | .feedback, _ => true
  | .suspending, _ => true
  | _, _ => false

/-- What the thread knows: in a round that found nothing so far, whatever there
is to do at a test behind it came up behind that test. -/
structure Inv (bus : Bus) (behind : Behind) : Prop where
  serves : bus.ServesWork
  noticed : bus.found = false → ∀ source, bus.place.passed source = true →
    bus.Waits source → behind source = true
  handled : bus.place = .powerHandled → bus.found = true
  quiet : bus.place = .suspending → bus.found = false

variable {bus next : Bus} {behind : Behind}

/-- A step of another thread that has its signal still to give, and marks what it
brought up. -/
theorem Inv.bring (inv : Inv bus behind) {marked : Behind}
    (place : next.place = bus.place) (found : next.found = bus.found)
    (pending : next.SignalPending)
    (marks : ∀ source, next.Waits source → marked source = true ∨
      (bus.Waits source ∧ marked source = behind source)) : Inv next marked where
  serves := fun _ _ => pending
  noticed := by
    intro quiet source passed waits
    rcases marks source waits with new | ⟨old, same⟩
    · exact new
    · simp only [place, found] at quiet passed
      rw [same]
      exact inv.noticed quiet source passed old
  handled := by
    intro handled
    simp only [place, found] at handled ⊢
    exact inv.handled handled
  quiet := by
    intro suspending
    simp only [place, found] at suspending ⊢
    exact inv.quiet suspending

/-- A place outside the round, with nothing tested. -/
theorem Inv.outside (marked : Behind) (awake : next.place ≠ .suspended)
    (untested : ∀ source, next.place.passed source = false)
    (unhandled : next.place ≠ .powerHandled) : Inv next marked where
  serves := fun suspended => absurd suspended awake
  noticed := by
    intro _ source passed
    rw [untested source] at passed
    cases passed
  handled := fun handled => absurd handled unhandled
  quiet := by
    intro suspending
    have tested := untested .power
    rw [suspending] at tested
    cases tested

/-- A test of the bus thread: what it leaves undone came up behind it. -/
theorem Inv.test {marked : Behind} (awake : next.place ≠ .suspended)
    (unhandled : next.place ≠ .powerHandled)
    (noticed : next.found = false → ∀ source, next.place.passed source = true →
      next.Waits source → marked source = true)
    (quiet : next.place = .suspending → next.found = false) : Inv next marked where
  serves := fun suspended => absurd suspended awake
  noticed := noticed
  handled := fun handled => absurd handled unhandled
  quiet := quiet

theorem Inv.signal (inv : Inv bus behind) :
    Inv { bus with place := bus.place.signal, signalsDue := bus.signalsDue - 1 } behind := by
  by_cases suspended : bus.place = .suspended
  · rw [suspended]
    exact Inv.outside behind (by simp [Place.signal]) (by simp [Place.signal, Place.passed])
      (by simp [Place.signal])
  · have same : bus.place.signal = bus.place := by
      cases place : bus.place <;> simp_all [Place.signal]
    rw [same]
    exact Inv.mk (fun sleeps => absurd sleeps suspended) inv.noticed inv.handled inv.quiet

theorem Inv.appendSM (inv : Inv bus behind) (entry : SmState)
    (inTime : SignalsInTime (bus, behind) (.appendSM entry)) :
    Inv { bus with smQueue := bus.smQueue.put smQueuelen entry }
      (behind.note bus (.appendSM entry)) where
  serves := by
    intro suspended waits
    rcases waits with ⟨source, waits⟩
    cases source with
    | sm => exact inTime suspended waits.1
    | power => exact inv.serves suspended ⟨.power, waits⟩
    | gl => exact inv.serves suspended ⟨.gl, waits⟩
    | ga => exact inv.serves suspended ⟨.ga, waits⟩
  noticed := by
    intro quiet source passed waits
    cases source with
    | sm =>
        have off : bus.powerState = 0 := waits.1
        simp [Behind.note, off]
    | power => simpa [Behind.note] using inv.noticed quiet .power passed waits
    | gl => simpa [Behind.note] using inv.noticed quiet .gl passed waits
    | ga => simpa [Behind.note] using inv.noticed quiet .ga passed waits
  handled := inv.handled
  quiet := inv.quiet

/-- The thread starts its wait. -/
theorem Inv.wait (inv : Inv bus behind) (suspending : bus.place = .suspending)
    (inTime : SignalsInTime (bus, behind) .wait) :
    Inv { bus with place := .suspended } behind where
  serves := by
    rintro - ⟨source, waits⟩
    rcases inTime with nothing | pending
    · have marked := inv.noticed (inv.quiet suspending) source (by simp [suspending, Place.passed])
        (by cases source <;> exact waits)
      rw [show behind source = false from nothing source] at marked
      cases marked
    · exact pending
  noticed := by
    intro _ source passed
    cases source <;> cases passed
  handled := by
    intro handled
    cases handled
  quiet := by
    intro suspending
    cases suspending

theorem take_eq_none_iff {α : Type} (capacity : Nat) (mark : α → α) (ring : Queue.Ring α) :
    ring.take capacity mark = none ↔ ring.isEmpty = true := by
  unfold Ring.take
  split <;> simp_all

/-- A test behind which the round is not over: the marks change for the source
tested only, and a round that found nothing leaves nothing to do there. -/
theorem Inv.advance (inv : Inv bus behind) {source : Source}
    (found : next.found = false → bus.found = false)
    (awake : next.place ≠ .suspended) (unhandled : next.place ≠ .powerHandled)
    (unfinished : next.place ≠ .suspending)
    (waits : ∀ other, next.Waits other → other ≠ source → bus.Waits other)
    (passed : ∀ other, next.place.passed other = true → other ≠ source →
      bus.place.passed other = true)
    (done : next.found = false → ¬ next.Waits source) :
    Inv next (Function.update behind source false) := by
  apply Inv.test awake unhandled
  · intro quiet other tested left
    by_cases same : other = source
    · subst same
      exact absurd left (done quiet)
    · rw [Function.update_of_ne same]
      exact inv.noticed (found quiet) other (passed other tested same) (waits other left same)
  · intro suspending
    exact absurd suspending unfinished

theorem inv_testPower (place : bus.place = .power)
    (taken : step bus .testPower = some next) :
    Inv next (behind.note bus .testPower) := by
  simp only [step, place, if_true] at taken
  split at taken
  · cases taken
    exact Inv.mk (fun sleeps => by cases sleeps) (fun quiet => by cases quiet) (fun _ => rfl)
      (fun suspending => by cases suspending)
  · rename_i unchanged
    cases taken
    apply Inv.test
    · simp
    · simp
    · intro _ source passed waits
      cases source with
      | power => exact absurd waits unchanged
      | sm => cases passed
      | gl => cases passed
      | ga => cases passed
    · simp

theorem Inv.clearPower (inv : Inv bus behind) (place : bus.place = .powerHandled) :
    Inv { bus with powerChanged := 0, place := .sm } behind := by
  apply Inv.test
  · simp
  · simp
  · intro quiet
    simp only [inv.handled place] at quiet
    cases quiet
  · simp

theorem Inv.testSM (inv : Inv bus behind) (place : bus.place = .sm)
    (taken : step bus .testSM = some next) : Inv next (behind.note bus .testSM) := by
  have passed : ∀ other, Place.gl.passed other = true → other ≠ .sm →
      bus.place.passed other = true := by
    intro other tested different
    rw [place]
    cases other <;> simp_all [Place.passed]
  simp only [step, place, if_true] at taken
  split at taken
  · split at taken
    · -- one command a round: what else waits is left to the next one
      cases taken
      apply inv.advance
      · simp
      · simp
      · simp
      · simp
      · intro other waits different
        cases other <;> simp_all [Bus.Waits]
      · exact passed
      · simp
    · rename_i none
      have empty := (take_eq_none_iff _ _ _).mp none
      cases taken
      apply inv.advance
      · exact id
      · simp
      · simp
      · simp
      · exact fun _ waits _ => waits
      · exact passed
      · simp [Bus.Waits, empty]
  · rename_i on
    cases taken
    apply inv.advance
    · exact id
    · simp
    · simp
    · simp
    · exact fun _ waits _ => waits
    · exact passed
    · exact fun _ waits => on waits.1

theorem Inv.testGL (inv : Inv bus behind) (place : bus.place = .gl)
    (taken : step bus .testGL = some next) : Inv next (behind.note bus .testGL) := by
  have passed : ∀ other, Place.ga.passed other = true → other ≠ .gl →
      bus.place.passed other = true := by
    intro other tested different
    rw [place]
    cases other <;> simp_all [Place.passed]
  simp only [step, place, if_true] at taken
  split at taken
  · cases taken
    apply inv.advance
    · simp
    · simp
    · simp
    · simp
    · intro other waits different
      cases other <;> simp_all [Bus.Waits]
    · exact passed
    · simp
  · rename_i none
    have empty := (take_eq_none_iff _ _ _).mp none
    cases taken
    apply inv.advance
    · exact id
    · simp
    · simp
    · simp
    · exact fun _ waits _ => waits
    · exact passed
    · simp [Bus.Waits, empty]

theorem Inv.testGA (inv : Inv bus behind) (place : bus.place = .ga)
    (taken : step bus .testGA = some next) : Inv next (behind.note bus .testGA) := by
  have passed : ∀ other, Place.feedback.passed other = true → other ≠ .ga →
      bus.place.passed other = true := by
    intro other tested different
    rw [place]
    cases other <;> simp_all [Place.passed]
  simp only [step, place, if_true] at taken
  split at taken
  · cases taken
    apply inv.advance
    · simp
    · simp
    · simp
    · simp
    · intro other waits different
      cases other <;> simp_all [Bus.Waits]
    · exact passed
    · simp
  · rename_i none
    have empty := (take_eq_none_iff _ _ _).mp none
    cases taken
    apply inv.advance
    · exact id
    · simp
    · simp
    · simp
    · exact fun _ waits _ => waits
    · exact passed
    · simp [Bus.Waits, empty]

/-- The end of a round. -/
theorem Inv.testFeedback (inv : Inv bus behind) (place : bus.place = .feedback)
    (taken : step bus .testFeedback = some next) : Inv next behind := by
  simp only [step, place, if_true] at taken
  split at taken
  · cases taken
    exact Inv.outside behind (by simp) (by simp [Place.passed]) (by simp)
  · cases taken
    cases found : bus.found with
    | true => exact Inv.outside behind (by simp) (by simp [Place.passed]) (by simp)
    | false =>
        apply Inv.test
        · simp
        · simp
        · intro _ source _ waits
          exact inv.noticed found source (by simp [place, Place.passed]) waits
        · exact fun _ => rfl

/-! ## Runs -/

theorem Inv.step {action : Action} (inv : Inv bus behind)
    (inTime : SignalsInTime (bus, behind) action)
    (taken : Selectrix.step bus action = some next) : Inv next (behind.note bus action) := by
  cases action with
  | appendGL entry =>
      cases taken
      apply inv.bring
      · rfl
      · rfl
      · exact .inr (Nat.succ_pos _)
      · intro source waits
        cases source <;> simp_all [Behind.note, Bus.Waits]
  | appendGA entry =>
      cases taken
      apply inv.bring
      · rfl
      · rfl
      · exact .inr (Nat.succ_pos _)
      · intro source waits
        cases source <;> simp_all [Behind.note, Bus.Waits]
  | appendSM entry =>
      cases taken
      exact inv.appendSM entry inTime
  | setPowerState on =>
      cases taken
      apply inv.bring
      · rfl
      · rfl
      · exact .inl (Nat.succ_pos _)
      · intro source waits
        cases source <;> cases on <;> simp_all [Behind.note, Bus.Waits]
  | setPowerChanged =>
      simp only [Selectrix.step, Option.ite_none_right_eq_some, Option.some.injEq] at taken
      rcases taken with ⟨_, rfl⟩
      apply inv.bring
      · rfl
      · rfl
      · exact .inr (Nat.succ_pos _)
      · intro source waits
        cases source <;> simp_all [Behind.note, Bus.Waits]
  | selectFeedback =>
      cases taken
      apply inv.bring
      · rfl
      · rfl
      · exact .inr (Nat.succ_pos _)
      · intro source waits
        exact .inr ⟨by cases source <;> exact waits, rfl⟩
  | setInterface value =>
      cases taken
      exact Inv.mk (fun sleeps waits => inv.serves sleeps
        (waits.imp fun source waits => by cases source <;> exact waits))
        (fun quiet source passed waits => inv.noticed quiet source passed
          (by cases source <;> exact waits)) inv.handled inv.quiet
  | signal =>
      simp only [Selectrix.step, Option.ite_none_right_eq_some, Option.some.injEq] at taken
      rcases taken with ⟨_, rfl⟩
      exact inv.signal
  | testPower =>
      have place : bus.place = .power := by
        by_contra elsewhere
        simp [Selectrix.step, elsewhere] at taken
      exact inv_testPower place taken
  | clearPower =>
      simp only [Selectrix.step, Option.ite_none_right_eq_some, Option.some.injEq] at taken
      rcases taken with ⟨place, rfl⟩
      exact inv.clearPower place
  | testSM =>
      have place : bus.place = .sm := by
        by_contra elsewhere
        simp [Selectrix.step, elsewhere] at taken
      exact inv.testSM place taken
  | testGL =>
      have place : bus.place = .gl := by
        by_contra elsewhere
        simp [Selectrix.step, elsewhere] at taken
      exact inv.testGL place taken
  | testGA =>
      have place : bus.place = .ga := by
        by_contra elsewhere
        simp [Selectrix.step, elsewhere] at taken
      exact inv.testGA place taken
  | testFeedback =>
      have place : bus.place = .feedback := by
        by_contra elsewhere
        simp [Selectrix.step, elsewhere] at taken
      exact inv.testFeedback place taken
  | wait =>
      simp only [Selectrix.step, Option.ite_none_right_eq_some, Option.some.injEq] at taken
      rcases taken with ⟨place, rfl⟩
      exact inv.wait place inTime
  | spurious =>
      simp only [Selectrix.step, Option.ite_none_right_eq_some, Option.some.injEq] at taken
      rcases taken with ⟨_, rfl⟩
      exact Inv.outside behind (by simp) (by simp [Place.passed]) (by simp)
  | resume =>
      simp only [Selectrix.step, Option.ite_none_right_eq_some, Option.some.injEq] at taken
      rcases taken with ⟨_, rfl⟩
      exact Inv.outside behind (by simp) (by simp [Place.passed]) (by simp)

/-- The thread starts, whatever the queues and the power are. -/
def Bus.Starting (bus : Bus) : Prop :=
  bus.place = .power

/-- In every interleaving in which the signals come in time, the thread never
sleeps with work to do and no signal pending. -/
theorem servesWork_of_meets (bus : Bus) (starting : bus.Starting) (behind : Behind)
    (actions : List Action)
    (inTime : MeetsAlong watchedStep SignalsInTime (bus, behind) actions) :
    HoldsAlong watchedStep (fun watched => watched.1.ServesWork) (bus, behind) actions := by
  refine holdsAlong_of_meets (fun watched (inv : Inv watched.1 watched.2) => inv.serves)
    ?_ ?_ inTime
  · intro watched action next inv met executed
    simp only [watchedStep, Option.map_eq_some_iff] at executed
    rcases executed with ⟨after, taken, rfl⟩
    exact inv.step met taken
  · have place : bus.place = .power := starting
    exact Inv.outside behind (by simp [place]) (by simp [place, Place.passed]) (by simp [place])

/-! ## Lost signals -/

/-- Nothing queued, power off. -/
def idleBus (smSlot : SmState) (glSlot : GlState) (gaSlot : GaState) : Bus :=
  { powerState := 0
    powerChanged := 0
    smQueue := ⟨fun _ => smSlot, 0, 0⟩
    glQueue := ⟨fun _ => glSlot, 0, 0⟩
    gaQueue := ⟨fun _ => gaSlot, 0, 0⟩
    numberFb := 0
    stateInterface := 0
    place := .power
    found := false
    settingPower := 0
    signalsDue := 0 }

/-- A slot of the queue that nothing was written to. -/
def idleSmSlot : SmState :=
  ⟨"", 0, ⟨.get, .cv, -1, 1, 0, 0⟩, 0⟩

/-- A locomotive command that comes while the thread waits. -/
theorem servesWork_of_meets_idle :
    (idleBus idleSmSlot .zero idleGaSlot).Starting ∧
      HoldsAlong watchedStep (fun watched => watched.1.ServesWork)
        (idleBus idleSmSlot .zero idleGaSlot, fun _ => false)
        [.testPower, .testSM, .testGL, .testGA, .testFeedback, .wait, .appendGL .zero, .signal] :=
  ⟨rfl, servesWork_of_meets (idleBus idleSmSlot .zero idleGaSlot) rfl _ _
    (by simp [MeetsAlong, SignalsInTime, watchedStep, step, idleBus, Ring.take, Ring.isEmpty,
      Behind.note])⟩

/-- A locomotive command is appended and signalled between the test for one and
the wait; in the second run a service mode command comes while the thread
waits. -/
theorem suspended_with_work :
    (∃ last, run watchedStep (idleBus idleSmSlot .zero idleGaSlot, fun _ => false)
        [.testPower, .testSM, .testGL, .appendGL .zero, .signal, .testGA, .testFeedback, .wait] =
          some last ∧
      last.1.place = .suspended ∧ last.1.Waits .gl ∧ ¬ last.1.SignalPending) ∧
    (∃ last, run watchedStep (idleBus idleSmSlot .zero idleGaSlot, fun _ => false)
        [.testPower, .testSM, .testGL, .testGA, .testFeedback, .wait, .appendSM idleSmSlot] =
          some last ∧
      last.1.place = .suspended ∧ last.1.Waits .sm ∧ ¬ last.1.SignalPending) := by
  constructor
  · exact ⟨_, rfl, rfl, rfl, by decide⟩
  · exact ⟨_, rfl, rfl, ⟨rfl, rfl⟩, by decide⟩

end Srcpd.Driver.Selectrix
