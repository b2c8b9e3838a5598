import Srcpd.Command.Queues

/-!
# Waiting for the result of a service mode command

`infoSM` queues a command and waits until the driver has a result, which the
driver puts into one cell of the bus before it wakes all waiting sessions.  A
session waits on the condition variable once, without a test of what it waits
for, and it does so even when its command was not queued.  The driver neither
locks the mutex around the cell nor owns the mutex that it unlocks.

`answersRight_of_meets` says what has to hold whenever the driver posts a
result for every session to be answered with its own.
-/

namespace Srcpd.Command

open Srcpd.Queue Srcpd.Transition

/-! ## The parties -/

/-- A call of `infoSM`, numbered. -/
structure Request where
  number : Nat
  command : SmCommand

/-- What `infoSM` answers: the time is over, the value is wrong, or the value. -/
inductive SmReply
  | timeout
  | wrongValue
  | info (type : SmType) (addr typeaddr bit result : Int)
  deriving DecidableEq, Repr

/-- The answer for a result. -/
def infoReply (command : SmCommand) (result : Int) : SmReply :=
  if result = -1 ∨ (command.command = .verify ∧ command.value ≠ result) then .wrongValue
  else .info command.type command.addr command.typeaddr command.bit result

/-- What ended a wait; `own` is the result that had been posted for the session's
own command by then. -/
inductive Wakeup
  | signalled
  | timedOut (own : Option Int)

/-- The answer of a call, with the result that had been posted for its own
command. -/
structure Answer where
  request : Request
  status : SrcpCode
  reply : SmReply
  timedOut : Bool
  own : Option Int

/-- A session in `infoSM`: behind `session_lock_wait`, behind the test for a full
queue, behind `enqueueSM`, in `session_condt_wait`, woken but without the mutex,
with the mutex and the answer. -/
inductive SmSession
  | idle
  | locked (request : Request)
  | tested (request : Request)
  | queued (request : Request) (status : SrcpCode)
  | waiting (request : Request) (status : SrcpCode)
  | woken (request : Request) (status : SrcpCode) (wakeup : Wakeup)
  | answering (answer : Answer)

/-- The driver: behind the read of the queue, with a result, and in
`session_endwait` behind the write of the cell and behind the broadcast. -/
inductive Programmer
  | idle
  | dequeued (number : Nat)
  | produced (number : Nat) (rc : Int)
  | written (number : Nat) (rc : Int)
  | broadcasted

/-- A bus with the requests of its sessions and the cell for the answer. -/
structure SmBus where
  clock : Nat
  /-- Each entry with the number of its request. -/
  queue : Log (SmState × Nat)
  /-- Whether the mutex is locked, by whomever. -/
  cbMutex : Bool
  cbData : Int
  sessions : Nat → SmSession
  programmer : Programmer
  /-- Number of the next request. -/
  calls : Nat
  /-- The results that were posted. -/
  posted : Nat → Option Int
  answers : List Answer

/-- The steps of the sessions and of the bus thread, in any order. -/
inductive SmAction
  | tick (clock : Nat)
  | lock (session : Nat) (command : SmCommand)
  | test (session : Nat)
  | append (session : Nat)
  | wait (session : Nat)
  | timeout (session : Nat)
  | spurious (session : Nat)
  | read (session : Nat)
  | unlock (session : Nat)
  | dequeue
  | produce (rc : Int)
  | write
  | broadcast
  | release

/-- The bus with one session in another state. -/
def SmBus.setSession (bus : SmBus) (session : Nat) (state : SmSession) : SmBus :=
  { bus with sessions := Function.update bus.sessions session state }

/-- What a broadcast does to a session. -/
def SmSession.signal : SmSession → SmSession
  | .waiting request status => .woken request status .signalled
  | session => session

/-- The answer of a session that has the mutex again. -/
def SmBus.answer (bus : SmBus) (request : Request) (status : SrcpCode) : Wakeup → Answer
  | .timedOut own =>
      { request := request, status := status, reply := .timeout, timedOut := true, own := own }
  | .signalled =>
      let reply := infoReply request.command bus.cbData
      { request := request
        status := if reply = .wrongValue then .wrongValue else status
        reply := reply
        timedOut := false
        own := bus.posted request.number }

/-- `none` for an action that is not enabled.  Whoever unlocks the mutex, it is
free afterwards. -/
def smStep : Step SmBus SmAction
  | bus, .tick clock => some { bus with clock := clock }
  | bus, .lock session command =>
      match bus.sessions session, bus.cbMutex with
      | .idle, false =>
          some { bus.setSession session (.locked ⟨bus.calls, command⟩) with
            cbMutex := true
            calls := bus.calls + 1 }
      | _, _ => none
  | bus, .test session =>
      match bus.sessions session with
      | .locked request =>
          some (bus.setSession session
            (if smQueuelen - 1 ≤ bus.queue.ring.length smQueuelen then
              .queued request .temporarilyProhibited
            else .tested request))
      | _ => none
  | bus, .append session =>
      match bus.sessions session with
      | .tested request =>
          let slot := bus.queue.ring.slots bus.queue.ring.inIndex
          some { bus.setSession session (.queued request .ok) with
            queue := bus.queue.put smQueuelen
              (smEntry bus.clock request.command slot.1, request.number) }
      | _ => none
  | bus, .wait session =>
      match bus.sessions session with
      | .queued request status =>
          some { bus.setSession session (.waiting request status) with cbMutex := false }
      | _ => none
  | bus, .timeout session =>
      match bus.sessions session with
      | .waiting request status =>
          some (bus.setSession session
            (.woken request status (.timedOut (bus.posted request.number))))
      | _ => none
  | bus, .spurious session =>
      match bus.sessions session with
      | .waiting request status => some (bus.setSession session (.woken request status .signalled))
      | _ => none
  | bus, .read session =>
      match bus.sessions session, bus.cbMutex with
      | .woken request status wakeup, false =>
          some { bus.setSession session (.answering (bus.answer request status wakeup)) with
            cbMutex := true }
      | _, _ => none
  | bus, .unlock session =>
      match bus.sessions session with
      | .answering answer =>
          some { bus.setSession session .idle with
            cbMutex := false
            answers := bus.answers ++ [answer] }
      | _ => none
  | bus, .dequeue =>
      match bus.programmer, bus.queue.ring.take smQueuelen id with
      | .idle, some (entry, _) =>
          some { bus with
            queue := bus.queue.take smQueuelen id
            programmer := .dequeued entry.2 }
      | _, _ => none
  | bus, .produce rc =>
      match bus.programmer with
      | .dequeued number => some { bus with programmer := .produced number rc }
      | _ => none
  | bus, .write =>
      match bus.programmer with
      | .produced number rc =>
          some { bus with programmer := .written number rc, cbData := rc }
      | _ => none
  | bus, .broadcast =>
      match bus.programmer with
      | .written number rc =>
          some { bus with
            programmer := .broadcasted
            sessions := fun session => (bus.sessions session).signal
            posted := Function.update bus.posted number (some rc) }
      | _ => none
  | bus, .release =>
      match bus.programmer with
      | .broadcasted => some { bus with programmer := .idle, cbMutex := false }
      | _ => none

/-! ## Right answers -/

/-- The answer reports the result of the session's own command; a timeout is
reported only when none had been posted. -/
def Answer.Right (answer : Answer) : Prop :=
  if answer.timedOut then answer.reply = .timeout ∧ answer.own = none
  else ∃ rc, answer.own = some rc ∧ answer.reply = infoReply answer.request.command rc

/-- Each answer that was given, and each that is about to be given, belongs to its request. -/
structure SmBus.AnswersRight (bus : SmBus) : Prop where
  answers : ∀ answer ∈ bus.answers, answer.Right
  answering : ∀ session answer, bus.sessions session = .answering answer → answer.Right

/-- The session is in a call and has not begun to wait. -/
def SmSession.beforeWait : SmSession → Option Request
  | .locked request => some request
  | .tested request => some request
  | .queued request _ => some request
  | _ => none

/-- The request that a session waits for. -/
def SmSession.waits : SmSession → Option Request
  | .waiting request _ => some request
  | _ => none

/-- What has to hold when the driver posts a result.  The cell is overwritten only
when no woken session still has to read another result from it.  At the broadcast
the owner of the command has begun to wait, and nobody else waits.  And no wait
ends without a reason. -/
def PostsToOwner (bus : SmBus) : SmAction → Prop
  | .write => ∀ number rc, bus.programmer = .produced number rc →
      ∀ session request status, bus.sessions session = .woken request status .signalled →
        bus.posted request.number = some rc
  | .broadcast => ∀ number rc, bus.programmer = .written number rc → ∀ session request,
      ((bus.sessions session).beforeWait = some request → request.number ≠ number) ∧
        ((bus.sessions session).waits = some request → request.number = number)
  | .spurious _ => False
  | _ => True

/-- No session is in a call, the driver is idle and has posted nothing, and what
the slots of the queue contain are no requests. -/
structure SmBus.Initial (bus : SmBus) : Prop where
  slots : ∀ slot, (bus.queue.ring.slots slot).2 < bus.calls
  sessions : ∀ session, bus.sessions session = .idle
  programmer : bus.programmer = .idle
  posted : ∀ number, bus.posted number = none
  answers : bus.answers = []

/-! ## The invariant -/

/-- The number of the request the driver works on. -/
def Programmer.number : Programmer → Option Nat
  | .idle => none
  | .dequeued number => some number
  | .produced number _ => some number
  | .written number _ => some number
  | .broadcasted => none

/-- What holds of a session: nothing has been posted for it before it is woken,
and then its result is in the cell. -/
def SmSession.Served (posted : Nat → Option Int) (cbData : Int) (calls : Nat) :
    SmSession → Prop
  | .idle => True
  | .locked request | .tested request | .queued request _ | .waiting request _ =>
      posted request.number = none ∧ request.number < calls
  | .woken request _ .signalled => posted request.number = some cbData
  | .woken _ _ (.timedOut own) => own = none
  | .answering answer => answer.Right

/-- The numbers of requests grow, and what is posted belongs to the request that waits for it. -/
structure SmBus.Inv (bus : SmBus) : Prop where
  slots : ∀ slot, (bus.queue.ring.slots slot).2 < bus.calls
  fetched : ∀ number, bus.programmer.number = some number → number < bus.calls
  posted : ∀ number, bus.posted number ≠ none → number < bus.calls
  cell : ∀ number rc, bus.programmer = .written number rc → bus.cbData = rc
  sessions : ∀ session, (bus.sessions session).Served bus.posted bus.cbData bus.calls
  answers : ∀ answer ∈ bus.answers, answer.Right

variable {bus next : SmBus}

theorem SmBus.Initial.inv (initial : bus.Initial) : bus.Inv where
  slots := initial.slots
  fetched := by
    intro number working
    rw [initial.programmer] at working
    cases working
  posted := by
    intro number some
    exact absurd (initial.posted number) some
  cell := by
    intro number rc written
    rw [initial.programmer] at written
    cases written
  sessions := by
    intro session
    rw [initial.sessions session]
    trivial
  answers := by
    intro answer mem
    rw [initial.answers] at mem
    cases mem

theorem SmBus.Inv.right (inv : bus.Inv) : bus.AnswersRight where
  answers := inv.answers
  answering := by
    intro session answer answering
    have served := inv.sessions session
    rw [answering] at served
    exact served

/-- A step of one session. -/
theorem SmBus.Inv.setSession (inv : bus.Inv) (session : Nat) (state : SmSession)
    (served : state.Served bus.posted bus.cbData bus.calls) :
    (bus.setSession session state).Inv where
  slots := inv.slots
  fetched := inv.fetched
  posted := inv.posted
  cell := inv.cell
  sessions := by
    intro other
    show (Function.update bus.sessions session state other).Served _ _ _
    by_cases same : other = session
    · rw [same, Function.update_self]
      exact served
    · rw [Function.update_of_ne same]
      exact inv.sessions other
  answers := inv.answers

theorem SmBus.Inv.setMutex (inv : bus.Inv) (cbMutex : Bool) :
    SmBus.Inv { bus with cbMutex := cbMutex } :=
  ⟨inv.slots, inv.fetched, inv.posted, inv.cell, inv.sessions, inv.answers⟩

/-- Nothing has been posted for a new request. -/
theorem SmBus.Inv.lock (inv : bus.Inv) (session : Nat) (command : SmCommand) :
    SmBus.Inv { bus.setSession session (.locked ⟨bus.calls, command⟩) with
      cbMutex := true
      calls := bus.calls + 1 } where
  slots := fun slot => (inv.slots slot).trans (Nat.lt_succ_self _)
  fetched := fun number working => (inv.fetched number working).trans (Nat.lt_succ_self _)
  posted := fun number some => (inv.posted number some).trans (Nat.lt_succ_self _)
  cell := inv.cell
  sessions := by
    intro other
    show (Function.update bus.sessions session _ other).Served bus.posted bus.cbData
      (bus.calls + 1)
    by_cases same : other = session
    · rw [same, Function.update_self]
      constructor
      · by_contra some
        exact lt_irrefl _ (inv.posted bus.calls some)
      · exact Nat.lt_succ_self _
    · rw [Function.update_of_ne same]
      have served := inv.sessions other
      cases state : bus.sessions other with
      | idle => trivial
      | locked request | tested request | queued request status | waiting request status =>
          rw [state] at served
          exact ⟨served.1, served.2.trans (Nat.lt_succ_self _)⟩
      | woken request status wakeup =>
          rw [state] at served
          cases wakeup <;> exact served
      | answering answer =>
          rw [state] at served
          exact served
  answers := inv.answers

theorem SmBus.Inv.append (inv : bus.Inv) (session : Nat) {request : Request}
    (tested : bus.sessions session = .tested request) (entry : SmState) :
    SmBus.Inv { bus.setSession session (.queued request .ok) with
      queue := bus.queue.put smQueuelen (entry, request.number) } := by
  have served := inv.sessions session
  rw [tested] at served
  have moved := inv.setSession session (.queued request .ok) served
  refine ⟨?_, moved.fetched, moved.posted, moved.cell, moved.sessions, moved.answers⟩
  intro slot
  show (Function.update bus.queue.ring.slots _ _ slot).2 < bus.calls
  by_cases same : slot = bus.queue.ring.inIndex
  · rw [same, Function.update_self]
    exact served.2
  · rw [Function.update_of_ne same]
    exact inv.slots slot

theorem SmBus.Inv.dequeue (inv : bus.Inv) {entry : SmState × Nat}
    {rest : Queue.Ring (SmState × Nat)}
    (dequeued : bus.queue.ring.take smQueuelen id = some (entry, rest)) :
    SmBus.Inv { bus with
      queue := bus.queue.take smQueuelen id
      programmer := .dequeued entry.2 } := by
  have shown : entry = bus.queue.ring.slots bus.queue.ring.outIndex ∧
      rest.slots = bus.queue.ring.slots := by
    rw [Ring.take] at dequeued
    split at dequeued
    · cases dequeued
    · cases dequeued
      exact ⟨rfl, Function.update_eq_self _ _⟩
  refine ⟨?_, ?_, inv.posted, ?_, inv.sessions, inv.answers⟩
  · intro slot
    rw [Log.take, dequeued]
    dsimp only
    rw [shown.2]
    exact inv.slots slot
  · intro number working
    cases working
    rw [shown.1]
    exact inv.slots _
  · intro _ _ written
    cases written

/-- The answer of a woken session is right. -/
theorem SmBus.Inv.answer_right (inv : bus.Inv) {session : Nat} {request : Request}
    {status : SrcpCode} {wakeup : Wakeup}
    (woken : bus.sessions session = .woken request status wakeup) :
    (bus.answer request status wakeup).Right := by
  have served := inv.sessions session
  rw [woken] at served
  cases wakeup with
  | signalled => exact ⟨bus.cbData, served, rfl⟩
  | timedOut own => exact ⟨rfl, served⟩

/-- A write of the cell that no woken session depends on. -/
theorem SmBus.Inv.write (inv : bus.Inv) {number : Nat} {rc : Int}
    (produced : bus.programmer = .produced number rc) (ok : PostsToOwner bus .write) :
    SmBus.Inv { bus with programmer := .written number rc, cbData := rc } where
  slots := inv.slots
  fetched := by
    intro other working
    apply inv.fetched
    rw [produced]
    exact working
  posted := inv.posted
  cell := by
    intro _ _ written
    cases written
    rfl
  sessions := by
    intro session
    have served := inv.sessions session
    cases state : bus.sessions session with
    | woken request status wakeup =>
        cases wakeup with
        | signalled => exact ok number rc produced session request status state
        | timedOut own =>
            rw [state] at served
            exact served
    | _ =>
        rw [state] at served
        exact served
  answers := inv.answers

/-- A broadcast that wakes the owner of the result and nobody else. -/
theorem SmBus.Inv.broadcast (inv : bus.Inv) {number : Nat} {rc : Int}
    (written : bus.programmer = .written number rc) (ok : PostsToOwner bus .broadcast) :
    SmBus.Inv { bus with
      programmer := .broadcasted
      sessions := fun session => (bus.sessions session).signal
      posted := Function.update bus.posted number (some rc) } := by
  have working : number < bus.calls := inv.fetched number (by rw [written]; rfl)
  have cell := inv.cell number rc written
  refine ⟨inv.slots, ?_, ?_, ?_, ?_, inv.answers⟩
  · intro _ working
    cases working
  · intro other some
    by_cases same : other = number
    · rw [same]
      exact working
    · dsimp only at some
      rw [Function.update_of_ne same] at some
      exact inv.posted other some
  · intro _ _ written
    cases written
  · intro session
    have served := inv.sessions session
    have owner := ok number rc written session
    show (bus.sessions session).signal.Served (Function.update bus.posted number (some rc))
      bus.cbData bus.calls
    cases state : bus.sessions session with
    | idle => trivial
    | locked request | tested request | queued request status =>
        rw [state] at served owner
        have other : request.number ≠ number := (owner request).1 rfl
        refine ⟨?_, served.2⟩
        rw [Function.update_of_ne other]
        exact served.1
    | waiting request status =>
        rw [state] at owner
        have own : request.number = number := (owner request).2 rfl
        show Function.update bus.posted number (some rc) request.number = some bus.cbData
        rw [own, Function.update_self, cell]
    | woken request status wakeup =>
        rw [state] at served
        cases wakeup with
        | signalled =>
            show Function.update bus.posted number (some rc) request.number = some bus.cbData
            by_cases own : request.number = number
            · rw [own, Function.update_self, cell]
            · rw [Function.update_of_ne own]
              exact served
        | timedOut own => exact served
    | answering answer =>
        rw [state] at served
        exact served

theorem smStep_inv {action : SmAction} (inv : bus.Inv) (ok : PostsToOwner bus action)
    (taken : smStep bus action = some next) : next.Inv := by
  cases action with
  | tick clock =>
      cases taken
      exact ⟨inv.slots, inv.fetched, inv.posted, inv.cell, inv.sessions, inv.answers⟩
  | lock session command =>
      rw [smStep] at taken
      split at taken
      · cases taken
        exact inv.lock session command
      · cases taken
  | test session =>
      rw [smStep] at taken
      split at taken
      · rename_i request locked
        have served := inv.sessions session
        rw [locked] at served
        cases taken
        apply inv.setSession
        split <;> exact served
      · cases taken
  | append session =>
      rw [smStep] at taken
      split at taken
      · rename_i request tested
        cases taken
        exact inv.append session tested _
      · cases taken
  | wait session =>
      rw [smStep] at taken
      split at taken
      · rename_i request status queued
        have served := inv.sessions session
        rw [queued] at served
        cases taken
        exact (inv.setSession session (.waiting request status) served).setMutex false
      · cases taken
  | timeout session =>
      rw [smStep] at taken
      split at taken
      · rename_i request status waiting
        have served := inv.sessions session
        rw [waiting] at served
        cases taken
        exact inv.setSession session _ served.1
      · cases taken
  | spurious session => exact absurd ok not_false
  | read session =>
      rw [smStep] at taken
      split at taken
      · rename_i woken free
        cases taken
        exact (inv.setSession session (.answering _) (inv.answer_right woken)).setMutex true
      · cases taken
  | unlock session =>
      rw [smStep] at taken
      split at taken
      · rename_i answer answering
        have right := inv.right.answering session answer answering
        cases taken
        have moved := (inv.setSession session .idle trivial).setMutex false
        refine ⟨moved.slots, moved.fetched, moved.posted, moved.cell, moved.sessions, ?_⟩
        intro other mem
        rcases List.mem_append.mp mem with mem | mem
        · exact inv.answers other mem
        · rw [List.mem_singleton.mp mem]
          exact right
      · cases taken
  | dequeue =>
      rw [smStep] at taken
      split at taken
      · rename_i entry rest idle dequeued
        cases taken
        exact inv.dequeue dequeued
      · cases taken
  | produce rc =>
      rw [smStep] at taken
      split at taken
      · rename_i number dequeued
        cases taken
        refine ⟨inv.slots, ?_, inv.posted, ?_, inv.sessions, inv.answers⟩
        · intro other working
          apply inv.fetched
          rw [dequeued]
          exact working
        · intro _ _ written
          cases written
      · cases taken
  | write =>
      rw [smStep] at taken
      split at taken
      · rename_i number rc produced
        cases taken
        exact inv.write produced ok
      · cases taken
  | broadcast =>
      rw [smStep] at taken
      split at taken
      · rename_i number rc written
        cases taken
        exact inv.broadcast written ok
      · cases taken
  | release =>
      rw [smStep] at taken
      split at taken
      · cases taken
        refine ⟨inv.slots, ?_, inv.posted, ?_, inv.sessions, inv.answers⟩
        · intro _ working
          cases working
        · intro _ _ written
          cases written
      · cases taken

/-- In every interleaving of any number of sessions with the driver in which the
driver posts each result to its waiting owner and to nobody else: every session
is answered with the result of its own command, and none that a result was
posted for times out. -/
theorem answersRight_of_meets (bus : SmBus) (initial : bus.Initial) (actions : List SmAction)
    (meets : MeetsAlong smStep PostsToOwner bus actions) :
    HoldsAlong smStep SmBus.AnswersRight bus actions := by
  have sound (bus : SmBus) (inv : bus.Inv) : bus.AnswersRight := inv.right
  apply holdsAlong_of_meets sound _ initial.inv meets
  intro bus action next inv ok taken
  exact smStep_inv inv ok taken

/-! ## Runs of two sessions -/

/-- A bus on which nothing has been asked. -/
def freshSmBus : SmBus :=
  { clock := 0
    queue := ⟨⟨fun _ => (⟨"", 0, ⟨.set, .register, 0, 0, 0, 0⟩, 0⟩, 0), 0, 0⟩, [], []⟩
    cbMutex := false
    cbData := 0
    sessions := fun _ => .idle
    programmer := .idle
    calls := 1
    posted := fun _ => none
    answers := [] }

theorem freshSmBus_initial : freshSmBus.Initial where
  slots := fun _ => Nat.one_pos
  sessions := fun _ => rfl
  programmer := rfl
  posted := fun _ => rfl
  answers := rfl

/-- Read CV 1 on the program track. -/
def getCv1 : SmCommand := ⟨.get, .cv, -1, 1, 0, 0⟩

/-- Read CV 8 on the program track. -/
def getCv8 : SmCommand := ⟨.get, .cv, -1, 8, 0, 0⟩

/-- The session waits before the driver has the result. -/
def servedInTime : List SmAction :=
  [.lock 0 getCv1, .test 0, .append 0, .wait 0, .dequeue, .produce 7, .write, .broadcast,
    .release, .read 0, .unlock 0]

theorem answersRight_servedInTime :
    HoldsAlong smStep SmBus.AnswersRight freshSmBus servedInTime := by
  apply answersRight_of_meets freshSmBus freshSmBus_initial
  iterate 6 refine (meetsAlong_cons_iff rfl).mpr ⟨trivial, ?_⟩
  refine (meetsAlong_cons_iff rfl).mpr ⟨?_, (meetsAlong_cons_iff rfl).mpr ⟨?_, ?_⟩⟩
  · intro number rc produced session request status woken
    cases session <;> cases woken
  · intro number rc written session request
    cases written
    cases session
    · constructor
      · intro before
        cases before
      · intro waits
        cases waits
        rfl
    · constructor
      · intro before
        cases before
      · intro waits
        cases waits
  · iterate 3 refine (meetsAlong_cons_iff rfl).mpr ⟨trivial, ?_⟩
    trivial

/-- The driver has the result before the session waits. -/
def servedTooEarly : List SmAction :=
  [.lock 0 getCv1, .test 0, .append 0, .dequeue, .produce 7, .write, .broadcast, .release,
    .wait 0, .timeout 0, .read 0, .unlock 0]

/-- The command of session 1 is refused, and it waits all the same. -/
def refusedButWaits : List SmAction :=
  [.lock 0 getCv1, .test 0, .append 0, .wait 0, .lock 1 getCv8, .test 1, .wait 1, .dequeue,
    .produce 7, .write, .broadcast, .release, .read 1, .unlock 1]

/-- Both sessions wait when the result for session 0 is posted. -/
def bothWait : List SmAction :=
  [.lock 0 getCv1, .test 0, .append 0, .wait 0, .dequeue, .lock 1 getCv8, .test 1, .append 1,
    .wait 1, .produce 7, .write, .broadcast, .release, .read 1, .unlock 1]

/-- The result is lost, or reported by the wrong session. -/
theorem answers_not_right :
    ¬ HoldsAlong smStep SmBus.AnswersRight freshSmBus servedTooEarly ∧
      ¬ HoldsAlong smStep SmBus.AnswersRight freshSmBus refusedButWaits ∧
      ¬ HoldsAlong smStep SmBus.AnswersRight freshSmBus bothWait := by
  refine ⟨?_, ?_, ?_⟩
  · intro holds
    have executed : run smStep freshSmBus servedTooEarly = some _ := rfl
    rcases (holds.last executed).answers _ List.mem_cons_self with ⟨_, own⟩
    cases own
  · intro holds
    have executed : run smStep freshSmBus refusedButWaits = some _ := rfl
    rcases (holds.last executed).answers _ List.mem_cons_self with ⟨rc, own, _⟩
    cases own
  · intro holds
    have executed : run smStep freshSmBus bothWait = some _ := rfl
    rcases (holds.last executed).answers _ List.mem_cons_self with ⟨rc, own, _⟩
    cases own

end Srcpd.Command
