import Srcpd.Command.InfoSm
import Srcpd.Session.Check

/-!
# What a client is told about a service mode command

`infoSM` writes its own reply, but the handlers of `SET`, `VERIFY`, `INIT` and `TERM`
write the message for its code over it.  The code is that of `enqueueSM`, unless the
result is -1 or not the verified value; a timeout does not change it.
`told_of_meets` says what has to hold in a run for every 200 to be true.
-/

namespace Srcpd.SmStatus

open Srcpd.Check Srcpd.Command Srcpd.Transition
open Srcpd.Handlers (srcpListtooshort srcpWrongvalue srcpOk)

/-! ## Command lines -/

/-- The commands in service mode. -/
inductive Verb
  | set
  | verify
  | init
  | term
  deriving DecidableEq, Repr

/-- `NMRA`, the only protocol. -/
def nmra : Int := 0

/-- The service mode part of a handler: a code, or the command for `infoSM`. -/
def Verb.scan (parameter : List Char) : Verb → Nat ⊕ SmCommand
  | .set => scanSM parameter
  | .verify => (scanSM parameter).map id fun command => { command with command := .verify }
  | .init =>
      match scanWord parameter with
      | none => .inl srcpListtooshort
      | some (protocol, _) =>
          if CmdClient.hasPrefix "nmra" protocol then .inr ⟨.init, .register, -1, nmra, 0, 0⟩
          else .inl srcpWrongvalue
  | .term => .inr ⟨.term, .register, -1, 0, 0, 0⟩

/-! ## The parties -/

/-- The bus, and the numbers of the requests that the driver has carried out. -/
structure Watched where
  bus : SmBus
  carried : Nat → Bool

/-- With a result, the driver has carried the command out or not. -/
def Watched.noted (w : Watched) (action : SmAction) (success : Bool) (number : Nat) : Bool :=
  w.carried number ||
    match action, w.bus.programmer with
    | .produce _, .dequeued other => decide (number = other) && success
    | _, _ => false

/-- A step of the bus, with what the decoder makes of the command. -/
def step : Step Watched (SmAction × Bool)
  | w, (action, success) =>
      (smStep w.bus action).map fun bus => ⟨bus, w.noted action success⟩

/-- The driver has carried the command out in time, and a verification has found the
value. -/
def CarriedOut (carried : Nat → Bool) (answer : Answer) : Prop :=
  answer.timedOut = false ∧ carried answer.request.number = true ∧
    ∃ rc, answer.own = some rc ∧
      (answer.request.command.command = .verify → rc = answer.request.command.value)

/-- A call of `infoSM` has this answer, or had it. -/
def Watched.Gives (w : Watched) (answer : Answer) : Prop :=
  answer ∈ w.bus.answers ∨ ∃ session, w.bus.sessions session = .answering answer

/-- The message for the code of `infoSM` is written over its reply, and `200 OK` is told only
if the command of the line was carried out. -/
def Watched.LineTold (w : Watched) (verb : Verb) (parameter : List Char) : Prop :=
  match verb.scan parameter with
  | .inl code => code ≠ srcpOk
  | .inr command => ∀ answer, w.Gives answer → answer.request.command = command →
      answer.status.number = srcpOk → CarriedOut w.carried answer

/-- Each line tells its client whether the decoder has carried its command out. -/
def Watched.Told (w : Watched) : Prop :=
  ∀ verb parameter, w.LineTold verb parameter

theorem Watched.Told.carriedOut {w : Watched} (told : w.Told) {verb : Verb}
    {parameter : List Char} (answer : Answer) (given : answer ∈ w.bus.answers)
    (scanned : verb.scan parameter = .inr answer.request.command) (ok : answer.status = .ok) :
    CarriedOut w.carried answer := by
  have line := told verb parameter
  rw [Watched.LineTold, scanned] at line
  exact line answer (.inl given) rfl (by rw [ok]; rfl)

/-- The results that `infoSM` takes for an error. -/
def Refuses (command : SmCommand) (rc : Int) : Prop :=
  rc = -1 ∨ (command.command = .verify ∧ command.value ≠ rc)

/-- What has to hold in a step.  Results are posted to their owners; no command that was
queued runs into a timeout; and the result for a command that was not carried out is -1 or
not the verified value. -/
structure Meets (w : Watched) (label : SmAction × Bool) : Prop where
  posts : PostsToOwner w.bus label.1
  inTime : ∀ session, label.1 = .timeout session → ∀ request status,
    w.bus.sessions session = .waiting request status → status = .ok →
      request.command.command = .get
  visible : label.1 = .broadcast → ∀ number rc, w.bus.programmer = .written number rc →
    ∀ session request status, w.bus.sessions session = .waiting request status →
      w.carried number = true ∨ Refuses request.command rc

/-! ## The invariant -/

/-- The answer is not `200 OK`, or it is one to a GET, or true. -/
def Honest (carried : Nat → Bool) (answer : Answer) : Prop :=
  answer.status = .ok → answer.request.command.command ≠ .get → CarriedOut carried answer

/-- What holds of a session that was woken. -/
def SessionHonest (carried : Nat → Bool) (cbData : Int) : SmSession → Prop
  | .woken request status .signalled => status = .ok → request.command.command ≠ .get →
      carried request.number = true ∨ Refuses request.command cbData
  | .woken request status (.timedOut _) => status = .ok → request.command.command = .get
  | .answering answer => Honest carried answer
  | _ => True

/-- What is in the cell, and what was answered, is what the decoder has done. -/
structure Watched.Inv (w : Watched) : Prop where
  bus : w.bus.Inv
  sessions : ∀ session, SessionHonest w.carried w.bus.cbData (w.bus.sessions session)
  answers : ∀ answer ∈ w.bus.answers, Honest w.carried answer

variable {w : Watched}

theorem Watched.Inv.honest (inv : w.Inv) {answer : Answer} (gives : w.Gives answer) :
    Honest w.carried answer := by
  rcases gives with given | ⟨session, answering⟩
  · exact inv.answers answer given
  · have honest := inv.sessions session
    rw [answering] at honest
    exact honest

theorem Honest.mono {carried carried' : Nat → Bool} {answer : Answer}
    (more : ∀ number, carried number = true → carried' number = true)
    (honest : Honest carried answer) : Honest carried' answer := by
  intro ok other
  obtain ⟨inTime, done, found⟩ := honest ok other
  exact ⟨inTime, more _ done, found⟩

theorem SessionHonest.mono {carried carried' : Nat → Bool} {cbData : Int} {session : SmSession}
    (more : ∀ number, carried number = true → carried' number = true)
    (honest : SessionHonest carried cbData session) : SessionHonest carried' cbData session := by
  cases session with
  | woken request status wakeup =>
      cases wakeup with
      | signalled => exact fun ok other => (honest ok other).imp (more _) id
      | timedOut own => exact honest
  | answering answer => exact Honest.mono more honest
  | _ => trivial

theorem sessionHonest_update {carried : Nat → Bool} {cbData : Int}
    {sessions : Nat → SmSession}
    (honest : ∀ session, SessionHonest carried cbData (sessions session)) (session : Nat)
    {state : SmSession} (new : SessionHonest carried cbData state) (other : Nat) :
    SessionHonest carried cbData (Function.update sessions session state other) := by
  by_cases same : other = session
  · rw [same, Function.update_self]
    exact new
  · rw [Function.update_of_ne same]
    exact honest other

/-- The answer of a woken session is true. -/
theorem Watched.Inv.answer_honest (inv : w.Inv) {session : Nat} {request : Request}
    {status : SrcpCode} {wakeup : Wakeup}
    (woken : w.bus.sessions session = .woken request status wakeup) :
    Honest w.carried (w.bus.answer request status wakeup) := by
  have honest := inv.sessions session
  have served := inv.bus.sessions session
  rw [woken] at honest served
  cases wakeup with
  | timedOut own => exact fun ok other => absurd (honest ok) other
  | signalled =>
      intro ok other
      change (if infoReply request.command w.bus.cbData = .wrongValue then SrcpCode.wrongValue
        else status) = .ok at ok
      split at ok
      · cases ok
      · next valid =>
          have accepted : ¬ Refuses request.command w.bus.cbData :=
            fun refuses => valid (if_pos refuses)
          refine ⟨rfl, (honest ok other).resolve_right accepted, w.bus.cbData, served, ?_⟩
          intro verifying
          by_contra differ
          exact accepted (.inr ⟨verifying, fun same => differ same.symm⟩)

/-- Nothing that was carried out is forgotten. -/
theorem Watched.noted_mono (w : Watched) (action : SmAction) (success : Bool) (number : Nat)
    (done : w.carried number = true) : w.noted action success number = true := by
  unfold noted
  rw [done]
  exact Bool.true_or _

/-- What a step does to the sessions and the answers, when the cell keeps what woken sessions
have still to read. -/
theorem smStep_honest {action : SmAction} {success : Bool} {bus : SmBus} (inv : w.Inv)
    (meets : Meets w (action, success)) (taken : smStep w.bus action = some bus) :
    (∀ session, SessionHonest w.carried bus.cbData (bus.sessions session)) ∧
      ∀ answer ∈ bus.answers, Honest w.carried answer := by
  cases action with
  | tick clock =>
      cases taken
      exact ⟨inv.sessions, inv.answers⟩
  | lock session command =>
      rw [smStep] at taken
      split at taken
      · cases taken
        exact ⟨sessionHonest_update inv.sessions session trivial, inv.answers⟩
      · cases taken
  | test session =>
      rw [smStep] at taken
      split at taken
      · cases taken
        refine ⟨sessionHonest_update inv.sessions session ?_, inv.answers⟩
        split <;> trivial
      · cases taken
  | append session =>
      rw [smStep] at taken
      split at taken
      · cases taken
        exact ⟨sessionHonest_update inv.sessions session trivial, inv.answers⟩
      · cases taken
  | wait session =>
      rw [smStep] at taken
      split at taken
      · cases taken
        exact ⟨sessionHonest_update inv.sessions session trivial, inv.answers⟩
      · cases taken
  | timeout session =>
      rw [smStep] at taken
      split at taken
      · next request status waiting =>
          have inTime := meets.inTime session rfl request status waiting
          cases taken
          exact ⟨sessionHonest_update inv.sessions session inTime, inv.answers⟩
      · cases taken
  | spurious session => exact absurd meets.posts not_false
  | read session =>
      rw [smStep] at taken
      split at taken
      · next request status wakeup woken free =>
          have honest := inv.answer_honest woken
          cases taken
          exact ⟨sessionHonest_update inv.sessions session honest, inv.answers⟩
      · cases taken
  | unlock session =>
      rw [smStep] at taken
      split at taken
      · next answer answering =>
          have honest := inv.honest (.inr ⟨session, answering⟩)
          cases taken
          refine ⟨sessionHonest_update inv.sessions session trivial, fun other mem => ?_⟩
          rcases List.mem_append.mp mem with mem | mem
          · exact inv.answers other mem
          · rw [List.mem_singleton.mp mem]
            exact honest
      · cases taken
  | dequeue =>
      rw [smStep] at taken
      split at taken
      · cases taken
        exact ⟨inv.sessions, inv.answers⟩
      · cases taken
  | produce rc =>
      rw [smStep] at taken
      split at taken
      · cases taken
        exact ⟨inv.sessions, inv.answers⟩
      · cases taken
  | write =>
      rw [smStep] at taken
      split at taken
      · next number rc produced =>
          have kept := meets.posts number rc produced
          cases taken
          refine ⟨fun session => ?_, inv.answers⟩
          have honest := inv.sessions session
          have served := inv.bus.sessions session
          change SessionHonest w.carried rc (w.bus.sessions session)
          cases state : w.bus.sessions session with
          | woken request status wakeup =>
              rw [state] at honest served
              cases wakeup with
              | signalled =>
                  -- The session still reads its own result.
                  have own := kept session request status state
                  have same : w.bus.cbData = rc := Option.some.inj (served.symm.trans own)
                  rw [← same]
                  exact honest
              | timedOut own => exact honest
          | _ =>
              rw [state] at honest
              exact honest
      · cases taken
  | broadcast =>
      rw [smStep] at taken
      split at taken
      · next number rc written =>
          have owner := meets.posts number rc written
          have visible := meets.visible rfl number rc written
          have cell := inv.bus.cell number rc written
          cases taken
          refine ⟨fun session => ?_, inv.answers⟩
          have honest := inv.sessions session
          change SessionHonest w.carried w.bus.cbData (w.bus.sessions session).signal
          cases state : w.bus.sessions session with
          | waiting request status =>
              intro _ _
              have own : request.number = number :=
                (owner session request).2 (by rw [state]; rfl)
              rw [own, cell]
              exact visible session request status state
          | _ =>
              rw [state] at honest
              exact honest
      · cases taken
  | release =>
      rw [smStep] at taken
      split at taken
      · cases taken
        exact ⟨inv.sessions, inv.answers⟩
      · cases taken

theorem step_inv {label : SmAction × Bool} {next : Watched} (inv : w.Inv) (meets : Meets w label)
    (taken : step w label = some next) : next.Inv := by
  rcases label with ⟨action, success⟩
  rcases Option.map_eq_some_iff.mp taken with ⟨bus, moved, rfl⟩
  obtain ⟨sessions, answers⟩ := smStep_honest inv meets moved
  have more := w.noted_mono action success
  exact ⟨smStep_inv inv.bus meets.posts moved, fun session => (sessions session).mono more,
    fun answer mem => (answers answer mem).mono more⟩

/-! ## What the client is told -/

theorem scanSM_error {parameter : List Char} {code : Nat}
    (error : scanSM parameter = .inl code) :
    code = srcpListtooshort ∨ code = srcpWrongvalue := by
  unfold scanSM at error
  split at error
  · exact .inl (Sum.inl.inj error).symm
  · split at error
    · exact .inl (Sum.inl.inj error).symm
    · split at error
      · exact .inr (Sum.inl.inj error).symm
      · cases error
      · exact .inl (Sum.inl.inj error).symm
      · cases error
      · exact .inl (Sum.inl.inj error).symm

theorem scanSM_command {parameter : List Char} {command : SmCommand}
    (scanned : scanSM parameter = .inr command) : command.command = .set := by
  unfold scanSM at scanned
  split at scanned
  · cases scanned
  · split at scanned
    · cases scanned
    · split at scanned
      · cases scanned
      · cases scanned
        rfl
      · cases scanned
      · cases scanned
        rfl
      · cases scanned

theorem Verb.scan_error {verb : Verb} {parameter : List Char} {code : Nat}
    (error : verb.scan parameter = .inl code) :
    code = srcpListtooshort ∨ code = srcpWrongvalue := by
  cases verb with
  | set => exact scanSM_error error
  | verify =>
      cases scanned : scanSM parameter with
      | inl other =>
          rw [Verb.scan, scanned] at error
          cases error
          exact scanSM_error scanned
      | inr command =>
          rw [Verb.scan, scanned] at error
          cases error
  | init =>
      rw [Verb.scan] at error
      split at error
      · exact .inl (Sum.inl.inj error).symm
      · split at error
        · cases error
        · exact .inr (Sum.inl.inj error).symm
  | term => cases error

/-- None of these lines reads. -/
theorem Verb.scan_command {verb : Verb} {parameter : List Char} {command : SmCommand}
    (scanned : verb.scan parameter = .inr command) : command.command ≠ .get := by
  cases verb with
  | set =>
      rw [scanSM_command scanned]
      decide
  | verify =>
      cases queued : scanSM parameter with
      | inl other =>
          rw [Verb.scan, queued] at scanned
          cases scanned
      | inr command =>
          rw [Verb.scan, queued] at scanned
          cases scanned
          change SmCommandName.verify ≠ .get
          decide
  | init =>
      rw [Verb.scan] at scanned
      split at scanned
      · cases scanned
      · split at scanned
        · cases scanned
          decide
        · cases scanned
  | term =>
      cases scanned
      decide

theorem ok_of_number {status : SrcpCode} (number : status.number = srcpOk) : status = .ok := by
  cases status with
  | ok => rfl
  | _ => cases number

theorem Watched.Inv.told (inv : w.Inv) : w.Told := by
  intro verb parameter
  rw [Watched.LineTold]
  split
  · next code error =>
      rcases Verb.scan_error error with rfl | rfl <;> decide
  · next command scanned =>
      intro answer gives own ok
      refine inv.honest gives (ok_of_number ok) ?_
      rw [own]
      exact Verb.scan_command scanned

/-- In every run in which results are posted to their owners, no queued command times out,
and what was not carried out has a result that `infoSM` takes for an error: a line is told
200 only if the driver has carried out its own command in time. -/
theorem told_of_meets (w : Watched) (initial : w.bus.Initial) (labels : List (SmAction × Bool))
    (meets : MeetsAlong step Meets w labels) : HoldsAlong step Watched.Told w labels := by
  have inv : w.Inv := by
    refine ⟨initial.inv, fun session => ?_, fun answer mem => ?_⟩
    · rw [initial.sessions session]
      trivial
    · rw [initial.answers] at mem
      cases mem
  exact holdsAlong_of_meets (fun _ inv => inv.told) (fun _ _ _ inv met taken =>
    step_inv inv met taken) inv meets

/-! ## Runs of one session -/

/-- Write CV 1 on the program track. -/
def setCv1 : SmCommand := ⟨.set, .cv, -1, 1, 0, 3⟩

theorem line_setCv1 : Verb.set.scan "-1 CV 1 3".toList = .inr setCv1 := by decide

/-- A bus on which nothing has been asked. -/
def startWatched : Watched := ⟨freshSmBus, fun _ => false⟩

/-- The driver has carried the command out and says so. -/
def carriedOut : List (SmAction × Bool) :=
  [(.lock 0 setCv1, false), (.test 0, false), (.append 0, false), (.wait 0, false),
    (.dequeue, false), (.produce 1, true), (.write, false), (.broadcast, false),
    (.release, false), (.read 0, false), (.unlock 0, false)]

/-- Steps that neither post nor time out. -/
theorem meets_quiet {label : SmAction × Bool} (posts : PostsToOwner w.bus label.1)
    (noTimeout : ∀ session, label.1 ≠ .timeout session) (noBroadcast : label.1 ≠ .broadcast) :
    Meets w label :=
  ⟨posts, fun session same => absurd same (noTimeout session), fun same => absurd same noBroadcast⟩

theorem told_carriedOut : HoldsAlong step Watched.Told startWatched carriedOut := by
  apply told_of_meets startWatched freshSmBus_initial
  iterate 6 refine (meetsAlong_cons_iff rfl).mpr ⟨meets_quiet trivial nofun nofun, ?_⟩
  refine (meetsAlong_cons_iff rfl).mpr ⟨meets_quiet ?_ nofun nofun,
    (meetsAlong_cons_iff rfl).mpr ⟨?_, ?_⟩⟩
  · intro number rc produced session request status woken
    cases session <;> cases woken
  · refine ⟨?_, nofun, ?_⟩
    · intro number rc written session request
      cases written
      cases session
      · constructor
        · intro before
          cases before
        · intro waits
          cases waits
          rfl
      · constructor
        · intro before
          cases before
        · intro waits
          cases waits
    · intro _ number rc written session request status waiting
      cases written
      exact .inl rfl
  · iterate 3 refine (meetsAlong_cons_iff rfl).mpr ⟨meets_quiet trivial nofun nofun, ?_⟩
    trivial

/-- The driver never has a result. -/
def neverServed : List (SmAction × Bool) :=
  [(.lock 0 setCv1, false), (.test 0, false), (.append 0, false), (.wait 0, false),
    (.timeout 0, false), (.read 0, false), (.unlock 0, false)]

/-- The decoder does not acknowledge, which is the result 0. -/
def notAcknowledged : List (SmAction × Bool) :=
  [(.lock 0 setCv1, false), (.test 0, false), (.append 0, false), (.wait 0, false),
    (.dequeue, false), (.produce 0, false), (.write, false), (.broadcast, false),
    (.release, false), (.read 0, false), (.unlock 0, false)]

/-- The client is told 200 all the same. -/
theorem not_told :
    ¬ HoldsAlong step Watched.Told startWatched neverServed ∧
      ¬ HoldsAlong step Watched.Told startWatched notAcknowledged := by
  constructor
  · intro holds
    have executed : run step startWatched neverServed = some _ := rfl
    have inTime := ((holds.last executed).carriedOut _ List.mem_cons_self line_setCv1 rfl).1
    cases inTime
  · intro holds
    have executed : run step startWatched notAcknowledged = some _ := rfl
    have done := ((holds.last executed).carriedOut _ List.mem_cons_self line_setCv1 rfl).2.1
    cases done

end Srcpd.SmStatus
