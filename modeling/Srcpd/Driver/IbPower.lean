import Srcpd.Transition.Core

/-!
# The power of an Intellibox

The interface switches the power off by itself, and `emergency_on_ib` says how far the
thread has come with that: 1 when it has seen it, 2 when it has told its own bus.
`run_never_on` says that the thread never switches the power on by itself, `run_silent` what
becomes of requests to switch it off while `emergency_on_ib` is 2, and
`holdsAlong_follows_iff` when the power of the bus is what the interface last said.
-/

namespace Srcpd.Driver.IbPower

open Srcpd.Transition

/-! ## The thread -/

/-- What the interface answers to `XEvent`, `XStatus` and the commands for the power, and how
often it is still busy when the two reports of the programming track are asked for. -/
structure Input where
  xevnt1 : BitVec 8
  xevnt2 : BitVec 8
  xevnt3 : BitVec 8
  status : BitVec 8
  answer : BitVec 8
  busyPt : Nat
  busyCv : Nat

/-- The second byte of an event is read only where the first one says so. -/
def Input.second (input : Input) : BitVec 8 :=
  if input.xevnt1 &&& 0x80 ≠ 0 then input.xevnt2 else 0

/-- The third byte of an event is read only where the second one says so. -/
def Input.third (input : Input) : BitVec 8 :=
  if input.second &&& 0x80 ≠ 0 then input.xevnt3 else 0

/-- The answer to a command that the interface does not carry out. -/
def xpwoff : BitVec 8 := 0x06

/-- What an event announces: locomotives, contacts, accessories, the programming track and
messages of decoders. -/
inductive Report
  | lok
  | sen
  | trn
  | pt
  | biDi
  deriving DecidableEq

/-- The reports that are asked for before the power is looked at. -/
def Input.first (input : Input) : List Report :=
  (if input.xevnt1 &&& 0x01 ≠ 0 then [.lok] else []) ++
    (if input.xevnt1 &&& 0x04 ≠ 0 then [.sen] else []) ++
    (if input.xevnt1 &&& 0x20 ≠ 0 then [.trn] else [])

/-- The reports behind that; that of the programming track is asked for until it is there. -/
def Input.last (input : Input) : List Report :=
  (if input.third &&& 0x01 ≠ 0 then List.replicate (input.busyPt + 1) .pt else []) ++
    (if input.third &&& 0x20 ≠ 0 then List.replicate (input.busyCv + 1) .pt else []) ++
    (if input.third &&& 0x40 ≠ 0 then [.biDi] else [])

/-- What is written to the interface, the commands for locomotives and accessories and those
for the programming track without their contents. -/
inductive Written
  | power (on : Bool)
  | event
  | status
  | report (report : Report)
  | commands
  | programming
  deriving DecidableEq

/-- The thread's next step: the test of `power_changed`, the tests behind it, the command and
its answer, the reset of `power_changed`, the test of `power_state`, and the commands and
`check_status_IB`, with (`running`) or without commands around, and with the reports to ask
for behind the status. -/
inductive Place
  | top
  | tested
  | send
  | sent (on : Bool)
  | handle
  | body
  | commands
  | event (running : Bool)
  | status (running : Bool) (later : List Report)
  | programming

/-- `settingPower` counts the sessions between their two writes, `known` is what the interface
last said about its power, and `infos` are the messages of the thread about it; those about
reports are not among them. -/
structure State where
  powerState : Bool
  powerMsg : String
  powerChanged : Bool
  settingPower : Nat
  emergencyOnIb : Nat
  place : Place
  written : List Written
  infos : List (Bool × String)
  known : Option Bool

/-- `setPower`, all at once. -/
def State.setPower (state : State) (on : Bool) (msg : String) : State :=
  { state with powerState := on, powerMsg := msg, powerChanged := true }

/-- A command to the interface, behind which the thread is at `place`. -/
def State.write (state : State) (written : Written) (place : Place) : State :=
  { state with written := state.written ++ [written], place }

/-- Reports are asked for. -/
def State.ask (state : State) (reports : List Report) : State :=
  { state with written := state.written ++ reports.map .report }

/-- The messages for the bits of the second byte. -/
def overloads : List (BitVec 8 × String) :=
  [(0x20, "Overheating condition detected"),
   (0x10, "Non-allowed electrical connection between programming track and rest of layout"),
   (0x08, "Overload on DCC-Booster or Loconet"),
   (0x04, "Short-circuit on internal booster"),
   (0x02, "Overload on Lokmaus-bus"),
   (0x01, "Short-circuit on external booster")]

/-- Overheat or a short-circuit. -/
def State.overload (state : State) (xevnt2 : BitVec 8) : State :=
  if xevnt2 &&& 0x3f ≠ 0 then
    let seen := { state with known := some false }
    if seen.emergencyOnIb = 0 ∧ seen.powerState then
      let off := overloads.foldl (fun state overload =>
        if xevnt2 &&& overload.1 ≠ 0 then state.setPower false overload.2 else state) seen
      { off with emergencyOnIb := 1 }
    else seen
  else state

/-- The answer to `XStatus`. -/
def State.powerStatus (state : State) (rr : BitVec 8) : State :=
  if rr &&& 0x08 = 0 then
    let seen := { state with known := some false }
    if seen.emergencyOnIb = 0 ∧ seen.powerState then
      { seen.setPower false "Emergency Stop" with emergencyOnIb := 1 }
    else seen
  else
    let seen := { state with known := some true }
    if seen.emergencyOnIb = 1 ∨ seen.powerState = false then
      { seen.setPower true "No Emergency Stop" with emergencyOnIb := 0 }
    else seen

/-- Behind `check_status_IB`. -/
def behindCheck (running : Bool) : Place :=
  if running then .programming else .top

/-- One step of `thr_sendrec_IB`. -/
def threadStep (state : State) (input : Input) : State :=
  match state.place with
  | .top => { state with place := if state.powerChanged then .tested else .body }
  | .tested =>
      if state.emergencyOnIb = 1 then
        { { state with emergencyOnIb := 2 }.setPower false "Emergency Stop" with place := .handle }
      else if state.emergencyOnIb = 2 ∧ state.powerState = false then
        state.write .event (.event false)
      else { state with place := .send }
  | .send => state.write (.power state.powerState) (.sent state.powerState)
  | .sent on =>
      if input.answer = xpwoff then
        { { state with known := some false }.setPower false
            "power on not possible - overheating" with place := .handle }
      else
        { state with
          known := some on
          emergencyOnIb := if state.powerState then 0 else state.emergencyOnIb
          place := .handle }
  | .handle =>
      { state with
        powerChanged := false
        infos := state.infos ++ [(state.powerState, state.powerMsg)]
        place := .body }
  | .body =>
      if state.powerState = false then state.write .event (.event false)
      else { state with place := .commands }
  | .commands => (state.write .commands (.event true)).write .event (.event true)
  | .event running =>
      let after := (state.ask input.first).overload input.second
      if input.xevnt1 &&& 0x08 ≠ 0 ∨ input.second &&& 0x40 ≠ 0 ∨ after.emergencyOnIb = 2 then
        after.write .status (.status running input.last)
      else { after.ask input.last with place := behindCheck running }
  | .status running later =>
      { (state.powerStatus input.status).ask later with place := behindCheck running }
  | .programming => state.write .programming .top

/-- A session writes `power_state` and its message first, `power_changed` behind that. -/
inductive Action
  | thread (input : Input)
  | setPowerState (on : Bool) (msg : String)
  | setPowerChanged

/-- What the thread and the sessions do. -/
def step : Step State Action
  | state, .thread input => some (threadStep state input)
  | state, .setPowerState on msg =>
      some { state with
        powerState := on, powerMsg := msg, settingPower := state.settingPower + 1 }
  | state, .setPowerChanged =>
      if 0 < state.settingPower then
        some { state with powerChanged := true, settingPower := state.settingPower - 1 }
      else none

/-- The bus is started, and `create_all_bus_threads` is about to write `power_changed`. -/
def State.start (autoPowerOn : Bool) : State :=
  { powerState := autoPowerOn
    powerMsg := if autoPowerOn then "AUTO POWER ON" else "AUTO POWER OFF"
    powerChanged := false
    settingPower := 1
    emergencyOnIb := 2
    place := .top
    written := []
    infos := []
    known := none }

/-! ### What a step does -/

variable {state next last : State} {input : Input} {action : Action} {actions : List Action}

theorem foldl_overloads (xevnt2 : BitVec 8) (table : List (BitVec 8 × String)) (state : State) :
    ∃ msg, table.foldl (fun state overload =>
        if xevnt2 &&& overload.1 ≠ 0 then state.setPower false overload.2 else state) state =
      if table.any fun overload => xevnt2 &&& overload.1 ≠ 0 then state.setPower false msg
      else state := by
  induction table generalizing state with
  | nil => exact ⟨"", rfl⟩
  | cons overload table ih =>
      rw [List.foldl_cons, List.any_cons]
      by_cases bit : xevnt2 &&& overload.1 ≠ 0
      · obtain ⟨msg, same⟩ := ih (state.setPower false overload.2)
        rw [if_pos bit, same]
        simp only [decide_eq_true bit, Bool.true_or, if_true]
        cases table.any fun overload => decide (xevnt2 &&& overload.1 ≠ 0) with
        | false => exact ⟨overload.2, rfl⟩
        | true => exact ⟨msg, rfl⟩
      · obtain ⟨msg, same⟩ := ih state
        rw [if_neg bit, same, decide_eq_false bit, Bool.false_or]
        exact ⟨msg, rfl⟩

theorem State.overload_cases (state : State) (xevnt2 : BitVec 8) :
    state.overload xevnt2 = state ∨
      (¬ (state.emergencyOnIb = 0 ∧ state.powerState = true) ∧
        state.overload xevnt2 = { state with known := some false }) ∨
      ∃ msg, state.overload xevnt2 =
        { { state with known := some false }.setPower false msg with emergencyOnIb := 1 } := by
  rw [overload]
  by_cases shown : xevnt2 &&& 0x3f ≠ 0
  · rw [if_pos shown]
    by_cases seen : state.emergencyOnIb = 0 ∧ state.powerState = true
    · have listed : ∀ xevnt2 : BitVec 8, xevnt2 &&& 0x3f ≠ 0 →
          (overloads.any fun overload => xevnt2 &&& overload.1 ≠ 0) = true := by
        decide +kernel
      obtain ⟨msg, same⟩ := foldl_overloads xevnt2 overloads { state with known := some false }
      rw [if_pos (listed xevnt2 shown)] at same
      dsimp only
      rw [if_pos seen, same]
      exact Or.inr (Or.inr ⟨msg, rfl⟩)
    · dsimp only
      rw [if_neg seen]
      exact Or.inr (Or.inl ⟨seen, rfl⟩)
  · rw [if_neg shown]
    exact Or.inl rfl

theorem State.powerStatus_cases (state : State) (rr : BitVec 8) :
    (rr &&& 0x08 = 0 ∧
      ((¬ (state.emergencyOnIb = 0 ∧ state.powerState = true) ∧
          state.powerStatus rr = { state with known := some false }) ∨
        state.powerStatus rr =
          { { state with known := some false }.setPower false "Emergency Stop" with
            emergencyOnIb := 1 })) ∨
      (rr &&& 0x08 ≠ 0 ∧
        ((state.emergencyOnIb ≠ 1 ∧ state.powerState = true ∧
            state.powerStatus rr = { state with known := some true }) ∨
          state.powerStatus rr =
            { { state with known := some true }.setPower true "No Emergency Stop" with
              emergencyOnIb := 0 })) := by
  rw [powerStatus]
  by_cases unpowered : rr &&& 0x08 = 0
  · rw [if_pos unpowered]
    refine Or.inl ⟨unpowered, ?_⟩
    by_cases seen : state.emergencyOnIb = 0 ∧ state.powerState = true
    · dsimp only
      rw [if_pos seen]
      exact Or.inr rfl
    · dsimp only
      rw [if_neg seen]
      exact Or.inl ⟨seen, rfl⟩
  · rw [if_neg unpowered]
    refine Or.inr ⟨unpowered, ?_⟩
    by_cases off : state.emergencyOnIb = 1 ∨ state.powerState = false
    · dsimp only
      rw [if_pos off]
      exact Or.inr rfl
    · dsimp only
      rw [if_neg off]
      rw [not_or, Bool.not_eq_false] at off
      exact Or.inl ⟨off.1, off.2, rfl⟩

/-! ## Power off -/

/-- No session asks for power, and no answer to `XStatus` shows it. -/
def Unpowered (state : State) : Action → Prop
  | .thread input =>
      match state.place with
      | .status _ _ => input.status &&& 0x08 = 0
      | _ => True
  | .setPowerState on _ => on = false
  | .setPowerChanged => True

/-- Commands for the track that the thread still writes in its pass. -/
def Place.decided : Place → Nat
  | .commands => 2
  | .event true | .status true _ | .programming => 1
  | _ => 0

/-- A command for the track. -/
def Written.forTrack (written : Written) : Bool :=
  written = .commands ∨ written = .programming

/-- The power is off, it was switched on `ons` times, and there are at most `bound` commands. -/
structure State.Off (ons bound : Nat) (state : State) : Prop where
  off : state.powerState = false
  ons : state.written.count (.power true) = ons
  bound : state.written.countP Written.forTrack + state.place.decided ≤ bound

theorem State.overload_off (off : state.powerState = false) (xevnt2 : BitVec 8) :
    (state.overload xevnt2).powerState = false ∧
      (state.overload xevnt2).written = state.written ∧
      (state.overload xevnt2).place = state.place := by
  rcases state.overload_cases xevnt2 with same | ⟨_, same⟩ | ⟨msg, same⟩
  · rw [same]
    exact ⟨off, rfl, rfl⟩
  · rw [same]
    exact ⟨off, rfl, rfl⟩
  · rw [same]
    exact ⟨rfl, rfl, rfl⟩

section Off

variable {ons bound : Nat}

theorem State.Off.of_eq (inv : state.Off ons bound) (off : next.powerState = false)
    (written : next.written = state.written)
    (fits : next.place.decided ≤ state.place.decided) : next.Off ons bound where
  off := off
  ons := by
    rw [written]
    exact inv.ons
  bound := by
    rw [written]
    exact (Nat.add_le_add_left fits _).trans inv.bound

theorem State.Off.write (inv : state.Off ons bound) {written : Written} {place : Place}
    (other : written ≠ .power true)
    (fits : written.forTrack.toNat + place.decided ≤ state.place.decided) :
    (state.write written place).Off ons bound where
  off := inv.off
  ons := by
    show (state.written ++ [written]).count (.power true) = ons
    rw [List.count_append, List.count_singleton, if_neg, Nat.add_zero]
    · exact inv.ons
    · rw [beq_iff_eq]
      exact other
  bound := by
    have most := inv.bound
    show (state.written ++ [written]).countP Written.forTrack + place.decided ≤ bound
    rw [List.countP_append, List.countP_singleton]
    cases forTrack : written.forTrack with
    | true =>
        rw [forTrack, Bool.toNat_true] at fits
        rw [if_pos rfl]
        omega
    | false =>
        rw [forTrack, Bool.toNat_false] at fits
        rw [if_neg Bool.false_ne_true]
        omega

theorem State.Off.ask (inv : state.Off ons bound) (reports : List Report) :
    (state.ask reports).Off ons bound where
  off := inv.off
  ons := by
    have none : (reports.map Written.report).count (.power true) = 0 := by
      rw [List.count_eq_zero]
      intro mem
      obtain ⟨report, -, same⟩ := List.mem_map.mp mem
      cases same
    show (state.written ++ reports.map Written.report).count (.power true) = ons
    rw [List.count_append, none, Nat.add_zero]
    exact inv.ons
  bound := by
    have none : (reports.map Written.report).countP Written.forTrack = 0 := by
      rw [List.countP_eq_zero]
      intro written mem
      obtain ⟨report, -, rfl⟩ := List.mem_map.mp mem
      exact Bool.false_ne_true
    show (state.written ++ reports.map Written.report).countP Written.forTrack +
      state.place.decided ≤ bound
    rw [List.countP_append, none, Nat.add_zero]
    exact inv.bound

theorem threadStep_off (inv : state.Off ons bound) (unpowered : Unpowered state (.thread input)) :
    (threadStep state input).Off ons bound := by
  rw [threadStep]
  split
  · refine inv.of_eq inv.off rfl ?_
    dsimp only
    split <;> exact Nat.zero_le _
  · split
    · exact inv.of_eq rfl rfl (Nat.zero_le _)
    · split
      · exact inv.write (by decide) (Nat.zero_le _)
      · exact inv.of_eq inv.off rfl (Nat.zero_le _)
  · refine inv.write ?_ (Nat.zero_le _)
    rw [inv.off]
    decide
  · split
    · exact inv.of_eq rfl rfl (Nat.zero_le _)
    · exact inv.of_eq inv.off rfl (Nat.zero_le _)
  · exact inv.of_eq inv.off rfl (Nat.zero_le _)
  · rw [if_pos inv.off]
    exact inv.write (by decide) (Nat.zero_le _)
  · rename_i place
    have first : (state.write .commands (.event true)).Off ons bound :=
      inv.write (by decide) (by rw [place]; decide)
    exact first.write (by decide) (le_refl 1)
  · rename_i running place
    have asked : (state.ask input.first).Off ons bound := inv.ask input.first
    obtain ⟨off, written, same⟩ := State.overload_off asked.off input.second
    have after : ((state.ask input.first).overload input.second).Off ons bound :=
      asked.of_eq off written (by rw [same])
    have here : ((state.ask input.first).overload input.second).place = .event running :=
      same.trans place
    dsimp only
    split
    · refine after.write (by decide) ?_
      rw [here]
      cases running <;> exact le_rfl
    · refine (after.ask input.last).of_eq off rfl ?_
      show (behindCheck running).decided ≤
        ((state.ask input.first).overload input.second).place.decided
      rw [here]
      cases running <;> decide
  · rename_i running later place
    rw [Unpowered, place] at unpowered
    have fits : (behindCheck running).decided ≤ state.place.decided := by
      rw [place]
      cases running <;> exact le_rfl
    rcases state.powerStatus_cases input.status with ⟨_, ⟨_, same⟩ | same⟩ | ⟨powered, _⟩
    · rw [same]
      exact (inv.ask later).of_eq inv.off rfl fits
    · rw [same]
      exact (inv.ask later).of_eq rfl rfl fits
    · exact absurd unpowered powered
  · rename_i place
    exact inv.write (by decide) (by rw [place]; decide)

theorem step_off (state : State) (action : Action) (next : State) (inv : state.Off ons bound)
    (unpowered : Unpowered state action) (taken : step state action = some next) :
    next.Off ons bound := by
  cases action with
  | thread input =>
      cases taken
      exact threadStep_off inv unpowered
  | setPowerState on msg =>
      cases taken
      exact inv.of_eq unpowered rfl le_rfl
  | setPowerChanged =>
      rw [step] at taken
      split at taken
      · cases taken
        exact inv.of_eq inv.off rfl le_rfl
      · cases taken

end Off

/-- From any state on in which the power is off, as long as no session asks for it and no
answer to `XStatus` shows it: it stays off, no command to switch it on is written, and the
only commands for the track are those left of a pass that had found it on. -/
theorem run_never_on (off : state.powerState = false)
    (unpowered : MeetsAlong step Unpowered state actions)
    (executed : run step state actions = some last) :
    last.powerState = false ∧
      last.written.count (.power true) = state.written.count (.power true) ∧
      last.written.countP Written.forTrack ≤
        state.written.countP Written.forTrack + state.place.decided := by
  have inv := run_invariant_of_meets step_off ⟨off, rfl, le_rfl⟩ unpowered executed
  exact ⟨inv.off, inv.ons, (Nat.le_add_right _ _).trans inv.bound⟩

/-- An interface without anything to say. -/
def quietInput : Input :=
  ⟨0, 0, 0, 0, 0, 0, 0⟩

/-- A session switches the power off while the thread writes commands. -/
theorem run_never_on_programming :
    ∃ last, run step { State.start false with place := .programming }
        [.setPowerState false "", .setPowerChanged, .thread quietInput] = some last ∧
      last.powerState = false ∧ last.written.count (.power true) = 0 ∧
        last.written.countP Written.forTrack ≤ 0 + 1 := by
  have unpowered : MeetsAlong step Unpowered { State.start false with place := .programming }
      [.setPowerState false "", .setPowerChanged, .thread quietInput] := by
    refine (meetsAlong_cons_iff rfl).mpr ⟨rfl, ?_⟩
    refine (meetsAlong_cons_iff rfl).mpr ⟨trivial, ?_⟩
    exact (meetsAlong_cons_iff rfl).mpr ⟨trivial, trivial⟩
  exact ⟨_, rfl, run_never_on rfl unpowered rfl⟩

/-! ## Requests that are not transmitted -/

/-- The thread is about to do nothing but ask the interface. -/
def Place.Listens : Place → Prop
  | .top | .tested | .body | .event false | .status false _ => True
  | _ => False

/-- The interface is asked. -/
def Written.Asks : Written → Prop
  | .event | .status | .report _ => True
  | _ => False

/-- The power is off, the emergency is told, and the interface was only asked since. -/
structure State.Silent (before state : State) : Prop where
  off : state.powerState = false
  emergency : state.emergencyOnIb = 2
  listens : state.place.Listens
  written : ∃ asked, state.written = before.written ++ asked ∧
    ∀ written ∈ asked, written.Asks
  infos : state.infos = before.infos

section Silent

variable {before : State}

theorem State.Silent.move (silent : before.Silent state) {place : Place}
    (listens : place.Listens) : before.Silent { state with place } :=
  { silent with listens }

theorem State.Silent.write (silent : before.Silent state) {written : Written} {place : Place}
    (asks : written.Asks) (listens : place.Listens) :
    before.Silent (state.write written place) := by
  obtain ⟨asked, same, only⟩ := silent.written
  refine { silent with listens, written := ⟨asked ++ [written], ?_, ?_⟩ }
  · show state.written ++ [written] = before.written ++ (asked ++ [written])
    rw [same, List.append_assoc]
  · intro other mem
    rcases List.mem_append.mp mem with mem | mem
    · exact only other mem
    · rw [List.mem_singleton.mp mem]
      exact asks

theorem State.Silent.ask (silent : before.Silent state) (reports : List Report) :
    before.Silent (state.ask reports) := by
  obtain ⟨asked, same, only⟩ := silent.written
  refine { silent with written := ⟨asked ++ reports.map .report, ?_, ?_⟩ }
  · show state.written ++ reports.map .report = before.written ++ (asked ++ reports.map .report)
    rw [same, List.append_assoc]
  · intro other mem
    rcases List.mem_append.mp mem with mem | mem
    · exact only other mem
    · obtain ⟨report, -, rfl⟩ := List.mem_map.mp mem
      trivial

theorem State.Silent.not_seen (silent : before.Silent state) :
    ¬ (state.emergencyOnIb = 0 ∧ state.powerState = true) := by
  rintro ⟨_, on⟩
  exact Bool.false_ne_true (silent.off.symm.trans on)

theorem State.Silent.overload (silent : before.Silent state) (xevnt2 : BitVec 8) :
    before.Silent (state.overload xevnt2) := by
  have unseen : state.overload xevnt2 = state ∨
      state.overload xevnt2 = { state with known := some false } := by
    rw [State.overload]
    split
    · dsimp only
      rw [if_neg silent.not_seen]
      exact Or.inr rfl
    · exact Or.inl rfl
  rcases unseen with same | same
  · rw [same]
    exact silent
  · rw [same]
    exact { silent with }

end Silent

/-- The power of the bus is what the interface last said; with the power on no emergency is
noted. -/
def State.Agrees (state : State) : Prop :=
  state.known = some state.powerState ∧ (state.powerState = true → state.emergencyOnIb = 0)

/-- So it is where no change of the power is on its way. -/
def State.Follows (state : State) : Prop :=
  state.powerChanged = false → state.settingPower = 0 → state.Agrees

/-- `power_changed` is reset only where the bus agrees, or some session is still to write it. -/
def ResetsInTime (state : State) : Action → Prop
  | .thread _ =>
      match state.place with
      | .handle => 0 < state.settingPower ∨ state.Agrees
      | _ => True
  | _ => True

/-- Between the test of `power_changed` and its reset. -/
def Place.InWindow : Place → Prop
  | .tested | .send | .sent _ | .handle => True
  | _ => False

/-- What holds in every state: the change is noted from its test to its reset. -/
structure State.Inv (state : State) : Prop where
  follows : state.Follows
  window : state.place.InWindow → state.powerChanged = true

theorem State.Inv.of_changed (changed : state.powerChanged = true) : state.Inv :=
  ⟨fun unchanged => Bool.noConfusion (changed.symm.trans unchanged), fun _ => changed⟩

theorem State.Inv.of_outside (follows : state.Follows) (outside : ¬ state.place.InWindow) :
    state.Inv :=
  ⟨follows, fun inside => absurd inside outside⟩

theorem behindCheck_outside (running : Bool) : ¬ (behindCheck running).InWindow := by
  cases running <;> exact id

/-- Off for the thread with no emergency to report: the bus agrees that the power is off. -/
theorem State.Follows.unpowered (follows : state.Follows)
    (seen : ¬ (state.emergencyOnIb = 0 ∧ state.powerState = true)) :
    State.Follows { state with known := some false } := by
  intro unchanged none
  obtain ⟨_, zero⟩ := follows unchanged none
  have off : state.powerState = false := by
    rw [← Bool.not_eq_true]
    intro on
    exact seen ⟨zero on, on⟩
  refine ⟨congrArg some off.symm, fun on => ?_⟩
  exact Bool.noConfusion (off.symm.trans on)

theorem State.overload_follows (follows : state.Follows) (xevnt2 : BitVec 8) :
    (state.overload xevnt2).Follows := by
  rcases state.overload_cases xevnt2 with same | ⟨seen, same⟩ | ⟨msg, same⟩
  · rw [same]
    exact follows
  · rw [same]
    exact follows.unpowered seen
  · rw [same]
    exact fun unchanged => Bool.noConfusion unchanged

theorem State.powerStatus_follows (follows : state.Follows) (rr : BitVec 8) :
    (state.powerStatus rr).Follows := by
  rcases state.powerStatus_cases rr with ⟨_, ⟨seen, same⟩ | same⟩ | ⟨_, ⟨_, on, same⟩ | same⟩
  · rw [same]
    exact follows.unpowered seen
  · rw [same]
    exact fun unchanged => Bool.noConfusion unchanged
  · rw [same]
    intro unchanged none
    exact ⟨congrArg some on.symm, (follows unchanged none).2⟩
  · rw [same]
    exact fun unchanged => Bool.noConfusion unchanged

theorem threadStep_inv (inv : state.Inv) (inTime : ResetsInTime state (.thread input)) :
    (threadStep state input).Inv := by
  have window := inv.window
  rw [threadStep]
  split
  · by_cases changed : state.powerChanged = true
    · exact .of_changed changed
    · rw [if_neg changed]
      exact .of_outside inv.follows id
  · rename_i place
    have changed := window (by rw [place]; trivial)
    split
    · exact .of_changed rfl
    · split
      · exact .of_changed changed
      · exact .of_changed changed
  · rename_i place
    exact .of_changed (window (by rw [place]; trivial))
  · rename_i place
    have changed := window (by rw [place]; trivial)
    split
    · exact .of_changed rfl
    · exact .of_changed changed
  · rename_i place
    rw [ResetsInTime, place] at inTime
    refine .of_outside ?_ id
    intro _ none
    rcases inTime with pending | agrees
    · exact absurd none (Nat.ne_of_gt pending)
    · exact agrees
  · split
    · exact .of_outside inv.follows id
    · exact .of_outside inv.follows id
  · exact .of_outside inv.follows id
  · have asked : (state.ask input.first).Follows := inv.follows
    have follows := State.overload_follows asked input.second
    dsimp only
    split
    · exact .of_outside follows id
    · exact .of_outside follows (behindCheck_outside _)
  · exact .of_outside (State.powerStatus_follows inv.follows input.status) (behindCheck_outside _)
  · exact .of_outside inv.follows id

theorem step_inv (state : State) (action : Action) (next : State) (inv : state.Inv)
    (inTime : ResetsInTime state action) (taken : step state action = some next) : next.Inv := by
  cases action with
  | thread input =>
      cases taken
      exact threadStep_inv inv inTime
  | setPowerState on msg =>
      cases taken
      exact ⟨fun _ none => absurd none (Nat.succ_ne_zero _), inv.window⟩
  | setPowerChanged =>
      rw [step] at taken
      split at taken
      · cases taken
        exact .of_changed rfl
      · cases taken

theorem step_not_follows (state : State) (action : Action) (next : State)
    (late : ¬ ResetsInTime state action) (taken : step state action = some next) :
    ¬ next.Follows := by
  cases action with
  | thread input =>
      rw [ResetsInTime] at late
      split at late
      · rename_i place
        rw [not_or] at late
        rw [step, threadStep, place] at taken
        cases taken
        intro follows
        exact late.2 (follows rfl (Nat.eq_zero_of_not_pos late.1))
      · exact absurd trivial late
  | setPowerState on msg => exact absurd trivial late
  | setPowerChanged => exact absurd trivial late

/-- No session writes `power_state` between the test of `power_changed` and its reset. -/
def WritesOutside (state : State) : Action → Prop
  | .setPowerState _ _ => ¬ state.place.InWindow
  | _ => True

/-- An emergency is noted where the interface has no power, a command that was sent is the power
of the bus, and its answer leaves the bus in agreement. -/
structure State.Prompt (state : State) : Prop where
  emergency : state.emergencyOnIb = 1 → state.known = some false
  sent : ∀ on, state.place = .sent on → state.powerState = on
  handle : state.place = .handle → state.Agrees

theorem State.Prompt.of_outside (emergency : state.emergencyOnIb = 1 → state.known = some false)
    (outside : ¬ state.place.InWindow) : state.Prompt where
  emergency := emergency
  sent := by
    intro on place
    rw [place] at outside
    exact absurd trivial outside
  handle := by
    intro place
    rw [place] at outside
    exact absurd trivial outside

theorem State.overload_prompt (prompt : state.Prompt) (xevnt2 : BitVec 8) :
    (state.overload xevnt2).emergencyOnIb = 1 → (state.overload xevnt2).known = some false := by
  rcases state.overload_cases xevnt2 with same | ⟨_, same⟩ | ⟨msg, same⟩
  · rw [same]
    exact prompt.emergency
  · rw [same]
    exact fun _ => rfl
  · rw [same]
    exact fun _ => rfl

theorem State.powerStatus_prompt (state : State) (rr : BitVec 8) :
    (state.powerStatus rr).emergencyOnIb = 1 → (state.powerStatus rr).known = some false := by
  rcases state.powerStatus_cases rr with ⟨_, ⟨_, same⟩ | same⟩ | ⟨_, ⟨first, _, same⟩ | same⟩
  · rw [same]
    exact fun _ => rfl
  · rw [same]
    exact fun _ => rfl
  · rw [same]
    exact fun one => absurd one first
  · rw [same]
    intro one
    cases one

theorem threadStep_prompt (prompt : state.Prompt) : (threadStep state input).Prompt := by
  rw [threadStep]
  split
  · refine ⟨prompt.emergency, ?_, ?_⟩
    · intro on place
      dsimp only at place
      split at place <;> cases place
    · intro place
      dsimp only at place
      split at place <;> cases place
  · split
    · rename_i one
      refine ⟨fun two => ?_, fun on place => ?_, fun _ => ⟨prompt.emergency one, fun on => ?_⟩⟩
      · cases two
      · cases place
      · cases on
    · split
      · exact .of_outside prompt.emergency id
      · refine ⟨prompt.emergency, fun on place => ?_, fun place => ?_⟩
        · cases place
        · cases place
  · refine ⟨prompt.emergency, fun on place => ?_, fun place => ?_⟩
    · cases place
      rfl
    · cases place
  · rename_i on place
    have same := prompt.sent on place
    split
    · refine ⟨fun _ => rfl, fun on place => ?_, fun _ => ⟨rfl, fun on => ?_⟩⟩
      · cases place
      · cases on
    · cases power : state.powerState with
      | true =>
          rw [power] at same
          refine ⟨fun one => ?_, fun on place => ?_, fun _ => ⟨congrArg some ?_, fun _ => rfl⟩⟩
          · cases one
          · cases place
          · exact same.symm
      | false =>
          rw [power] at same
          refine ⟨fun one => ?_, fun on place => ?_, fun _ => ⟨congrArg some ?_, fun on => ?_⟩⟩
          · exact congrArg some same.symm
          · cases place
          · exact same.symm
          · cases on
  · exact .of_outside prompt.emergency id
  · split
    · exact .of_outside prompt.emergency id
    · exact .of_outside prompt.emergency id
  · exact .of_outside prompt.emergency id
  · have asked : (state.ask input.first).Prompt :=
      ⟨prompt.emergency, prompt.sent, prompt.handle⟩
    have emergency := State.overload_prompt asked input.second
    dsimp only
    split
    · exact .of_outside emergency id
    · exact .of_outside emergency (behindCheck_outside _)
  · exact .of_outside (State.powerStatus_prompt state input.status) (behindCheck_outside _)
  · exact .of_outside prompt.emergency id

theorem State.Prompt.resetsInTime (prompt : state.Prompt) (action : Action) :
    ResetsInTime state action := by
  cases action with
  | thread input =>
      rw [ResetsInTime]
      split
      · rename_i place
        exact Or.inr (prompt.handle place)
      · trivial
  | setPowerState on msg => trivial
  | setPowerChanged => trivial

theorem step_prompt (state : State) (action : Action) (next : State)
    (inv : state.Inv ∧ state.Prompt) (outside : WritesOutside state action)
    (taken : step state action = some next) : next.Inv ∧ next.Prompt := by
  refine ⟨step_inv state action next inv.1 (inv.2.resetsInTime action) taken, ?_⟩
  cases action with
  | thread input =>
      cases taken
      exact threadStep_prompt inv.2
  | setPowerState on msg =>
      cases taken
      exact .of_outside inv.2.emergency outside
  | setPowerChanged =>
      rw [step] at taken
      split at taken
      · cases taken
        exact ⟨inv.2.emergency, inv.2.sent, inv.2.handle⟩
      · cases taken

theorem State.start_inv (autoPowerOn : Bool) : (State.start autoPowerOn).Inv :=
  .of_outside (fun _ none => absurd none (by decide : ¬ 1 = 0)) id

theorem State.start_prompt (autoPowerOn : Bool) : (State.start autoPowerOn).Prompt :=
  .of_outside (fun two => absurd two (by decide : ¬ 2 = 1)) id

/-- For every interleaving of the thread with sessions, whatever the interface answers: in every
state without a change of the power on its way the power of the bus is what the interface
last said, exactly when every reset of `power_changed` finds it so or with a session that is
still to write `power_changed`.  It is enough that no session writes `power_state` between the
test of `power_changed` and its reset. -/
theorem holdsAlong_follows_iff (autoPowerOn : Bool) (actions : List Action) :
    (HoldsAlong step State.Follows (.start autoPowerOn) actions ↔
      MeetsAlong step ResetsInTime (.start autoPowerOn) actions) ∧
    (MeetsAlong step WritesOutside (.start autoPowerOn) actions →
      HoldsAlong step State.Follows (.start autoPowerOn) actions) := by
  have start := State.start_inv autoPowerOn
  constructor
  · have sound (state : State) (inv : state.Inv) : state.Follows := inv.follows
    apply holdsAlong_iff_meetsAlong sound step_inv _ start
    intro state action next _ late taken
    exact step_not_follows state action next late taken
  · intro outside
    have sound (state : State) (inv : state.Inv ∧ state.Prompt) : state.Follows := inv.1.follows
    exact holdsAlong_of_meets sound step_prompt ⟨start, State.start_prompt autoPowerOn⟩ outside

/-- A session switches the power off while the thread waits for the answer to the command that
switches it on: the change is lost, and the track stays under power. -/
example :
    ¬ HoldsAlong step State.Follows (.start true)
      ([.setPowerChanged] ++ List.replicate 3 (.thread quietInput) ++
        [.setPowerState false "off", .setPowerChanged] ++
          List.replicate 2 (.thread quietInput)) := by
  intro holds
  have lost := (holds.last rfl rfl rfl).1
  cases lost

end Srcpd.Driver.IbPower
