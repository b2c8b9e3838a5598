import Srcpd.Ddl.RefreshThread

/-!
# The power of a DDL bus

What the refresh thread does when the power goes off.  `run_transmitted` says what is sent
then, `holdsAlong_linesFollow_iff` when the lines that switch the booster agree with the
power of the bus, and `checkShortcut_iff` when a shortcut switches it off.
-/

namespace Srcpd.Ddl.RefreshThread

open Srcpd.Queue Srcpd.Transition

/-! ## Power -/

/-- The thread has found the power on and has not acted on it yet. -/
def Place.decided : Place → Nat
  | .idle | .send _ | .refresh => 1
  | _ => 0

/-- With the power off nothing more than what was decided before is sent. -/
def State.Bounded (bound : Nat) (state : State) : Prop :=
  state.powerState = false ∧ state.transmitted.length + state.place.decided ≤ bound

/-- No session switches the power on. -/
def KeepsOff : Action → Prop
  | .setPowerState on _ => on = false
  | _ => True

theorem Caller.decided_off (caller : Caller) : caller.off.decided = 0 := by
  cases caller <;> rfl

theorem checkStep_bounded {config : Config} {state : State} {caller : Caller} {point : Point}
    (input : Input) (off : state.powerState = false) :
    (checkStep config state caller input point).powerState = false ∧
      (checkStep config state caller input point).place.decided = 0 := by
  cases point with
  | shortcut =>
      rw [checkStep]
      split
      · dsimp only
        split
        · exact ⟨rfl, rfl⟩
        · exact ⟨off, rfl⟩
      · exact ⟨off, rfl⟩
  | ring =>
      rw [checkStep]
      split
      · exact ⟨rfl, rfl⟩
      · exact ⟨off, rfl⟩
  | changed => exact ⟨off, rfl⟩
  | testOff => exact ⟨off, rfl⟩
  | testOn => exact ⟨off, rfl⟩
  | clear => exact ⟨off, rfl⟩
  | testPower =>
      refine ⟨off, ?_⟩
      rw [checkStep]
      dsimp only
      rw [off]
      exact caller.decided_off

theorem State.fetch_bounded {state : State} {bound : Nat} {without : Place}
    (off : state.powerState = false) (most : state.transmitted.length ≤ bound)
    (undecided : without.decided = 0) : (state.fetch without).Bounded bound := by
  rw [State.fetch]
  split
  · exact ⟨off, by rw [undecided]; exact most⟩
  · refine ⟨off, ?_⟩
    dsimp only
    split
    · rw [undecided]
      exact most
    · exact most

theorem step_bounded {config : Config} {bound : Nat} (state : State) (action : Action)
    (next : State) (bounded : state.Bounded bound) (keepsOff : KeepsOff action)
    (taken : step config state action = some next) : next.Bounded bound := by
  obtain ⟨off, most⟩ := bounded
  cases action with
  | setPowerState on msg =>
      cases taken
      exact ⟨keepsOff, most⟩
  | setPowerChanged =>
      rw [step] at taken
      split at taken
      · cases taken
        exact ⟨off, most⟩
      · cases taken
  | add data =>
      cases taken
      exact ⟨off, most⟩
  | updatePools nmra maerklin =>
      cases taken
      exact ⟨off, most⟩
  | thread input =>
      rw [step, threadStep] at taken
      split at taken
      · rename_i caller point place
        cases taken
        obtain ⟨offAfter, undecided⟩ := checkStep_bounded input off
        refine ⟨offAfter, ?_⟩
        rw [undecided, (checkStep_checked config state caller input point).transmitted]
        exact (Nat.le_add_right _ _).trans most
      · rename_i place
        cases taken
        rw [place] at most
        refine ⟨off, ?_⟩
        rw [List.length_append]
        exact most
      · rename_i place
        cases taken
        rw [place] at most
        exact state.fetch_bounded off most rfl
      · rename_i data place
        cases taken
        rw [place] at most
        refine ⟨off, ?_⟩
        rw [List.length_append]
        exact most
      · rename_i place
        cases taken
        rw [place] at most
        exact state.fetch_bounded off most rfl
      · rename_i place
        rw [place] at most
        split at taken
        · obtain ⟨⟨sent, ddl⟩, done, rfl⟩ := Option.map_eq_some_iff.mp taken
          refine ⟨off, ?_⟩
          dsimp only
          rw [List.length_append]
          exact most
        · cases taken
          exact ⟨off, (Nat.le_succ _).trans most⟩

/-- From any state on in which the power is off, as long as no session switches it on: the
thread sends at most one thing more, and nothing unless it had decided to before. -/
theorem run_transmitted (config : Config) {state last : State} {actions : List Action}
    (off : state.powerState = false) (keepsOff : ∀ action ∈ actions, KeepsOff action)
    (executed : run (step config) state actions = some last) :
    last.transmitted.length ≤ state.transmitted.length + state.place.decided := by
  have bounded : last.Bounded (state.transmitted.length + state.place.decided) :=
    run_invariant_of_meets step_bounded ⟨off, Nat.le_refl _⟩
      (meetsAlong_of_forall_mem (step config) keepsOff state) executed
  exact (Nat.le_add_right _ _).trans bounded.2

/-- The power goes off while the thread is between two packets. -/
theorem run_transmitted_off :
    ∃ last, run (step plainConfig) (.start maerklinBus false ⟨0, 0⟩)
        [.thread quietInput, .setPowerState false "off", .thread quietInput] = some last ∧
      last.transmitted.length ≤ 0 + 0 := by
  have off : (State.start maerklinBus false ⟨0, 0⟩).powerState = false := rfl
  have keepsOff : ∀ action ∈ [Action.thread quietInput, .setPowerState false "off",
      .thread quietInput], KeepsOff action := by
    simp [KeepsOff]
  exact ⟨_, rfl, run_transmitted plainConfig off keepsOff rfl⟩

/-! ## Lines -/

/-- Between the tests of `power_state` and the reset of `power_changed`. -/
def Place.InWindow : Place → Prop
  | .check _ .testOff | .check _ .testOn | .check _ .clear => True
  | _ => False

/-- With no change of the power on its way the lines are as `power_state` says. -/
def State.LinesFollow (state : State) : Prop :=
  state.powerChanged = false → state.settingPower = 0 → state.linesOn = state.powerState

/-- When `power_changed` is reset, the lines are as `power_state` says, or some session
is still to write `power_changed`. -/
def ClearsInTime (state : State) : Action → Prop
  | .thread _ =>
      match state.place with
      | .check _ .clear => 0 < state.settingPower ∨ state.linesOn = state.powerState
      | _ => True
  | _ => True

/-- The lines follow the power, and while they are behind it the change is marked. -/
structure State.LinesInv (state : State) : Prop where
  follow : state.LinesFollow
  window : state.place.InWindow → state.powerChanged = true

theorem State.alert_linesInv (state : State) (msg : String) : (state.alert msg).LinesInv :=
  ⟨fun unchanged => Bool.noConfusion unchanged, fun _ => rfl⟩

theorem State.LinesInv.of_outside {state next : State} (inv : state.LinesInv)
    (changed : next.powerChanged = state.powerChanged)
    (setting : next.settingPower = state.settingPower) (lines : next.linesOn = state.linesOn)
    (power : next.powerState = state.powerState) (outside : ¬ next.place.InWindow) :
    next.LinesInv := by
  refine ⟨?_, fun inside => absurd inside outside⟩
  rw [LinesFollow, changed, setting, lines, power]
  exact inv.follow

theorem Caller.on_outside (caller : Caller) : ¬ caller.on.InWindow := by
  cases caller <;> exact id

theorem Caller.off_outside (caller : Caller) : ¬ caller.off.InWindow := by
  cases caller <;> exact id

theorem checkStep_linesInv {config : Config} {state : State} {caller : Caller} {point : Point}
    (input : Input) (inv : state.LinesInv) (place : state.place = .check caller point)
    (inTime : point = .clear → 0 < state.settingPower ∨ state.linesOn = state.powerState) :
    (checkStep config state caller input point).LinesInv := by
  cases point with
  | shortcut =>
      rw [checkStep]
      split
      · dsimp only
        split
        · exact State.alert_linesInv _ _
        · exact inv.of_outside rfl rfl rfl rfl id
      · exact inv.of_outside rfl rfl rfl rfl id
  | ring =>
      rw [checkStep]
      split
      · exact State.alert_linesInv _ _
      · exact inv.of_outside rfl rfl rfl rfl id
  | changed =>
      refine ⟨inv.follow, ?_⟩
      intro inside
      rw [checkStep] at inside ⊢
      by_cases changed : state.powerChanged = true
      · exact changed
      · dsimp only at inside
        rw [if_neg changed] at inside
        exact inside.elim
  | testOff =>
      have changed := inv.window (by rw [place]; trivial)
      exact ⟨fun unchanged => Bool.noConfusion (changed.symm.trans unchanged), fun _ => changed⟩
  | testOn =>
      have changed := inv.window (by rw [place]; trivial)
      exact ⟨fun unchanged => Bool.noConfusion (changed.symm.trans unchanged), fun _ => changed⟩
  | clear =>
      refine ⟨?_, fun inside => inside.elim⟩
      intro _ none
      rcases inTime rfl with pending | follow
      · exact absurd pending (by rw [show state.settingPower = 0 from none]; decide)
      · exact follow
  | testPower =>
      refine inv.of_outside rfl rfl rfl rfl ?_
      rw [checkStep]
      split
      · exact caller.on_outside
      · exact caller.off_outside

theorem State.LinesInv.fetch {state : State} {without : Place} (inv : state.LinesInv)
    (outside : ¬ without.InWindow) : (state.fetch without).LinesInv := by
  rw [State.fetch]
  split
  · exact inv.of_outside rfl rfl rfl rfl outside
  · refine inv.of_outside rfl rfl rfl rfl ?_
    dsimp only
    split
    · exact outside
    · exact id

theorem step_linesInv {config : Config} (state : State) (action : Action) (next : State)
    (inv : state.LinesInv) (inTime : ClearsInTime state action)
    (taken : step config state action = some next) : next.LinesInv := by
  cases action with
  | setPowerState on msg =>
      cases taken
      exact ⟨fun _ none => absurd none (Nat.succ_ne_zero _), inv.window⟩
  | setPowerChanged =>
      rw [step] at taken
      split at taken
      · cases taken
        exact ⟨fun unchanged => Bool.noConfusion unchanged, fun _ => rfl⟩
      · cases taken
  | add data =>
      cases taken
      exact ⟨inv.follow, inv.window⟩
  | updatePools nmra maerklin =>
      cases taken
      exact ⟨inv.follow, inv.window⟩
  | thread input =>
      rw [step, threadStep] at taken
      split at taken
      · rename_i caller point place
        cases taken
        apply checkStep_linesInv input inv place
        rintro rfl
        rw [ClearsInTime, place] at inTime
        exact inTime
      · cases taken
        exact inv.of_outside rfl rfl rfl rfl id
      · cases taken
        exact inv.fetch id
      · cases taken
        exact inv.of_outside rfl rfl rfl rfl id
      · cases taken
        exact inv.fetch id
      · split at taken
        · obtain ⟨⟨sent, ddl⟩, done, rfl⟩ := Option.map_eq_some_iff.mp taken
          exact inv.of_outside rfl rfl rfl rfl id
        · cases taken
          exact inv.of_outside rfl rfl rfl rfl id

theorem step_not_follow {config : Config} (state : State) (action : Action) (next : State)
    (late : ¬ ClearsInTime state action) (taken : step config state action = some next) :
    ¬ next.LinesFollow := by
  cases action with
  | thread input =>
      rw [ClearsInTime] at late
      split at late
      · rename_i caller place
        rw [not_or] at late
        rw [step, threadStep, place] at taken
        cases taken
        intro follow
        exact late.2 (follow rfl (Nat.eq_zero_of_not_pos late.1))
      · exact absurd trivial late
  | setPowerState on msg => exact absurd trivial late
  | setPowerChanged => exact absurd trivial late
  | add data => exact absurd trivial late
  | updatePools nmra maerklin => exact absurd trivial late

/-- No session writes `power_state` between the tests of it and the reset of
`power_changed`. -/
def WritesOutside (state : State) : Action → Prop
  | .setPowerState _ _ => ¬ state.place.InWindow
  | _ => True

/-- What the tests have done to the lines so far. -/
def State.Tested (state : State) : Prop :=
  match state.place with
  | .check _ .testOn => state.powerState = false → state.linesOn = false
  | .check _ .clear => state.linesOn = state.powerState
  | _ => True

theorem Place.tested_of_outside {state : State} (outside : ¬ state.place.InWindow) :
    state.Tested := by
  rw [State.Tested]
  split
  · rename_i place
    rw [place] at outside
    exact absurd trivial outside
  · rename_i place
    rw [place] at outside
    exact absurd trivial outside
  · trivial

theorem State.Tested.clearsInTime {state : State} (tested : state.Tested) (action : Action) :
    ClearsInTime state action := by
  cases action with
  | thread input =>
      rw [ClearsInTime]
      split
      · rename_i place
        rw [State.Tested, place] at tested
        exact Or.inr tested
      · trivial
  | setPowerState on msg => trivial
  | setPowerChanged => trivial
  | add data => trivial
  | updatePools nmra maerklin => trivial

theorem checkStep_tested {config : Config} {state : State} {caller : Caller} {point : Point}
    (input : Input) (tested : state.Tested) (place : state.place = .check caller point) :
    (checkStep config state caller input point).Tested := by
  cases point with
  | shortcut =>
      rw [checkStep]
      split
      · dsimp only
        split <;> trivial
      · trivial
  | ring =>
      rw [checkStep]
      split <;> trivial
  | changed =>
      rw [checkStep]
      cases state.powerChanged <;> trivial
  | testOff =>
      intro off
      have powerOff : state.powerState = false := off
      show (if state.powerState then state.linesOn else false) = false
      rw [powerOff]
      rfl
  | testOn =>
      rw [State.Tested, place] at tested
      show (if state.powerState then true else state.linesOn) = state.powerState
      cases power : state.powerState with
      | true => rfl
      | false => exact tested power
  | clear => trivial
  | testPower =>
      apply Place.tested_of_outside
      rw [checkStep]
      split
      · exact caller.on_outside
      · exact caller.off_outside

theorem step_tested {config : Config} (state : State) (action : Action) (next : State)
    (inv : state.LinesInv ∧ state.Tested) (outside : WritesOutside state action)
    (taken : step config state action = some next) : next.LinesInv ∧ next.Tested := by
  refine ⟨step_linesInv state action next inv.1 (inv.2.clearsInTime action) taken, ?_⟩
  cases action with
  | setPowerState on msg =>
      cases taken
      exact Place.tested_of_outside outside
  | setPowerChanged =>
      rw [step] at taken
      split at taken
      · cases taken
        exact inv.2
      · cases taken
  | add data =>
      cases taken
      exact inv.2
  | updatePools nmra maerklin =>
      cases taken
      exact inv.2
  | thread input =>
      rw [step, threadStep] at taken
      split at taken
      · rename_i caller point place
        cases taken
        exact checkStep_tested input inv.2 place
      · cases taken
        trivial
      · cases taken
        rw [State.fetch]
        split
        · trivial
        · apply Place.tested_of_outside
          dsimp only
          split <;> exact id
      · cases taken
        trivial
      · cases taken
        rw [State.fetch]
        split
        · trivial
        · apply Place.tested_of_outside
          dsimp only
          split <;> exact id
      · split at taken
        · obtain ⟨⟨sent, ddl⟩, done, rfl⟩ := Option.map_eq_some_iff.mp taken
          trivial
        · cases taken
          trivial

theorem State.start_linesInv (ddl : DdlData) (autoPowerOn : Bool) (time : Timeval) :
    (State.start ddl autoPowerOn time).LinesInv :=
  ⟨fun _ none => absurd none (by decide : ¬ 1 = 0), fun inside => inside.elim⟩

/-- For every interleaving: the lines agree with `power_state` in every state without a
change of the power on its way, exactly when every reset of `power_changed` finds them so
or with a session that is still to write `power_changed`.  It is enough that no session
writes `power_state` between the tests of the thread and its reset. -/
theorem holdsAlong_linesFollow_iff (config : Config) (ddl : DdlData) (autoPowerOn : Bool)
    (time : Timeval) (actions : List Action) :
    (HoldsAlong (step config) State.LinesFollow (.start ddl autoPowerOn time) actions ↔
      MeetsAlong (step config) ClearsInTime (.start ddl autoPowerOn time) actions) ∧
    (MeetsAlong (step config) WritesOutside (.start ddl autoPowerOn time) actions →
      HoldsAlong (step config) State.LinesFollow (.start ddl autoPowerOn time) actions) := by
  have start := State.start_linesInv ddl autoPowerOn time
  constructor
  · have sound (state : State) (inv : state.LinesInv) : state.LinesFollow := inv.follow
    apply holdsAlong_iff_meetsAlong sound step_linesInv _ start
    intro state action next _ late taken
    exact step_not_follow state action next late taken
  · intro outside
    have sound (state : State) (inv : state.LinesInv ∧ state.Tested) : state.LinesFollow :=
      inv.1.follow
    exact holdsAlong_of_meets sound step_tested ⟨start, trivial⟩ outside

/-- A session switches the power off behind the tests: the change is lost, and the track
stays under power. -/
example :
    ¬ HoldsAlong (step plainConfig) State.LinesFollow (.start maerklinBus true ⟨0, 0⟩)
      ([.setPowerChanged] ++ List.replicate 5 (.thread quietInput) ++
        [.setPowerState false "off", .setPowerChanged, .thread quietInput]) := by
  intro holds
  have lost := holds.last rfl rfl rfl
  exact absurd lost (by decide)

/-! ## Shortcuts -/

/-- A poll with clear lines. -/
def Config.clear (config : Config) (input : Input) : Bool :=
  input.arg.any fun arg => !config.shows arg

/-- A poll with lines that show a shortcut. -/
def Config.short (config : Config) (input : Input) : Bool :=
  input.arg.any config.shows

/-- The first of the polls since the last clear one that shows a shortcut. -/
def onset (config : Config) (polls : List Input) : Option Input :=
  (polls.reverse.takeWhile fun input => !config.clear input).reverse.find? config.short

/-- The time of detection that polls leave, one after the other. -/
def detection (config : Config) (polls : List Input) : Int :=
  polls.foldl (fun detected input => (checkShortcut config detected input).2) 0

theorem onset_concat (config : Config) (polls : List Input) (input : Input) :
    onset config (polls ++ [input]) =
      if config.clear input then none
      else (onset config polls).or (if config.short input then some input else none) := by
  rw [onset, List.reverse_append, List.reverse_singleton, List.singleton_append,
    List.takeWhile_cons]
  cases config.clear input with
  | true => rfl
  | false =>
      simp only [Bool.not_false, if_true, Bool.false_eq_true, if_false]
      rw [List.reverse_cons, List.find?_append, ← onset]
      congr 1
      cases shows : config.short input with
      | true => simp [shows]
      | false => simp [shows]

theorem checkShortcut_cases (config : Config) (detected : Int) (input : Input) :
    (input.arg = none ∧ config.clear input = false ∧ config.short input = false ∧
        checkShortcut config detected input = (true, detected)) ∨
      (config.clear input = true ∧ config.short input = false ∧ input.arg ≠ none ∧
        checkShortcut config detected input = (false, 0)) ∨
      (config.clear input = false ∧ config.short input = true ∧ input.arg ≠ none ∧
        checkShortcut config detected input =
          (decide (config.shortcutdelay ≤ input.second.micros -
            if detected = 0 then input.first.micros else detected),
            if detected = 0 then input.first.micros else detected)) := by
  cases arg : input.arg with
  | none =>
      refine Or.inl ⟨rfl, ?_, ?_, ?_⟩
      · rw [Config.clear, arg]
        rfl
      · rw [Config.short, arg]
        rfl
      · rw [checkShortcut, arg]
  | some word =>
      refine Or.inr ?_
      rw [Config.clear, Config.short, checkShortcut, arg]
      cases shows : config.shows word with
      | true => exact Or.inr ⟨by simp [shows], by simp [shows], by simp, by simp [shows]⟩
      | false => exact Or.inl ⟨by simp [shows], by simp [shows], by simp, by simp [shows]⟩

/-- The time that is kept is that of the first poll with a shortcut since a clear one. -/
theorem detection_eq (config : Config) {polls : List Input}
    (positive : ∀ input ∈ polls, 0 < input.first.micros) :
    detection config polls = ((onset config polls).map fun input => input.first.micros).getD 0 ∧
      ∀ input, onset config polls = some input → 0 < input.first.micros := by
  induction polls using List.reverseRecOn with
  | nil => exact ⟨rfl, fun _ found => by cases found⟩
  | append_singleton polls input ih =>
      obtain ⟨same, found⟩ := ih fun other mem => positive other (List.mem_append_left _ mem)
      have now := positive input (List.mem_append_right _ List.mem_cons_self)
      rw [detection, List.foldl_append, List.foldl_cons, List.foldl_nil, ← detection,
        onset_concat]
      rcases checkShortcut_cases config (detection config polls) input with
        ⟨_, clear, short, result⟩ | ⟨clear, short, _, result⟩ | ⟨clear, short, _, result⟩
      · rw [result, clear, short]
        simpa using ⟨same, found⟩
      · rw [result, clear]
        simp
      · rw [result, clear, short]
        cases first : onset config polls with
        | none =>
            rw [first] at same
            have zero : detection config polls = 0 := same
            simpa [zero] using now
        | some other =>
            have before := found other first
            rw [first] at same
            have kept : detection config polls = other.first.micros := same
            have nonzero : other.first.micros ≠ 0 := by omega
            simpa [kept, nonzero] using before

/-- For every sequence of polls at times after 0: the last one stops the power exactly
when the lines cannot be read, or when it shows a shortcut and the delay has passed since
the first poll that showed one after the last clear one. -/
theorem checkShortcut_iff (config : Config) {polls : List Input} {last : Input}
    (positive : ∀ input ∈ polls ++ [last], 0 < input.first.micros) :
    (checkShortcut config (detection config polls) last).1 = true ↔
      last.arg = none ∨ config.short last = true ∧
        ∃ first, onset config (polls ++ [last]) = some first ∧
          config.shortcutdelay ≤ last.second.micros - first.first.micros := by
  have now := positive last (List.mem_append_right _ List.mem_cons_self)
  obtain ⟨same, found⟩ :=
    detection_eq config fun other mem => positive other (List.mem_append_left _ mem)
  rw [onset_concat]
  rcases checkShortcut_cases config (detection config polls) last with
    ⟨failed, _, _, result⟩ | ⟨clear, short, read, result⟩ | ⟨clear, short, read, result⟩
  · rw [result]
    simp [failed]
  · rw [result]
    simp [short, read]
  · rw [result, clear, short]
    cases first : onset config polls with
    | none =>
        rw [first] at same
        have zero : detection config polls = 0 := same
        simp [zero, read]
    | some other =>
        have before := found other first
        rw [first] at same
        have kept : detection config polls = other.first.micros := same
        have nonzero : other.first.micros ≠ 0 := by omega
        simp [kept, nonzero, read]

/-- A shortcut that is seen for half a second, with a delay of 400 ms. -/
theorem checkShortcut_iff_half :
    let config := { plainConfig with checkshort := true, shortcutdelay := 400000 }
    let seen : Input := ⟨some tiocmDsr, ⟨1, 0⟩, ⟨1, 0⟩, true⟩
    let last : Input := ⟨some tiocmDsr, ⟨1, 500000⟩, ⟨1, 500000⟩, true⟩
    (checkShortcut config (detection config [seen]) last).1 = true ↔
      last.arg = none ∨ config.short last = true ∧
        ∃ first, onset config ([seen] ++ [last]) = some first ∧
          config.shortcutdelay ≤ last.second.micros - first.first.micros := by
  intro config seen last
  have positive : ∀ input ∈ [seen] ++ [last], 0 < input.first.micros := by decide
  exact checkShortcut_iff config positive

end Srcpd.Ddl.RefreshThread
