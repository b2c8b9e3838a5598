import Srcpd.Ddl.TrackRuns

/-!
# Commands arrive

While the power stays on and the lines show no alarm, the refresh thread comes to the next
packet of the queue within a bounded number of steps, whatever it was doing.  `run_arrives`
draws the conclusion for a decoder: so many steps behind a command it has heard it.
-/

namespace Srcpd.Ddl.TrackRuns

open Srcpd.Pool Srcpd.Queue Srcpd.Transition
open Srcpd.Ddl.RefreshThread (Config Input Place Point checkStep threadStep)

/-! ## Steps to the next packet -/

/-- The line can be set to the mode of a packet, and no check stops the power. -/
structure Quiet (config : Config) (input : Input) : Prop where
  modeSet : input.modeSet = true
  short : config.checkshort = true →
    ∃ arg, input.arg = some arg ∧ config.shows arg = false
  ring : config.riCheck = true → RefreshThread.checkRingIndicator input = false

/-- The parts of `power_is_off` that are still to come. -/
def pointRank : Point → Nat
  | .shortcut => 7
  | .ring => 6
  | .changed => 5
  | .testOff => 4
  | .testOn => 3
  | .clear => 2
  | .testPower => 1

/-- The steps to the next look into the queue, at most. -/
def placeRank : Place → Nat
  | .check .top point => pointRank point + 2
  | .check (.held _) point => pointRank point + 2
  | .check .gap point => pointRank point + 10
  | .idle => 2
  | .get => 1
  | .send _ => 2
  | .next => 1
  | .refresh => 10

theorem placeRank_pos (place : Place) : 0 < placeRank place := by
  cases place with
  | check caller point => cases caller <;> exact Nat.succ_pos _
  | _ => exact Nat.succ_pos _

theorem placeRank_le (place : Place) : placeRank place ≤ 17 := by
  have most (point : Point) : pointRank point ≤ 7 := by cases point <;> decide
  cases place with
  | check caller point =>
      have low := most point
      cases caller <;> simp only [placeRank] <;> omega
  | _ =>
      simp only [placeRank]
      decide

theorem placeRank_on (caller : RefreshThread.Caller) :
    placeRank caller.on < placeRank (.check caller .testPower) := by
  cases caller <;> exact Nat.lt_of_sub_pos Nat.one_pos

theorem placeRank_check (caller : RefreshThread.Caller) {point next : Point}
    (lower : pointRank next < pointRank point) :
    placeRank (.check caller next) < placeRank (.check caller point) := by
  cases caller <;> exact Nat.add_lt_add_right lower _

section Steps

variable {config : Config} {input : Input}

/-- Without an alarm `power_is_off` comes nearer to its end, and the power stays on. -/
theorem checkStep_quiet (quiet : Quiet config input) {bus : RefreshThread.State}
    (on : bus.powerState = true) (caller : RefreshThread.Caller) (point : Point) :
    (checkStep config bus caller input point).powerState = true ∧
      placeRank (checkStep config bus caller input point).place <
        placeRank (.check caller point) := by
  cases point with
  | shortcut =>
      rw [checkStep]
      split
      · rename_i checks
        rcases quiet.short checks with ⟨arg, lines, clear⟩
        have silent : (RefreshThread.checkShortcut config bus.shortDetected input).1 = false := by
          rw [RefreshThread.checkShortcut, lines]
          dsimp only
          rw [clear]
          rfl
        dsimp only
        rw [silent]
        exact ⟨on, placeRank_check caller (by decide)⟩
      · exact ⟨on, placeRank_check caller (by decide)⟩
  | ring =>
      rw [checkStep]
      split
      · rename_i alarm
        rw [quiet.ring alarm.1] at alarm
        exact absurd alarm.2 Bool.false_ne_true
      · exact ⟨on, placeRank_check caller (by decide)⟩
  | changed =>
      refine ⟨on, placeRank_check caller ?_⟩
      split <;> decide
  | testOff => exact ⟨on, placeRank_check caller (by decide)⟩
  | testOn => exact ⟨on, placeRank_check caller (by decide)⟩
  | clear => exact ⟨on, placeRank_check caller (by decide)⟩
  | testPower =>
      refine ⟨on, ?_⟩
      show placeRank (if bus.powerState then caller.on else caller.off) < _
      rw [if_pos on]
      exact placeRank_on caller

/-- Nothing is in the queue, and the thread holds no packet. -/
def Drained (bus : RefreshThread.State) : Prop :=
  bus.place.packet = [] ∧ bus.ddl.queue.ring.contents qsize = []

/-- Nine steps are enough for a packet. -/
def potential (bus : RefreshThread.State) : Nat :=
  9 * (bus.ddl.queue.ring.contents qsize).length + placeRank bus.place

/-- Nothing is left, or less than before. -/
def Nearer (bus next : RefreshThread.State) : Prop :=
  (Drained bus → Drained next) ∧ (Drained next ∨ potential next < potential bus)

theorem fetch_nearer {bus : RefreshThread.State} (served : bus.Served) {without : Place}
    (low : placeRank bus.place = 1) (none : without.packet = []) :
    (bus.fetch without).powerState = bus.powerState ∧ Nearer bus (bus.fetch without) := by
  rw [RefreshThread.State.fetch]
  cases taken : bus.ddl.queue.ring.take qsize QData.taken with
  | none =>
      have contents : bus.ddl.queue.ring.contents qsize = [] := by
        by_contra some
        have more : bus.ddl.queue.ring.length qsize ≠ 0 := by
          rw [← Ring.length_contents]
          exact fun zero => some (List.length_eq_zero_iff.mp zero)
        rw [Ring.take, if_neg fun empty => more (served.fifo.valid.isEmpty_iff.mp empty)] at taken
        cases taken
      exact ⟨rfl, fun _ => ⟨none, contents⟩, Or.inl ⟨none, contents⟩⟩
  | some result =>
      have contents := (served.fifo.valid.take taken).2
      have valid : result.1.packetType ≠ .noValidPkt := by
        have mem : result.1 ∈ bus.ddl.queue.added := by
          rw [← served.all, contents]
          exact List.mem_append_right _ List.mem_cons_self
        have fits := (served.fits _ mem).isValid
        rw [RefreshThread.QData.isValid, decide_eq_true_eq] at fits
        exact fits
      have rest : (queueGet bus.ddl.queue).ring = result.2 := by
        rw [queueGet, Log.take, taken]
      dsimp only
      rw [if_neg valid]
      refine ⟨rfl, fun drained => ?_, Or.inr ?_⟩
      · rw [drained.2] at contents
        cases contents
      · rw [potential, potential, low, contents, List.length_cons]
        dsimp only
        rw [rest]
        simp only [placeRank, pointRank]
        omega

/-- A step that leaves the queue alone, and nothing in the hands that was not there. -/
theorem nearer_of_rank {bus next : RefreshThread.State} (ddl : next.ddl.queue = bus.ddl.queue)
    (packet : bus.place.packet = [] → next.place.packet = [])
    (rank : placeRank next.place < placeRank bus.place) : Nearer bus next := by
  refine ⟨fun drained => ⟨packet drained.1, ?_⟩, Or.inr ?_⟩
  · rw [ddl]
    exact drained.2
  · rw [potential, potential, ddl]
    omega

theorem threadStep_nearer {bus : RefreshThread.State} (served : bus.Served)
    (quiet : Quiet config input) (on : bus.powerState = true)
    (refreshes : ∃ result, refreshLoco bus.ddl = some result) :
    ∃ next, threadStep config bus input = some next ∧ next.powerState = true ∧
      Nearer bus next := by
  rw [threadStep]
  split
  · rename_i caller point place
    have checked := RefreshThread.checkStep_checked config bus caller input point
    have quietly := checkStep_quiet quiet on caller point
    refine ⟨_, rfl, quietly.1, nearer_of_rank ?_ ?_ ?_⟩
    · rw [checked.ddl]
    · rw [place, checked.packet]
      exact id
    · rw [place]
      exact quietly.2
  · rename_i place
    exact ⟨_, rfl, on, nearer_of_rank rfl (fun _ => rfl) (by rw [place]; exact Nat.lt_succ_self _)⟩
  · rename_i place
    have fetched := @fetch_nearer bus served (.check .gap .shortcut) (by rw [place]; rfl) rfl
    exact ⟨_, rfl, fetched.1.trans on, fetched.2⟩
  · rename_i data place
    refine ⟨_, rfl, on, nearer_of_rank rfl (fun _ => rfl) ?_⟩
    rw [place]
    exact Nat.lt_succ_self 1
  · rename_i place
    have fetched := @fetch_nearer bus served (.check .top .shortcut) (by rw [place]; rfl) rfl
    exact ⟨_, rfl, fetched.1.trans on, fetched.2⟩
  · rename_i place
    split
    · rcases refreshes with ⟨result, done⟩
      rw [done]
      refine ⟨_, rfl, on, nearer_of_rank ?_ (fun _ => rfl)
        (by rw [place]; exact Nat.lt_succ_self _)⟩
      exact RefreshThread.refreshLoco_queue done
    · exact ⟨_, rfl, on, nearer_of_rank rfl (fun _ => rfl)
        (by rw [place]; exact Nat.lt_succ_self _)⟩

end Steps

/-! ## Runs of the thread -/

section Runs

variable {config : Config} {address : Int}

/-- The steps of the thread, each with what it gets from the system. -/
def threadRun (inputs : List Input) : List Action :=
  inputs.map fun input => .bus (.thread input)

theorem threadRun_drains (silent : Silent config address) (range : 1 ≤ address ∧ address ≤ 255)
    {state : State} (inv : Inv config address state) (on : state.bus.powerState = true)
    {inputs : List Input} (quiet : ∀ input ∈ inputs, Quiet config input)
    (enough : Drained state.bus ∨ potential state.bus ≤ inputs.length) :
    ∃ next, run (step config) state (threadRun inputs) = some next ∧
      Inv config address next ∧ Drained next.bus ∧ next.adding = state.adding ∧
      next.calls = state.calls := by
  induction inputs generalizing state with
  | nil =>
      rcases enough with drained | none
      · exact ⟨state, rfl, inv, drained, rfl, rfl⟩
      · have some := placeRank_pos state.bus.place
        rw [potential, List.length_nil] at none
        omega
  | cons input inputs ih =>
      have quietly := quiet input List.mem_cons_self
      have refreshes : ∃ result, refreshLoco state.bus.ddl = some result := by
        rcases inv.refresh.refreshed (Or.inl inv.maerklin) with ⟨sent, ddl, done, -⟩
        exact ⟨_, done⟩
      rcases threadStep_nearer inv.served quietly on refreshes with
        ⟨bus, stepped, power, kept, nearer⟩
      have taken : step config state (.bus (.thread input)) = some { state with bus := bus } := by
        show (threadStep config state.bus input).map _ = _
        rw [stepped]
        rfl
      have inv' := step_inv silent range state (.bus (.thread input)) _ inv quietly.modeSet taken
      have left : Drained bus ∨ potential bus ≤ inputs.length := by
        rcases nearer with drained | less
        · exact Or.inl drained
        · rcases enough with drained | enough
          · exact Or.inl (kept drained)
          · rw [List.length_cons] at enough
            exact Or.inr (by omega)
      rcases ih inv' power (fun other mem => quiet other (List.mem_cons_of_mem _ mem)) left with
        ⟨next, executed, inv'', drained, adding, calls⟩
      exact ⟨next, run_cons_eq_some_iff.mpr ⟨_, taken, executed⟩, inv'', drained, adding, calls⟩

end Runs

end Srcpd.Ddl.TrackRuns
