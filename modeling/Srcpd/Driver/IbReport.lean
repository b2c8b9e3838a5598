import Srcpd.Driver.IbGl

/-!
# Status reports of the Intellibox

`check_status_gl_IB` fills a local record from the bytes of a report, all but
`n_func`, and hands it to `cacheSetGL`, which copies that too.  The functions from
F9 on are not in the report and are cleared.  `storesReport_iff` says which reports
leave the rest of the cached record as it was.
-/

namespace Srcpd.Driver.Ib

open Srcpd.Command Srcpd.Queue Srcpd.Transition

/-! ## The driver -/

/-- The five bytes of an event; the first is below 0x80. -/
structure StatusEvent where
  speed : BitVec 8
  functions : BitVec 8
  addrLow : BitVec 8
  addrHigh : BitVec 8
  realSpeed : BitVec 8

/-- The address in a report about a locomotive. -/
def StatusEvent.id (event : StatusEvent) : Int :=
  (event.addrLow.toNat + (event.addrHigh &&& 0x3f).toNat * 256 : Nat)

/-- The tables and the two local records, whatever they contain. -/
structure Status where
  gl : Gl
  queue : Log GlState
  gltmp : GlState
  glakt : GlState

/-- The local record behind the reads of an event. -/
def StatusEvent.fill (event : StatusEvent) (gltmp : GlState) : GlState :=
  let gltmp :=
    if event.speed = 1 then { gltmp with speed := 0, direction := 2 }
    else
      let speed : Int := event.speed.toNat
      { gltmp with speed := if 0 < speed then speed - 1 else speed, direction := 0 }
  let gltmp := { gltmp with funcs := event.functions.setWidth 32 <<< 1 }
  let gltmp :=
    if event.addrHigh.getLsbD 7 ∧ gltmp.direction = 0 then { gltmp with direction := 1 } else gltmp
  let gltmp :=
    if event.addrHigh.getLsbD 6 then { gltmp with funcs := gltmp.funcs ||| 1 } else gltmp
  { gltmp with id := event.id }

/-- The tables with the locomotive initialised if not done by the user. -/
def Status.defaultInit (status : Status) (id : Int) : Gl × Log GlState :=
  if status.gl.isInitialized id then (status.gl, status.queue)
  else (cacheInitGL driver status.gl status.queue id 'P' 1 speedSteps 5).2

/-- The loop body of `check_status_gl_IB`. -/
def checkStatusGl (status : Status) (event : StatusEvent) : Status :=
  let gltmp := event.fill status.gltmp
  if 0 < gltmp.id then
    let tables := status.defaultInit gltmp.id
    let glakt := (cacheGetGL tables.1 gltmp.id).2.getD status.glakt
    let gltmp := { gltmp with
      nFs := glakt.nFs
      speed := (int32 (gltmp.speed * glakt.nFs)).tdiv speedSteps }
    { gl := (cacheSetGL tables.1 gltmp.id gltmp).2, queue := tables.2, gltmp := gltmp,
      glakt := glakt }
  else { status with gltmp := gltmp }

/-- A report about a locomotive goes to the cache. -/
def statusStep : Step Status StatusEvent :=
  fun status event => some (checkStatusGl status event)

/-! ## Reports -/

/-- The record that a report is about, which may be initialised for it. -/
def Status.record (status : Status) (id : Int) : GlState :=
  if status.gl.isInitialized id then status.gl.glstate id
  else { GlState.zero with nFs := speedSteps, nFunc := 5 }

/-- The speed that a report means; 0 and 1 are both a stop. -/
def StatusEvent.reportedSpeed (event : StatusEvent) : Int :=
  (event.speed.toNat - 1 : Nat)

/-- The direction that a report means, with 2 for the emergency stop. -/
def StatusEvent.reportedDirection (event : StatusEvent) : Int :=
  if event.speed = 1 then 2 else if event.addrHigh.getLsbD 7 then 1 else 0

/-- The cached record has what the report says, and the rest as before. -/
structure Reported (event : StatusEvent) (old new : GlState) : Prop where
  state : new.state = 1
  speed : new.speed = event.reportedSpeed
  direction : new.direction = event.reportedDirection
  light : new.funcs.getLsbD 0 = event.addrHigh.getLsbD 6
  functions : ∀ k < 8, new.funcs.getLsbD (k + 1) = event.functions.getLsbD k
  others : ∀ k, 9 ≤ k → new.funcs.getLsbD k = old.funcs.getLsbD k
  nFunc : new.nFunc = old.nFunc
  nFs : new.nFs = old.nFs

/-- A report about an address of the bus is stored. -/
def StoresReport (status : Status) (event : StatusEvent) : Prop :=
  event.speed.toNat < 0x80 → status.gl.isValid event.id = true →
    Reported event (status.record event.id) ((checkStatusGl status event).gl.glstate event.id)

/-- No function from F9 on is cached, and the local record happens to have the number of
functions. -/
def KeepsRecord (status : Status) (event : StatusEvent) : Prop :=
  event.speed.toNat < 0x80 → status.gl.isValid event.id = true →
    (status.record event.id).funcs >>> 9 = 0 ∧
      status.gltmp.nFunc = (status.record event.id).nFunc

/-! ## The local record -/

section Fill

variable (event : StatusEvent) (gltmp : GlState)

@[simp]
theorem StatusEvent.fill_id : (event.fill gltmp).id = event.id :=
  rfl

@[simp]
theorem StatusEvent.fill_nFunc : (event.fill gltmp).nFunc = gltmp.nFunc := by
  simp only [StatusEvent.fill]
  split_ifs <;> rfl

theorem StatusEvent.fill_speed : (event.fill gltmp).speed = event.reportedSpeed := by
  simp only [StatusEvent.fill, StatusEvent.reportedSpeed]
  by_cases emergency : event.speed = 1
  · simp only [if_pos emergency]
    rw [emergency]
    split_ifs <;> rfl
  · simp only [if_neg emergency]
    split_ifs <;> dsimp only <;> omega

theorem StatusEvent.fill_direction :
    (event.fill gltmp).direction = event.reportedDirection := by
  simp only [StatusEvent.fill, StatusEvent.reportedDirection]
  by_cases emergency : event.speed = 1
  · simp only [if_pos emergency]
    split_ifs <;> simp_all
  · simp only [if_neg emergency]
    split_ifs <;> simp_all

theorem StatusEvent.fill_funcs (k : Nat) :
    (event.fill gltmp).funcs.getLsbD k =
      if k = 0 then event.addrHigh.getLsbD 6
      else decide (k < 9) && event.functions.getLsbD (k - 1) := by
  have shifted : (event.fill gltmp).funcs =
      (event.functions.setWidth 32 <<< 1) ||| (if event.addrHigh.getLsbD 6 then 1 else 0) := by
    simp only [StatusEvent.fill]
    split_ifs <;> simp
  rw [shifted, BitVec.getLsbD_or, BitVec.getLsbD_shiftLeft, BitVec.getLsbD_setWidth]
  by_cases first : k = 0
  · rw [first]
    split_ifs <;> simp_all
  · have light : (if event.addrHigh.getLsbD 6 then (1 : BitVec 32) else 0).getLsbD k = false := by
      split_ifs <;> simp [first]
    rw [light, if_neg first]
    by_cases low : k < 9
    · simp only [low, decide_true, Bool.true_and, Bool.or_false]
      have inWord : k < 32 ∧ ¬ k < 1 ∧ k - 1 < 32 := by omega
      simp [inWord]
    · have out : event.functions.getLsbD (k - 1) = false :=
        BitVec.getLsbD_of_ge _ _ (by omega)
      simp [low, out]

end Fill

/-! ## What is stored -/

variable {status : Status} {event : StatusEvent}

/-- What the driver knows of the tables. -/
structure StatusInv (status : Status) : Prop where
  records : Steps status.gl
  queued : QueuedSteps status.queue

theorem StatusInv.defaultInit (inv : StatusInv status) (id : Int) :
    Steps (status.defaultInit id).1 ∧ QueuedSteps (status.defaultInit id).2 := by
  rw [Status.defaultInit]
  split
  · exact ⟨inv.records, inv.queued⟩
  · exact inv.records.cacheInitGL inv.queued id 'P' 1 speedSteps 5

theorem defaultInit_isInitialized {id : Int} (valid : status.gl.isValid id = true) :
    (status.defaultInit id).1.isInitialized id = true := by
  rw [Status.defaultInit]
  split
  · assumption
  · apply cacheInitGL_isInitialized
    rcases cacheInitGL_cases driver status.gl status.queue id 'P' 1 speedSteps 5 with
      ⟨-, -, -, result⟩ | ⟨refused, -, -⟩
    · rw [result]
    · exact absurd ⟨valid, rfl, rfl⟩ refused

/-- The record that is read back once the locomotive is initialised. -/
theorem cacheGetGL_defaultInit {id : Int} (valid : status.gl.isValid id = true)
    (glakt : GlState) :
    (cacheGetGL (status.defaultInit id).1 id).2.getD glakt =
      (status.defaultInit id).1.glstate id := by
  rw [cacheGetGL, if_pos (defaultInit_isInitialized valid)]
  rfl

theorem defaultInit_isValid (id : Int) :
    (status.defaultInit id).1.isValid = status.gl.isValid := by
  rw [Status.defaultInit]
  split
  · rfl
  · funext other
    exact cacheInitGL_isValid driver status.gl status.queue id 'P' 1 speedSteps 5 other

theorem StatusInv.checkStatusGl (inv : StatusInv status) (event : StatusEvent) :
    StatusInv (checkStatusGl status event) := by
  obtain ⟨records, queued⟩ := inv.defaultInit event.id
  rw [Ib.checkStatusGl]
  dsimp only
  by_cases positive : 0 < (event.fill status.gltmp).id
  · rw [if_pos positive]
    refine ⟨?_, queued⟩
    dsimp only [StatusEvent.fill_id]
    by_cases valid : status.gl.isValid event.id = true
    · apply records.cacheSetGL
      dsimp only
      rw [cacheGetGL_defaultInit valid]
      exact records _ (defaultInit_isInitialized valid)
    · rw [cacheSetGL, defaultInit_isValid, if_neg valid]
      exact records
  · rw [if_neg positive]
    exact ⟨inv.records, inv.queued⟩

/-- The reported speed is one of 126 steps and is stored as it is. -/
theorem rescale_reportedSpeed (low : event.speed.toNat < 0x80) :
    (int32 (event.reportedSpeed * speedSteps)).tdiv speedSteps = event.reportedSpeed := by
  have below : event.speed.toNat - 1 < 127 := by omega
  rw [StatusEvent.reportedSpeed, int32, speedSteps, Int.bmod_eq_of_le (by omega) (by omega)]
  exact Int.mul_tdiv_cancel _ (by decide)

theorem isValid_pos {gl : Gl} {id : Int} (valid : gl.isValid id = true) : 0 < id := by
  simp only [Gl.isValid, Bool.and_eq_true, decide_eq_true_eq] at valid
  exact valid.1.2

theorem checkStatusGl_glstate (inv : StatusInv status) (low : event.speed.toNat < 0x80)
    (valid : status.gl.isValid event.id = true) :
    (checkStatusGl status event).gl.glstate event.id =
      { (status.defaultInit event.id).1.glstate event.id with
        direction := event.reportedDirection
        speed := event.reportedSpeed
        funcs := (event.fill status.gltmp).funcs
        nFunc := status.gltmp.nFunc
        tv := (status.defaultInit event.id).1.clock } := by
  have initialised := defaultInit_isInitialized valid
  have steps := (inv.defaultInit event.id).1 _ initialised
  have positive : 0 < (event.fill status.gltmp).id := isValid_pos valid
  rw [checkStatusGl]
  dsimp only
  rw [if_pos positive]
  dsimp only [StatusEvent.fill_id]
  rw [cacheSetGL_of_isInitialized initialised, cacheGetGL_defaultInit valid]
  dsimp only
  rw [steps, StatusEvent.fill_speed, rescale_reportedSpeed low, StatusEvent.fill_direction,
    StatusEvent.fill_nFunc, ← steps]

/-- The default init makes the record that a report is about. -/
theorem defaultInit_record {id : Int} (inv : StatusInv status)
    (valid : status.gl.isValid id = true) :
    ((status.defaultInit id).1.glstate id).state = 1 ∧
      ((status.defaultInit id).1.glstate id).nFs = (status.record id).nFs := by
  have initialised := defaultInit_isInitialized valid
  refine ⟨(Gl.isInitialized_iff.mp initialised).2, ?_⟩
  rw [(inv.defaultInit id).1 _ initialised, Status.record]
  split
  · next living => exact (inv.records _ living).symm
  · rfl

theorem storesReport_iff (inv : StatusInv status) :
    StoresReport status event ↔ KeepsRecord status event := by
  refine forall_congr' fun low => forall_congr' fun valid => ?_
  obtain ⟨living, steps⟩ := defaultInit_record inv valid
  have stored := checkStatusGl_glstate inv low valid
  have functions (k : Nat) :
      ((checkStatusGl status event).gl.glstate event.id).funcs.getLsbD k =
        if k = 0 then event.addrHigh.getLsbD 6
        else decide (k < 9) && event.functions.getLsbD (k - 1) := by
    rw [stored]
    exact event.fill_funcs status.gltmp k
  have cleared (k : Nat) (high : 9 ≤ k) :
      ((checkStatusGl status event).gl.glstate event.id).funcs.getLsbD k = false := by
    have out : ¬ k = 0 ∧ ¬ k < 9 := by omega
    simp [functions k, out]
  constructor
  · intro reported
    constructor
    · apply BitVec.eq_of_getLsbD_eq
      intro k _
      have kept := reported.others (9 + k) (by omega)
      rw [cleared _ (by omega)] at kept
      rw [BitVec.getLsbD_ushiftRight, ← kept]
      exact BitVec.getLsbD_zero.symm
    · rw [← reported.nFunc, stored]
  · rintro ⟨noOthers, nFunc⟩
    refine
      { state := ?_, speed := ?_, direction := ?_, light := ?_, functions := ?_, others := ?_
        nFunc := ?_, nFs := ?_ }
    · rw [stored]
      exact living
    · rw [stored]
    · rw [stored]
    · rw [functions, if_pos rfl]
    · intro k below
      have within : ¬ k + 1 = 0 ∧ k + 1 < 9 := by omega
      simp [functions, within]
    · intro k high
      have off := congrArg (BitVec.getLsbD · (k - 9)) noOthers
      rw [BitVec.getLsbD_ushiftRight, Nat.add_sub_cancel' high] at off
      rw [cleared k high, off]
      exact BitVec.getLsbD_zero.symm
    · rw [stored, ← nFunc]
    · rw [stored]
      exact steps

/-- Along the events of one call. -/
theorem storesReports_iff (inv : StatusInv status) (events : List StatusEvent) :
    MeetsAlong statusStep StoresReport status events ↔
      MeetsAlong statusStep KeepsRecord status events := by
  apply @meetsAlong_iff_of_invariant _ _ statusStep StoresReport KeepsRecord StatusInv
  · intro status event next inv _
    exact storesReport_iff inv
  · intro status event next inv _ taken
    cases taken
    exact inv.checkStatusGl event
  · exact inv

/-! ## Runs -/

/-- In every interleaving of the sessions with the driver: the reports of a call are stored,
and nothing else is, exactly when each finds no function from F9 on and the number of functions
that the local record happens to have. -/
theorem checkStatusGl_stores_iff (number : Int) (actions : List Action)
    (reports : MeetsAlong (step .intellibox driver) ReportsSteps (startBus number) actions) :
    HoldsAlong (step .intellibox driver)
      (fun bus => ∀ gltmp glakt events,
        MeetsAlong statusStep StoresReport ⟨bus.gl, bus.queue, gltmp, glakt⟩ events ↔
          MeetsAlong statusStep KeepsRecord ⟨bus.gl, bus.queue, gltmp, glakt⟩ events)
      (startBus number) actions := by
  refine holdsAlong_of_meets ?_ (fun _ _ _ inv ok taken => step_inv inv ok taken)
    (inv_startBus number) reports
  intro bus inv gltmp glakt events
  exact storesReports_iff ⟨inv.records, inv.queued⟩ events

/-- A locomotive with ten functions gets F9. -/
def switchF9 : List Action :=
  [.init 3 'P' 1 28 10, .enqueue ⟨3, 1, 5, 126, 0x200⟩, .dequeue, .read .zero true, .send, .store,
    .dequeue, .read .zero true, .send, .store]

theorem checkStatusGl_stores_iff_switchF9 :
    HoldsAlong (step .intellibox driver)
      (fun bus => ∀ gltmp glakt events,
        MeetsAlong statusStep StoresReport ⟨bus.gl, bus.queue, gltmp, glakt⟩ events ↔
          MeetsAlong statusStep KeepsRecord ⟨bus.gl, bus.queue, gltmp, glakt⟩ events)
      (startBus 10) switchF9 :=
  checkStatusGl_stores_iff 10 switchF9
    (meetsAlong_of_forall _ (by simp [switchF9, ReportsSteps]) _)

/-- The same locomotive is reported at another speed. -/
def fasterEvent : StatusEvent :=
  ⟨8, 0, 3, 0x80, 0⟩

/-- F9 is switched off by the report, and the number of functions is what was on the stack. -/
theorem not_storesReport :
    ∃ bus, run (step .intellibox driver) (startBus 10) switchF9 = some bus ∧
      ¬ StoresReport ⟨bus.gl, bus.queue, { GlState.zero with nFunc := 10 }, .zero⟩ fasterEvent ∧
      ¬ StoresReport ⟨bus.gl, bus.queue, .zero, .zero⟩ fasterEvent := by
  refine ⟨_, rfl, ?_, ?_⟩
  · intro stored
    have kept := (stored (by decide) rfl).others 9 (le_refl 9)
    revert kept
    decide
  · intro stored
    have kept := (stored (by decide) rfl).nFunc
    revert kept
    decide

end Srcpd.Driver.Ib
