import Srcpd.Command.Gl

/-!
# Feedback contacts

A contact that opens is not reported at once: `updateFB` only marks it and queues
a reset, which `check_reset_fb` carries out when it is old enough.  The
published state stays 1 in the meantime, so that every further report of an open
contact queues another reset.

`neverBlocks_iff` is the exact condition under which the reset queue, which only
the polling thread itself empties, never gets full.
-/

namespace Srcpd.Feedback

open Srcpd.Command Srcpd.Transition

/-! ## Contacts and their resets -/

/-- A contact with the time of its last change, and whether a reset is pending. -/
structure FbState where
  timestamp : Int
  state : Int
  change : Int
  deriving DecidableEq, Repr

/-- A reset that waits for its time. -/
structure FbReset where
  port : Nat
  timestamp : Int
  deriving DecidableEq, Repr

/-- The contacts of one bus and its reset queue; times are in microseconds. -/
structure Fb where
  numberOfFb : Int
  fbstate : Nat → FbState
  minTime : Int
  resetQueue : List FbReset

/-- Conversion to `short int`, the type of a state. -/
def short (value : Int) : Int :=
  value.bmod 65536

/-- `QUEUELENGTH_FB`. -/
def queuelengthFb : Nat := 1000

/-- `queueIsFull` keeps one entry free. -/
def Fb.queueIsFull (fb : Fb) : Bool :=
  queuelengthFb - 1 ≤ fb.resetQueue.length

/-- One contact in another state. -/
def Fb.setState (fb : Fb) (port : Nat) (state : FbState) : Fb :=
  { fb with fbstate := Function.update fb.fbstate port state }

@[simp]
theorem Fb.setState_fbstate_self (fb : Fb) (port : Nat) (state : FbState) :
    (fb.setState port state).fbstate port = state :=
  Function.update_self _ _ _

@[simp]
theorem Fb.setState_resetQueue (fb : Fb) (port : Nat) (state : FbState) :
    (fb.setState port state).resetQueue = fb.resetQueue :=
  rfl

theorem Fb.setState_fbstate_of_ne (fb : Fb) {port other : Nat} (different : other ≠ port)
    (state : FbState) : (fb.setState port state).fbstate other = fb.fbstate other :=
  Function.update_of_ne different _ _

/-- `none` while the queue is full: the loop waits for somebody else to empty it. -/
def queueResetFB (fb : Fb) (port : Nat) (ctime : Int) : Option Fb :=
  if fb.queueIsFull then none
  else some { fb with resetQueue := fb.resetQueue ++ [⟨port, ctime⟩] }

/-- Number of a port as an index. -/
def portT (port : Int) : Nat :=
  (port - 1).toNat

/-- `none` when the call does not return. -/
def updateFB (fb : Fb) (now port value : Int) : Option (SrcpCode × Fb) :=
  if port > fb.numberOfFb ∨ port < 1 then some (.wrongValue, fb)
  else
    let contact := fb.fbstate (portT port)
    if contact.state ≠ value then
      if value = 0 then
        if fb.minTime = 0 then some (.ok, fb.setState (portT port) ⟨now, short value, 0⟩)
        else
          (queueResetFB (fb.setState (portT port) { contact with change := -1 }) (portT port)
            now).map fun queued => (.ok, queued)
      else if contact.change < 0 then
        some (.ok, fb.setState (portT port) { contact with change := 0 })
      else some (.ok, fb.setState (portT port) ⟨now, short value, 0⟩)
    else some (.ok, fb)

/-- The loop of `check_reset_fb` over the entries that are left. -/
def checkResets (now : Int) : List FbReset → Fb → Fb
  | [], fb => { fb with resetQueue := [] }
  | reset :: rest, fb =>
      -- drop this reset of feedback, because we've got a new impulse
      if (fb.fbstate reset.port).change = 0 then checkResets now rest fb
      else if now - reset.timestamp < fb.minTime then { fb with resetQueue := reset :: rest }
      else checkResets now rest (fb.setState reset.port ⟨reset.timestamp, 0, 0⟩)

/-- A call takes no time: all its readings of the clock are `now`. -/
def checkResetFB (fb : Fb) (now : Int) : Fb :=
  checkResets now fb.resetQueue fb

/-! ## Messages -/

/-- The contact for which `updateFB` queues a message. -/
def updateInfos (fb : Fb) (port value : Int) : List Int :=
  if port > fb.numberOfFb ∨ port < 1 then []
  else
    let contact := fb.fbstate (portT port)
    if contact.state ≠ value then
      if value = 0 then if fb.minTime = 0 then [port] else []
      else if contact.change < 0 then []
      else [port]
    else []

/-- What `check_reset_fb` queues: a message about each contact, with the contacts as the
reset has left them. -/
def checkInfos {α : Type} (message : Fb → Int → α) (now : Int) : List FbReset → Fb → List α
  | [], _ => []
  | reset :: rest, fb =>
      if (fb.fbstate reset.port).change = 0 then checkInfos message now rest fb
      else if now - reset.timestamp < fb.minTime then []
      else
        let next := fb.setState reset.port ⟨reset.timestamp, 0, 0⟩
        message next (reset.port + 1) :: checkInfos message now rest next

theorem mem_checkInfos {α : Type} {message : Fb → Int → α} {now : Int} {resets : List FbReset}
    {fb : Fb} {info : α} (mem : info ∈ checkInfos message now resets fb) :
    ∃ next port, info = message next port := by
  induction resets generalizing fb with
  | nil => contradiction
  | cons reset rest ih =>
      rw [checkInfos] at mem
      split at mem
      · exact ih mem
      · split at mem
        · contradiction
        · rcases List.mem_cons.mp mem with rfl | mem
          · exact ⟨_, _, rfl⟩
          · exact ih mem

/-- The state after `startup_FB`, `set_min_time` and `init_FB`. -/
def initFB (number minTime now : Int) : Fb :=
  { numberOfFb := max number 0
    fbstate := fun _ => ⟨now, 0, 0⟩
    minTime := minTime
    resetQueue := [] }

/-! ## Polling -/

/-- A call of the driver thread, with the time at which it is made. -/
inductive FbAction
  | updateFB (now port value : Int)
  | checkResetFB (now : Int)

/-- A report of the driver, or a check of the pending resets. -/
def fbStep : Step Fb FbAction
  | fb, .updateFB now port value => (updateFB fb now port value).map Prod.snd
  | fb, .checkResetFB now => some (checkResetFB fb now)

/-- How a driver numbers the ports of a module. -/
structure ModulFlags where
  fb16Ports : Bool
  fb4Ports : Bool
  fbOrder0 : Bool

/-- The contacts of a module. -/
def ModulFlags.ports (flags : ModulFlags) : Nat :=
  if flags.fb4Ports then 4 else if flags.fb16Ports then 16 else 8

/-- The calls of `updateFB` in `setFBmodul`. -/
def setFBmodul (flags : ModulFlags) (now modul : Int) (values : BitVec 32) : List FbAction :=
  (List.range flags.ports).map fun i =>
    let mask := if flags.fbOrder0 then i else flags.ports - 1 - i
    .updateFB now ((modul - 1) * flags.ports + 1 + i) (if values.getLsbD mask then 1 else 0)

/-- One cycle of a driver: the resets that are due, then all modules. -/
def pollCycle (flags : ModulFlags) (now : Int) (modules : List (BitVec 32)) : List FbAction :=
  .checkResetFB now ::
    (modules.zipIdx 1).flatMap fun modul => setFBmodul flags now modul.2 modul.1

/-! ## What a call does -/

variable {fb next : Fb} {now port value : Int}

theorem portT_lt (inRange : ¬ (port > fb.numberOfFb ∨ port < 1)) :
    (portT port : Int) < fb.numberOfFb := by
  unfold portT
  omega

/-- The branches of `updateFB`: a contact as published, one that opens, one that
closes while its reset is pending, and one that closes. -/
theorem updateFB_cases {code : SrcpCode}
    (returned : updateFB fb now port value = some (code, next)) :
    ((port > fb.numberOfFb ∨ port < 1) ∧ next = fb) ∨
    (¬ (port > fb.numberOfFb ∨ port < 1) ∧
      (((fb.fbstate (portT port)).state = value ∧ next = fb) ∨
        ((fb.fbstate (portT port)).state ≠ 0 ∧ value = 0 ∧ fb.minTime = 0 ∧
          next = fb.setState (portT port) ⟨now, 0, 0⟩) ∨
        ((fb.fbstate (portT port)).state ≠ 0 ∧ value = 0 ∧ fb.minTime ≠ 0 ∧
          fb.queueIsFull = false ∧
          next = { fb.setState (portT port) { fb.fbstate (portT port) with change := -1 } with
            resetQueue := fb.resetQueue ++ [⟨portT port, now⟩] }) ∨
        ((fb.fbstate (portT port)).state ≠ value ∧ value ≠ 0 ∧
          (fb.fbstate (portT port)).change < 0 ∧
          next = fb.setState (portT port) { fb.fbstate (portT port) with change := 0 }) ∨
        ((fb.fbstate (portT port)).state ≠ value ∧ value ≠ 0 ∧
          ¬ (fb.fbstate (portT port)).change < 0 ∧
          next = fb.setState (portT port) ⟨now, short value, 0⟩))) := by
  unfold updateFB at returned
  split at returned
  · rename_i outside
    cases returned
    exact .inl ⟨outside, rfl⟩
  · rename_i inside
    refine .inr ⟨inside, ?_⟩
    simp only at returned
    split at returned
    · rename_i differs
      split at returned
      · rename_i opens
        subst opens
        split at returned
        · rename_i immediate
          cases returned
          exact .inr (.inl ⟨differs, rfl, immediate, rfl⟩)
        · rename_i delayed
          simp only [Option.map_eq_some_iff, Prod.mk.injEq, queueResetFB,
            Option.ite_none_left_eq_some, Option.some.injEq] at returned
          rcases returned with ⟨queued, ⟨room, rfl⟩, _, rfl⟩
          exact .inr (.inr (.inl ⟨differs, rfl, delayed, Bool.eq_false_iff.mpr room, rfl⟩))
      · rename_i closes
        split at returned
        · rename_i pending
          cases returned
          exact .inr (.inr (.inr (.inl ⟨differs, closes, pending, rfl⟩)))
        · rename_i settled
          cases returned
          exact .inr (.inr (.inr (.inr ⟨differs, closes, settled, rfl⟩)))
    · rename_i same
      cases returned
      exact .inl ⟨not_not.mp same, rfl⟩

/-- A call returns unless it finds the queue full. -/
theorem updateFB_isSome (room : fb.queueIsFull = false) (now port value : Int) :
    (updateFB fb now port value).isSome := by
  have full : (fb.setState (portT port)
      { fb.fbstate (portT port) with change := -1 }).queueIsFull = false := room
  simp only [updateFB, queueResetFB, full, Bool.false_eq_true, if_false]
  repeat' split
  all_goals rfl

/-- The reset queue afterwards is what was behind the entries taken from it. -/
theorem checkResets_suffix (now : Int) (resets : List FbReset) (fb : Fb) :
    (checkResets now resets fb).resetQueue <:+ resets := by
  induction resets generalizing fb with
  | nil => exact List.suffix_rfl
  | cons reset rest ih =>
      unfold checkResets
      split
      · exact (ih fb).trans (List.suffix_cons reset rest)
      · split
        · exact List.suffix_rfl
        · exact (ih _).trans (List.suffix_cons reset rest)

theorem checkResets_numberOfFb (now : Int) (resets : List FbReset) (fb : Fb) :
    (checkResets now resets fb).numberOfFb = fb.numberOfFb := by
  induction resets generalizing fb with
  | nil => rfl
  | cons reset rest ih =>
      unfold checkResets
      split
      · exact ih fb
      · split
        · rfl
        · exact ih _

/-! ## The reset queue of a polling driver -/

/-- Every port waits for at most one reset, and no call waits for ever. -/
structure Fb.NeverBlocks (fb : Fb) : Prop where
  once : (fb.resetQueue.map FbReset.port).Nodup
  returns : ∀ now port value, (updateFB fb now port value).isSome

/-- A port that is published as 1 and reported 0 does not wait for a reset
already. -/
def QueuesOnce (fb : Fb) : FbAction → Prop
  | .updateFB _ port value =>
      ¬ (port > fb.numberOfFb ∨ port < 1) → (fb.fbstate (portT port)).state ≠ 0 → value = 0 →
        fb.minTime ≠ 0 → portT port ∉ fb.resetQueue.map FbReset.port
  | .checkResetFB _ => True

/-- Few ports, and at most one reset for each. -/
structure Fb.Inv (fb : Fb) : Prop where
  once : (fb.resetQueue.map FbReset.port).Nodup
  inRange : ∀ port ∈ fb.resetQueue.map FbReset.port, (port : Int) < fb.numberOfFb
  few : fb.numberOfFb < queuelengthFb - 1

theorem Fb.Inv.room (inv : fb.Inv) : fb.queueIsFull = false := by
  have bounded : (fb.resetQueue.map FbReset.port).length ≤ fb.numberOfFb.toNat := by
    have subset : fb.resetQueue.map FbReset.port ⊆ List.range fb.numberOfFb.toNat := by
      intro port mem
      have below := inv.inRange port mem
      rw [List.mem_range]
      omega
    simpa using (inv.once.subperm subset).length_le
  have few : fb.numberOfFb < 1000 - 1 := inv.few
  rw [List.length_map] at bounded
  rw [Fb.queueIsFull, decide_eq_false_iff_not, queuelengthFb]
  omega

theorem Fb.Inv.neverBlocks (inv : fb.Inv) : fb.NeverBlocks where
  once := inv.once
  returns := fun now port value => updateFB_isSome inv.room now port value

theorem Fb.Inv.checkResetFB (inv : fb.Inv) (now : Int) : (checkResetFB fb now).Inv := by
  have suffix := (checkResets_suffix now fb.resetQueue fb).map FbReset.port
  constructor
  · exact inv.once.sublist suffix.sublist
  · intro port mem
    rw [Feedback.checkResetFB, checkResets_numberOfFb]
    exact inv.inRange port (suffix.subset mem)
  · rw [Feedback.checkResetFB, checkResets_numberOfFb]
    exact inv.few

theorem Fb.Inv.step {action : FbAction} (inv : fb.Inv) (once : QueuesOnce fb action)
    (taken : fbStep fb action = some next) : next.Inv := by
  cases action with
  | checkResetFB now =>
      cases taken
      exact inv.checkResetFB now
  | updateFB now port value =>
      simp only [fbStep, Option.map_eq_some_iff, Prod.exists] at taken
      rcases taken with ⟨code, after, returned, rfl⟩
      rcases updateFB_cases returned with ⟨_, rfl⟩ | ⟨inside, ⟨_, rfl⟩ | ⟨_, _, _, rfl⟩ |
        ⟨closed, opens, delayed, _, rfl⟩ | ⟨_, _, _, rfl⟩ | ⟨_, _, _, rfl⟩⟩
      · exact inv
      · exact inv
      · exact ⟨inv.once, inv.inRange, inv.few⟩
      · have fresh := once inside closed opens delayed
        constructor
        · simpa [List.nodup_append, Fb.setState, inv.once] using fresh
        · intro other mem
          simp only [List.map_append, List.map_cons, List.map_nil, List.mem_append,
            List.mem_singleton] at mem
          rcases mem with old | rfl
          · exact inv.inRange other old
          · exact portT_lt inside
        · exact inv.few
      · exact ⟨inv.once, inv.inRange, inv.few⟩
      · exact ⟨inv.once, inv.inRange, inv.few⟩

/-- A second reset for a port that waits for one. -/
theorem Fb.Inv.broken {action : FbAction} (violated : ¬ QueuesOnce fb action)
    (taken : fbStep fb action = some next) : ¬ next.NeverBlocks := by
  cases action with
  | checkResetFB now => exact absurd trivial violated
  | updateFB now port value =>
      simp only [QueuesOnce, Classical.not_imp, not_not] at violated
      rcases violated with ⟨inside, closed, opens, delayed, waiting⟩
      simp only [fbStep, Option.map_eq_some_iff, Prod.exists] at taken
      rcases taken with ⟨code, after, returned, rfl⟩
      intro neverBlocks
      have once := neverBlocks.once
      rcases updateFB_cases returned with ⟨outside, _⟩ | ⟨_, ⟨same, _⟩ | ⟨_, _, immediate, _⟩ |
        ⟨_, _, _, _, rfl⟩ | ⟨_, closes, _⟩ | ⟨_, closes, _⟩⟩
      · exact inside outside
      · exact closed (same.trans opens)
      · exact delayed immediate
      · simp only [List.map_append, List.nodup_append] at once
        exact once.2.2 _ waiting _ (by simp) rfl
      · exact closes opens
      · exact closes opens

theorem inv_initFB {number : Int} (few : number < queuelengthFb - 1) (minTime now : Int) :
    (initFB number minTime now).Inv where
  once := List.nodup_nil
  inRange := by
    intro port mem
    cases mem
  few := max_lt few (by decide)

/-- With fewer ports than the queue has room for, in every sequence of calls each
port waits for at most one reset and the thread never blocks, precisely when no
port is reported open again while it waits for its reset. -/
theorem neverBlocks_iff (number minTime now : Int) (few : number < queuelengthFb - 1)
    (actions : List FbAction) :
    HoldsAlong fbStep Fb.NeverBlocks (initFB number minTime now) actions ↔
      MeetsAlong fbStep QueuesOnce (initFB number minTime now) actions := by
  apply holdsAlong_iff_meetsAlong
  · exact fun fb inv => Fb.Inv.neverBlocks inv
  · exact fun fb action next inv once taken => inv.step once taken
  · exact fun fb action next _ violated taken => Fb.Inv.broken violated taken
  · exact inv_initFB few minTime now

/-- A module of eight ports of which the first closes, polled three times. -/
theorem neverBlocks_iff_closing :
    (8 : Int) < queuelengthFb - 1 ∧
      (HoldsAlong fbStep Fb.NeverBlocks (initFB 8 500000 0)
          (pollCycle ⟨false, false, false⟩ 0 [0x80]) ↔
        MeetsAlong fbStep QueuesOnce (initFB 8 500000 0)
          (pollCycle ⟨false, false, false⟩ 0 [0x80])) :=
  ⟨by decide, neverBlocks_iff 8 500000 0 (by decide) _⟩

/-- The first port closes and is reported open in the next two cycles, within the
half second that a reset takes. -/
def openTwice : List FbAction :=
  pollCycle ⟨false, false, false⟩ 0 [0x80] ++
    (pollCycle ⟨false, false, false⟩ 100000 [0] ++ pollCycle ⟨false, false, false⟩ 200000 [0])

theorem openTwice_queues_twice :
    (∃ last, run fbStep (initFB 8 500000 0) openTwice = some last ∧
      last.resetQueue = [⟨0, 100000⟩, ⟨0, 200000⟩]) ∧
    ¬ HoldsAlong fbStep Fb.NeverBlocks (initFB 8 500000 0) openTwice := by
  have executed : ∃ last, run fbStep (initFB 8 500000 0) openTwice = some last ∧
      last.resetQueue = [⟨0, 100000⟩, ⟨0, 200000⟩] := ⟨_, rfl, rfl⟩
  refine ⟨executed, fun holds => ?_⟩
  rcases executed with ⟨last, executed, queue⟩
  have once := (holds.last executed).once
  rw [queue] at once
  exact absurd once (by decide)

/-! ## A contact that stays open -/

/-- Reports of an open contact that is published as 1 fill the queue, however
many entries it holds already. -/
theorem run_replicate_open (inside : ¬ (port > fb.numberOfFb ∨ port < 1))
    (closed : (fb.fbstate (portT port)).state ≠ 0) (delayed : fb.minTime ≠ 0) (count : Nat)
    (room : fb.resetQueue.length + count ≤ queuelengthFb - 1) :
    ∃ last, run fbStep fb (List.replicate count (.updateFB now port 0)) = some last ∧
      last.resetQueue.length = fb.resetQueue.length + count ∧
      last.numberOfFb = fb.numberOfFb ∧ last.minTime = fb.minTime ∧
      (last.fbstate (portT port)).state ≠ 0 := by
  induction count generalizing fb with
  | zero => exact ⟨fb, rfl, rfl, rfl, rfl, closed⟩
  | succ count ih =>
      have notFull : fb.queueIsFull = false := by
        rw [Fb.queueIsFull, decide_eq_false_iff_not]
        omega
      rcases Option.isSome_iff_exists.mp (updateFB_isSome notFull now port 0) with
        ⟨⟨code, next⟩, returned⟩
      rcases updateFB_cases returned with ⟨outside, _⟩ | ⟨_, ⟨same, _⟩ | ⟨_, _, immediate, _⟩ |
        ⟨_, _, _, _, queued⟩ | ⟨_, closes, _⟩ | ⟨_, closes, _⟩⟩
      · exact absurd outside inside
      · exact absurd same closed
      · exact absurd immediate delayed
      · have longer : next.resetQueue.length = fb.resetQueue.length + 1 := by
          rw [queued, List.length_append, List.length_singleton]
        have number : next.numberOfFb = fb.numberOfFb := by rw [queued]; rfl
        have time : next.minTime = fb.minTime := by rw [queued]; rfl
        have still : (next.fbstate (portT port)).state ≠ 0 := by
          rw [queued]
          simpa [Fb.setState] using closed
        rcases ih (by rw [number]; exact inside) still (by rw [time]; exact delayed)
          (by omega) with ⟨last, executed, length, lastNumber, lastTime, lastState⟩
        refine ⟨last, ?_, by omega, lastNumber.trans number, lastTime.trans time, lastState⟩
        rw [List.replicate_succ, run_cons_eq_some_iff]
        exact ⟨next, by simp [fbStep, returned], executed⟩
      · exact absurd rfl closes
      · exact absurd rfl closes

/-- The thread that empties the queue hangs in its own report when a contact is
polled often enough before its reset is due. -/
theorem open_contact_blocks (inside : ¬ (port > fb.numberOfFb ∨ port < 1))
    (closed : (fb.fbstate (portT port)).state ≠ 0) (delayed : fb.minTime ≠ 0)
    (few : fb.resetQueue.length ≤ queuelengthFb - 1) :
    ∃ last, run fbStep fb (List.replicate (queuelengthFb - 1 - fb.resetQueue.length)
        (.updateFB now port 0)) = some last ∧
      updateFB last now port 0 = none := by
  rcases run_replicate_open inside closed delayed (queuelengthFb - 1 - fb.resetQueue.length)
    (by omega) with ⟨last, executed, length, number, time, still⟩
  refine ⟨last, executed, ?_⟩
  have full : last.queueIsFull = true := by
    rw [Fb.queueIsFull, decide_eq_true_iff]
    omega
  have fullThen : (last.setState (portT port)
      { last.fbstate (portT port) with change := -1 }).queueIsFull = true := full
  rw [← number] at inside
  rw [← time] at delayed
  simp only [updateFB, inside, if_false, still, not_false_eq_true, if_true, delayed, ne_eq,
    queueResetFB, fullThen, Option.map_none]

end Srcpd.Feedback
