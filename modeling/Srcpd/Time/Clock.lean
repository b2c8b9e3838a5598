import Srcpd.Command.Gl

/-!
# The model clock

The clock thread reads the model time into a copy, advances the copy by one
second and writes it back.  Reading and writing are separate critical sections,
and so is the write of a `SET TIME`, which can fall between the two.

What a client may expect of an accepted `SET TIME` is stated over a record of
the run: the time that was set and the number of ticks since.  The clock shows
that time advanced by that number of seconds precisely as long as no tick writes
back a copy that is older than the time set, or counts the days over the end of an `int`.
-/

namespace Srcpd.Time

open Srcpd.Command Srcpd.Transition

/-! ## Model time -/

/-- `vtime_t`. -/
structure Vtime where
  day : Int
  hour : Int
  min : Int
  sec : Int
  deriving DecidableEq, Repr

/-- The range check of `setTIME`. -/
def Vtime.Valid (vt : Vtime) : Prop :=
  ¬ (vt.day < 0 ∨ vt.hour < 0 ∨ vt.hour > 23 ∨ vt.min < 0 ∨ vt.min > 59 ∨ vt.sec < 0 ∨
    vt.sec > 59)

instance (vt : Vtime) : Decidable vt.Valid :=
  inferInstanceAs (Decidable (¬ _))

/-- `vt.sec++` and its carry; the flag is `sendinfo`. -/
def carrySec (vt : Vtime) : Vtime × Bool :=
  if vt.sec + 1 ≥ 60 then ({ vt with sec := 0, min := vt.min + 1 }, true)
  else ({ vt with sec := vt.sec + 1 }, false)

/-- Sixty minutes are an hour. -/
def carryMin (vt : Vtime) : Vtime :=
  if vt.min ≥ 60 then { vt with hour := vt.hour + 1, min := 0 } else vt

/-- Twenty-four hours are a day. -/
def carryHour (vt : Vtime) : Vtime :=
  if vt.hour ≥ 24 then { vt with day := vt.day + 1, hour := 0 } else vt

/-- The next second. -/
def tick (vt : Vtime) : Vtime :=
  carryHour (carryMin (carrySec vt).1)

/-- The increment of the copy in `thr_clock`, with the day as an `int`; the other numbers of
a valid time stay small. -/
def tickInt (vt : Vtime) : Vtime :=
  { tick vt with day := int32 (tick vt).day }

/-- Last second that the clock can show. -/
def lastSecond : Vtime :=
  ⟨2147483647, 23, 59, 59⟩

/-- The day of the next second is an `int`. -/
def Vtime.HasNext (vt : Vtime) : Prop :=
  int32 (tick vt).day = (tick vt).day

instance (vt : Vtime) : Decidable vt.HasNext :=
  inferInstanceAs (Decidable (_ = _))

theorem tickInt_eq_tick_iff {vt : Vtime} : tickInt vt = tick vt ↔ vt.HasNext := by
  rw [tickInt, Vtime.HasNext]
  constructor
  · intro same
    exact congrArg Vtime.day same
  · intro same
    rw [same]

/-- The time some seconds later. -/
def Vtime.later (vt : Vtime) (seconds : Nat) : Vtime :=
  let total := (vt.hour * 60 + vt.min) * 60 + vt.sec + seconds
  { day := vt.day + total / 60 / 60 / 24
    hour := total / 60 / 60 % 24
    min := total / 60 % 60
    sec := total % 60 }

theorem Vtime.later_zero {vt : Vtime} (valid : vt.Valid) : vt.later 0 = vt := by
  rcases vt with ⟨day, hour, min, sec⟩
  simp only [Valid, not_or, not_lt] at valid
  simp only [later, Vtime.mk.injEq]
  omega

/-- A digit that is full carries into the next. -/
theorem digit_full {count base : Int} (positive : 0 < base) (full : count % base + 1 ≥ base) :
    (count + 1) % base = 0 ∧ (count + 1) / base = count / base + 1 := by
  have below := Int.emod_lt_of_pos count positive
  have split := Int.emod_add_mul_ediv count base
  have whole : count + 1 = base * (count / base + 1) := by
    rw [mul_add]
    omega
  rw [whole]
  exact ⟨Int.mul_emod_right _ _, Int.mul_ediv_cancel_left _ (ne_of_gt positive)⟩

/-- A digit with room does not. -/
theorem digit_room {count base : Int} (positive : 0 < base) (room : ¬ count % base + 1 ≥ base) :
    (count + 1) % base = count % base + 1 ∧ (count + 1) / base = count / base := by
  have least := Int.emod_nonneg count (ne_of_gt positive)
  have split := Int.emod_add_mul_ediv count base
  have digits : count + 1 = count % base + 1 + base * (count / base) := by omega
  rw [digits, Int.add_mul_emod_self_left, Int.add_mul_ediv_left _ _ (ne_of_gt positive),
    Int.emod_eq_of_lt (by omega) (by omega), Int.ediv_eq_zero_of_lt (by omega) (by omega), zero_add]
  exact ⟨rfl, rfl⟩

/-- One tick is one second. -/
theorem tick_later (vt : Vtime) (seconds : Nat) :
    tick (vt.later seconds) = vt.later (seconds + 1) := by
  rcases vt with ⟨day, hour, min, sec⟩
  simp only [tick, Vtime.later, Nat.cast_add, Nat.cast_one, ← add_assoc]
  generalize (hour * 60 + min) * 60 + sec + (seconds : Int) = total
  have hourBelow : total / 60 / 60 % 24 < 24 := Int.emod_lt_of_pos _ (by decide)
  have minBelow : total / 60 % 60 < 60 := Int.emod_lt_of_pos _ (by decide)
  by_cases minute : total % 60 + 1 ≥ 60
  · rw [(digit_full (by decide) minute).1, (digit_full (by decide) minute).2]
    by_cases full : total / 60 % 60 + 1 ≥ 60
    · rw [(digit_full (by decide) full).1, (digit_full (by decide) full).2]
      by_cases midnight : total / 60 / 60 % 24 + 1 ≥ 24
      · rw [(digit_full (by decide) midnight).1, (digit_full (by decide) midnight).2]
        simp [carrySec, carryMin, carryHour, minute, full, midnight, add_assoc]
      · rw [(digit_room (by decide) midnight).1, (digit_room (by decide) midnight).2]
        simp [carrySec, carryMin, carryHour, minute, full, midnight]
    · rw [(digit_room (by decide) full).1, (digit_room (by decide) full).2]
      simp [carrySec, carryMin, carryHour, minute, full, not_le.mpr hourBelow]
  · rw [(digit_room (by decide) minute).1, (digit_room (by decide) minute).2]
    simp [carrySec, carryMin, carryHour, minute, not_le.mpr hourBelow, not_le.mpr minBelow]

/-! ## The parties -/

/-- `time_distort_t`, without the time of its last setting. -/
structure Distort where
  ratioX : Int
  ratioY : Int
  deriving DecidableEq, Repr

/-- The clock thread: before its first statement, at the head of its loop, asleep
for one tick, with the copy of the time, and behind the write. -/
inductive ClockThread
  | created
  | waiting
  | sleeping
  | copied (vt : Vtime)
  | written
  deriving DecidableEq, Repr

/-- The clock with its ratio and its thread. -/
structure ClockState where
  vtime : Vtime
  distort : Distort
  thread : ClockThread
  deriving DecidableEq, Repr

/-- What the client sessions and the clock thread do, one critical section each. -/
inductive ClockAction
  | setTIME (d h m s : Int)
  | initTIME (fx fy : Int)
  | termTIME
  | start
  | leaveWait
  | read
  | write
  | informed

/-- `setTIME`. -/
def setTIME (state : ClockState) (d h m s : Int) : ClockState :=
  if d < 0 ∨ h < 0 ∨ h > 23 ∨ m < 0 ∨ m > 59 ∨ s < 0 ∨ s > 59 then state
  else { state with vtime := ⟨d, h, m, s⟩ }

/-- `initTIME`. -/
def initTIME (state : ClockState) (fx fy : Int) : ClockState :=
  if fx < 0 ∨ fy ≤ 0 then state else { state with distort := ⟨fx, fy⟩ }

/-- `termTIME`: a ratio of 0 ends the thread. -/
def termTIME (state : ClockState) : ClockState :=
  { state with distort := ⟨0, 0⟩ }

/-- The sessions and `thr_clock`, step by step. -/
def clockStep : Step ClockState ClockAction
  | state, .setTIME d h m s => some (setTIME state d h m s)
  | state, .initTIME fx fy => some (initTIME state fx fy)
  | state, .termTIME => some (termTIME state)
  | state, .start =>
      if state.thread = .created then
        some { state with distort := ⟨0, 0⟩, thread := .waiting }
      else none
  | state, .leaveWait =>
      -- the loop around `pthread_cond_wait` ends only with a running clock
      if state.thread = .waiting ∧ ¬ (state.distort.ratioX = 0 ∨ state.distort.ratioY = 0) then
        some { state with thread := .sleeping }
      else none
  | state, .read =>
      if state.thread = .sleeping then some { state with thread := .copied state.vtime } else none
  | state, .write =>
      match state.thread with
      | .copied vt => some { state with vtime := tickInt vt, thread := .written }
      | _ => none
  | state, .informed =>
      if state.thread = .written then some { state with thread := .waiting } else none

/-! ## The record of a run -/

/-- The time of the last accepted `SET TIME`, the ticks written since whose
increment started behind it, and whether the last increment did. -/
structure Record where
  accepted : Option Vtime
  ticks : Nat
  fresh : Bool
  deriving DecidableEq, Repr

/-- What was set last, and the ticks since then. -/
def Record.note (record : Record) : ClockAction → Record
  | .setTIME d h m s =>
      if (⟨d, h, m, s⟩ : Vtime).Valid then ⟨some ⟨d, h, m, s⟩, 0, false⟩ else record
  | .read => { record with fresh := true }
  | .write => if record.fresh then { record with ticks := record.ticks + 1 } else record
  | _ => record

/-- The clock with the record of its run. -/
def watchedStep : Step (ClockState × Record) ClockAction := fun watched action =>
  (clockStep watched.1 action).map fun next => (next, watched.2.note action)

/-- The server starts with the clock at zero and stopped. -/
def started : ClockState × Record :=
  (⟨⟨0, 0, 0, 0⟩, ⟨0, 0⟩, .created⟩, ⟨none, 0, false⟩)

/-- The clock shows the time set, advanced by the ticks since. -/
def ShowsSet (watched : ClockState × Record) : Prop :=
  ∀ vt, watched.2.accepted = some vt → watched.1.vtime = vt.later watched.2.ticks

instance (watched : ClockState × Record) : Decidable (ShowsSet watched) :=
  match accepted : watched.2.accepted with
  | none => isTrue fun _ some => by simp [accepted] at some
  | some vt =>
      decidable_of_iff (watched.1.vtime = vt.later watched.2.ticks)
        ⟨fun shown _ same => by rw [accepted] at same; cases same; exact shown,
          fun shows => shows vt accepted⟩

/-- Behind a `SET TIME` no copy older than the time set is written back, unless it happens
to be this time one second early, and no other copy is the last second of an `int` day. -/
def WritesNothingStale (watched : ClockState × Record) : ClockAction → Prop
  | .write => ∀ vt copy, watched.2.accepted = some vt → watched.1.thread = .copied copy →
      if watched.2.fresh then copy.HasNext else tickInt copy = vt
  | _ => True

/-! ## The copy of the clock thread -/

/-- What the record says about the clock: a fresh copy is the time shown, and a
stale one has been overtaken by a `SET TIME` of which no tick is shown yet. -/
structure Consistent (watched : ClockState × Record) : Prop where
  shows : ShowsSet watched
  valid : ∀ vt, watched.2.accepted = some vt → vt.Valid
  fresh : ∀ copy, watched.1.thread = .copied copy → watched.2.fresh = true →
    copy = watched.1.vtime
  stale : ∀ copy, watched.1.thread = .copied copy → watched.2.fresh = false →
    ∃ vt, watched.2.accepted = some vt ∧ watched.2.ticks = 0

theorem consistent_started : Consistent started where
  shows := by
    intro vt accepted
    cases accepted
  valid := by
    intro vt accepted
    cases accepted
  fresh := by
    intro copy held
    cases held
  stale := by
    intro copy held
    cases held

/-- An action that leaves the time, the copy and the record alone. -/
theorem Consistent.of_same {watched : ClockState × Record} (consistent : Consistent watched)
    {next : ClockState} (time : next.vtime = watched.1.vtime)
    (held : ∀ copy, next.thread = .copied copy → watched.1.thread = .copied copy) :
    Consistent (next, watched.2) where
  shows := by
    intro vt accepted
    rw [time]
    exact consistent.shows vt accepted
  valid := consistent.valid
  fresh := by
    intro copy copied fresh
    rw [time]
    exact consistent.fresh copy (held copy copied) fresh
  stale := fun copy copied => consistent.stale copy (held copy copied)

/-- The range check decides about the state and about the record alike. -/
theorem setTIME_cases (state : ClockState) (record : Record) (d h m s : Int) :
    ((⟨d, h, m, s⟩ : Vtime).Valid ∧ setTIME state d h m s = { state with vtime := ⟨d, h, m, s⟩ } ∧
        record.note (.setTIME d h m s) = ⟨some ⟨d, h, m, s⟩, 0, false⟩) ∨
      (setTIME state d h m s = state ∧ record.note (.setTIME d h m s) = record) := by
  by_cases valid : (⟨d, h, m, s⟩ : Vtime).Valid
  · exact .inl ⟨valid, if_neg valid, if_pos valid⟩
  · exact .inr ⟨if_pos (not_not.mp valid), if_neg valid⟩

theorem Consistent.setTIME {watched : ClockState × Record} (consistent : Consistent watched)
    (d h m s : Int) :
    Consistent (Time.setTIME watched.1 d h m s, watched.2.note (.setTIME d h m s)) := by
  rcases setTIME_cases watched.1 watched.2 d h m s with ⟨valid, set, noted⟩ | ⟨set, noted⟩
  · rw [set, noted]
    constructor
    · intro vt accepted
      cases accepted
      exact (Vtime.later_zero valid).symm
    · intro vt accepted
      cases accepted
      exact valid
    · intro copy _ fresh
      cases fresh
    · intro copy _ _
      exact ⟨_, rfl, rfl⟩
  · rw [set, noted]
    exact consistent

theorem Consistent.read {watched : ClockState × Record} (consistent : Consistent watched) :
    Consistent ({ watched.1 with thread := .copied watched.1.vtime },
      watched.2.note .read) where
  shows := consistent.shows
  valid := consistent.valid
  fresh := by
    intro copy copied _
    cases copied
    rfl
  stale := by
    intro copy _ stale
    cases stale

theorem Consistent.write {watched : ClockState × Record} (consistent : Consistent watched)
    {copy : Vtime} (copied : watched.1.thread = .copied copy)
    (current : WritesNothingStale watched .write) :
    Consistent ({ watched.1 with vtime := tickInt copy, thread := .written },
      watched.2.note .write) := by
  constructor
  · intro vt accepted
    cases freshness : watched.2.fresh with
    | true =>
        simp only [Record.note, freshness, if_true] at accepted ⊢
        have fits := current vt copy accepted copied
        rw [if_pos freshness] at fits
        rw [tickInt_eq_tick_iff.mpr fits, consistent.fresh copy copied freshness,
          consistent.shows vt accepted]
        exact tick_later vt watched.2.ticks
    | false =>
        simp only [Record.note, freshness, Bool.false_eq_true, if_false] at accepted ⊢
        rcases consistent.stale copy copied freshness with ⟨_, _, none⟩
        have coincides := current vt copy accepted copied
        rw [if_neg (Bool.eq_false_iff.mp freshness)] at coincides
        rw [none, coincides]
        exact (Vtime.later_zero (consistent.valid vt accepted)).symm
  · intro vt accepted
    cases freshness : watched.2.fresh with
    | true =>
        simp only [Record.note, freshness, if_true] at accepted
        exact consistent.valid vt accepted
    | false =>
        simp only [Record.note, freshness, Bool.false_eq_true, if_false] at accepted
        exact consistent.valid vt accepted
  · intro other held
    cases held
  · intro other held
    cases held

/-- What a step of the watched clock is. -/
theorem watchedStep_eq_some_iff {watched next : ClockState × Record} {action : ClockAction} :
    watchedStep watched action = some next ↔
      clockStep watched.1 action = some next.1 ∧ next.2 = watched.2.note action := by
  rcases next with ⟨state, record⟩
  simp only [watchedStep, Option.map_eq_some_iff, Prod.mk.injEq]
  constructor
  · rintro ⟨_, taken, rfl, noted⟩
    exact ⟨taken, noted.symm⟩
  · rintro ⟨taken, noted⟩
    exact ⟨_, taken, rfl, noted.symm⟩

/-- A step of the clock thread that writes a copy back. -/
theorem clockStep_write {state next : ClockState} (taken : clockStep state .write = some next) :
    ∃ copy, state.thread = .copied copy ∧
      next = { state with vtime := tickInt copy, thread := .written } := by
  simp only [clockStep] at taken
  split at taken
  · rename_i copy copied
    cases taken
    exact ⟨copy, copied, rfl⟩
  · cases taken

theorem Consistent.step {watched next : ClockState × Record} {action : ClockAction}
    (consistent : Consistent watched) (current : WritesNothingStale watched action)
    (executed : watchedStep watched action = some next) : Consistent next := by
  rcases next with ⟨state, record⟩
  rcases watchedStep_eq_some_iff.mp executed with ⟨taken, noted⟩
  simp only at taken noted
  subst noted
  cases action with
  | setTIME d h m s =>
      cases taken
      exact consistent.setTIME d h m s
  | initTIME fx fy =>
      cases taken
      apply consistent.of_same
      · unfold initTIME
        split <;> rfl
      · intro copy held
        unfold initTIME at held
        split at held <;> exact held
  | termTIME =>
      cases taken
      exact consistent.of_same rfl fun _ held => held
  | start =>
      simp only [clockStep, Option.ite_none_right_eq_some, Option.some.injEq] at taken
      rcases taken with ⟨_, rfl⟩
      exact consistent.of_same rfl fun _ held => by cases held
  | leaveWait =>
      simp only [clockStep, Option.ite_none_right_eq_some, Option.some.injEq] at taken
      rcases taken with ⟨_, rfl⟩
      exact consistent.of_same rfl fun _ held => by cases held
  | read =>
      simp only [clockStep, Option.ite_none_right_eq_some, Option.some.injEq] at taken
      rcases taken with ⟨_, rfl⟩
      exact consistent.read
  | write =>
      rcases clockStep_write taken with ⟨copy, copied, rfl⟩
      exact consistent.write copied current
  | informed =>
      simp only [clockStep, Option.ite_none_right_eq_some, Option.some.injEq] at taken
      rcases taken with ⟨_, rfl⟩
      exact consistent.of_same rfl fun _ held => by cases held

/-- A stale copy that is written back replaces the time set, and behind the last second
comes no later one. -/
theorem Consistent.broken {watched next : ClockState × Record} {action : ClockAction}
    (consistent : Consistent watched) (violated : ¬ WritesNothingStale watched action)
    (executed : watchedStep watched action = some next) : ¬ ShowsSet next := by
  cases action with
  | write =>
      rw [WritesNothingStale] at violated
      push Not at violated
      rcases violated with ⟨vt, copy, accepted, copied, differs⟩
      rcases next with ⟨state, record⟩
      rcases watchedStep_eq_some_iff.mp executed with ⟨taken, noted⟩
      rcases clockStep_write taken with ⟨held, copied', written⟩
      rw [copied] at copied'
      cases copied'
      dsimp only at written noted
      subst written noted
      intro shows
      cases freshness : watched.2.fresh with
      | true =>
          rw [if_pos freshness] at differs
          have shown := shows vt (by simpa [Record.note, freshness] using accepted)
          apply differs
          rw [← tickInt_eq_tick_iff, consistent.fresh copy copied freshness,
            consistent.shows vt accepted, tick_later]
          rw [consistent.fresh copy copied freshness, consistent.shows vt accepted] at shown
          simpa [Record.note, freshness] using shown
      | false =>
          rw [if_neg (Bool.eq_false_iff.mp freshness)] at differs
          rcases consistent.stale copy copied freshness with ⟨_, _, none⟩
          have shown := shows vt (by simpa [Record.note, freshness] using accepted)
          apply differs
          simpa [Record.note, freshness, none, Vtime.later_zero (consistent.valid vt accepted)]
            using shown
  | setTIME d h m s => exact absurd trivial violated
  | initTIME fx fy => exact absurd trivial violated
  | termTIME => exact absurd trivial violated
  | start => exact absurd trivial violated
  | leaveWait => exact absurd trivial violated
  | read => exact absurd trivial violated
  | informed => exact absurd trivial violated

/-- In every interleaving of the sessions with the clock thread, the clock shows
the last accepted `SET TIME` plus the ticks that started behind it precisely
when no write of the thread is stale or comes behind the last second. -/
theorem showsSet_iff_writesNothingStale (actions : List ClockAction) :
    HoldsAlong watchedStep ShowsSet started actions ↔
      MeetsAlong watchedStep WritesNothingStale started actions := by
  refine holdsAlong_iff_meetsAlong (fun _ consistent => Consistent.shows consistent) ?_ ?_
    consistent_started
  · intro watched action next consistent current executed
    exact consistent.step current executed
  · intro watched action next consistent violated executed
    exact consistent.broken violated executed

/-- A `SET TIME` to 8:00 on day 1 while the thread has its copy of 0:00 on day 0. -/
theorem setTIME_overwritten :
    ∃ last, run watchedStep started
        [.start, .initTIME 1 1, .leaveWait, .read, .setTIME 1 8 0 0, .write] = some last ∧
      last.2 = ⟨some ⟨1, 8, 0, 0⟩, 0, false⟩ ∧ last.1.vtime = ⟨0, 0, 0, 1⟩ ∧ ¬ ShowsSet last := by
  refine ⟨_, rfl, ?_, ?_, ?_⟩ <;> decide

end Srcpd.Time
