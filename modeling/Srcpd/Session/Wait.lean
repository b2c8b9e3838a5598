import Srcpd.Session.Commands

/-!
# WAIT

A `WAIT` looks at the server again and again.  For a contact it stops looking behind
the timeout; for a time it does not stop, and whether the clock still runs is not
tested again.
-/

namespace Srcpd.CmdClient

open Srcpd.Command Srcpd.Handlers Srcpd.Info Srcpd.Time

/-- The server at every poll of a waiting command; the number of contacts is set at
the start of the server. -/
structure Course where
  site : Nat → Site
  ports : ∀ poll bus, ((site poll).server.tables.fb bus).numberOfFb =
    ((site 0).server.tables.fb bus).numberOfFb

/-- The value behind a look at a contact. -/
def polled (site : Site) (bus : Nat) (port value : Int) : Int :=
  (getFB (site.server.tables.fb bus) port (0, value)).2

/-- The poll at which the contact has the value; `none` behind the last one. -/
def waitFB (course : Course) (bus : Nat) (port waitvalue : Int) : Nat → Nat → Int → Option Nat
  | 0, _, _ => none
  | left + 1, poll, value =>
      let value := polled (course.site poll) bus port value
      if value = waitvalue then some poll
      else waitFB course bus port waitvalue left (poll + 1) value

/-- Twenty polls a second; the loop counts down in a `long` before it looks at it. -/
def waitPolls (timeout : Int) : Nat :=
  ((timeout * 20 - 1).bmod (2 ^ 64) + 1).toNat

/-- `WAIT FB`: the contact is looked at once, and then until the time is over. -/
def handleWaitFB (sur : Surroundings) (course : Course) (bus : Nat) (parameter : List Char) :
    List Char :=
  let now := sur.env.now
  match scanLongs 3 parameter with
  | [port, waitvalue, timeout] =>
      let start := course.site 0
      let value := polled start bus (int32 port) sur.value
      let valid := 0 < int32 port ∧ int32 port ≤ (start.server.tables.fb bus).numberOfFb
      if valid ∧ value = int32 waitvalue then
        infoFB bus (start.server.tables.fb bus) (int32 port)
      else
        match waitFB course bus (int32 port) (int32 waitvalue) (waitPolls timeout) 1 value with
        | some poll => infoFB bus ((course.site poll).server.tables.fb bus) (int32 port)
        | none => srcpFmtMsg 417 now
  | _ => srcpFmtMsg 419 now

/-- A model time in seconds. -/
def seconds (d h m s : Int) : Int :=
  ((d * 24 + h) * 60 + m) * 60 + s

/-- A sum or product as a C `long`. -/
def long (value : Int) : Int :=
  value.bmod (2 ^ 64)

/-- The model time at a poll, in seconds. -/
def Course.seconds (course : Course) (poll : Nat) : Int :=
  let vt := (course.site poll).server.tables.clock.vtime
  CmdClient.seconds vt.day vt.hour vt.min vt.sec

/-- The seconds of the request are a `long`, those of the clock an `int`. -/
def mustwait (course : Course) (target : Int) (poll : Nat) : Prop :=
  long target ≥ int32 (course.seconds poll)

instance (course : Course) (target : Int) (poll : Nat) :
    Decidable (mustwait course target poll) :=
  inferInstanceAs (Decidable (_ ≥ _))

/-- The poll at which the time has passed; `none` when there are no polls left to
look at. -/
def waitTIME (course : Course) (target : Int) : Nat → Nat → Option Nat
  | 0, _ => none
  | fuel + 1, poll =>
      if mustwait course target poll then waitTIME course target fuel (poll + 1) else some poll

/-- `WAIT TIME`, with the number of polls to look at. -/
def handleWaitTIME (fuel : Nat) (sur : Surroundings) (course : Course) (parameter : List Char) :
    Option (List Char) :=
  let now := sur.env.now
  match scanLongs 4 parameter with
  | [d, h, m, s] =>
      if timeIsAvailable (course.site 0).server.tables.clock then
        (waitTIME course (seconds d h m s) fuel 0).map fun poll =>
          infoTIME (course.site poll).server.tables.clock now
      else some (srcpFmtMsg 416 now)
  | _ => some (srcpFmtMsg 419 now)

/-- For other groups nothing is written to the reply. -/
def handleWAIT (fuel : Nat) (sur : Surroundings) (course : Course) (bus : Nat)
    (device parameter : List Char) : Option (List Char) :=
  match (course.site 0).groupOf bus device with
  | some .fb => some (handleWaitFB sur course bus parameter)
  | some .time => handleWaitTIME fuel sur course parameter
  | _ => some []

section Wait

variable {sur : Surroundings} {course : Course} {bus : Nat} {device parameter : List Char}

/-- A `WAIT` for a contact is always answered. -/
theorem reply_handleWaitFB : Reply (handleWaitFB sur course bus parameter) := by
  unfold handleWaitFB
  dsimp only
  split
  · split
    · exact reply_infoFB
    · split
      · exact reply_infoFB
      · exact reply_srcpFmtMsg
  · exact reply_srcpFmtMsg

/-- The poll that is answered: the first one at which the time has passed. -/
theorem waitTIME_eq_some_iff {target : Int} :
    ∀ fuel first poll, waitTIME course target fuel first = some poll ↔
      first ≤ poll ∧ poll < first + fuel ∧ ¬ mustwait course target poll ∧
        ∀ earlier, first ≤ earlier → earlier < poll → mustwait course target earlier := by
  intro fuel
  induction fuel with
  | zero =>
      intro first poll
      rw [waitTIME]
      constructor
      · intro found
        cases found
      · rintro ⟨after, before, -, -⟩
        omega
  | succ fuel ih =>
      intro first poll
      rw [waitTIME]
      by_cases waits : mustwait course target first
      · rw [if_pos waits, ih]
        constructor
        · rintro ⟨after, before, passed, earlier⟩
          refine ⟨by omega, by omega, passed, ?_⟩
          intro index low high
          rcases Nat.eq_or_lt_of_le low with rfl | low
          · exact waits
          · exact earlier index low high
        · rintro ⟨after, before, passed, earlier⟩
          have later : first ≠ poll := by
            rintro rfl
            exact passed waits
          refine ⟨by omega, by omega, passed, ?_⟩
          intro index low high
          exact earlier index (by omega) high
      · rw [if_neg waits]
        constructor
        · intro found
          cases found
          exact ⟨Nat.le_refl _, by omega, waits, fun index low high => by omega⟩
        · rintro ⟨after, before, passed, earlier⟩
          rcases Nat.eq_or_lt_of_le after with rfl | after
          · rfl
          · exact absurd (earlier first (Nat.le_refl _) after) waits

/-- The time that is waited for passes, and the clock still runs then. -/
def TimePasses (course : Course) (target : Int) : Prop :=
  ∃ poll, (∀ earlier, earlier < poll → mustwait course target earlier) ∧
    ¬ mustwait course target poll ∧
    timeIsAvailable (course.site poll).server.tables.clock = true

theorem reply_handleWaitTIME_iff :
    (∃ fuel text, handleWaitTIME fuel sur course parameter = some text ∧ Reply text) ↔
      ∀ d h m s, scanLongs 4 parameter = [d, h, m, s] →
        timeIsAvailable (course.site 0).server.tables.clock = true →
          TimePasses course (seconds d h m s) := by
  unfold handleWaitTIME
  dsimp only
  split
  · rename_i d h m s scanned
    have one : (∀ d' h' m' s', scanLongs 4 parameter = [d', h', m', s'] →
        timeIsAvailable (course.site 0).server.tables.clock = true →
          TimePasses course (seconds d' h' m' s')) ↔
        (timeIsAvailable (course.site 0).server.tables.clock = true →
          TimePasses course (seconds d h m s)) := by
      constructor
      · intro all
        exact all d h m s scanned
      · intro one d' h' m' s' scanned'
        rw [scanned] at scanned'
        cases scanned'
        exact one
    rw [one]
    by_cases available : timeIsAvailable (course.site 0).server.tables.clock = true
    · simp only [if_pos available]
      constructor
      · rintro ⟨fuel, text, found, reply⟩ _
        rw [Option.map_eq_some_iff] at found
        rcases found with ⟨poll, found, rfl⟩
        rcases (waitTIME_eq_some_iff fuel 0 poll).mp found with ⟨-, -, passed, earlier⟩
        exact ⟨poll, fun index => earlier index (Nat.zero_le _), passed,
          reply_infoTIME_iff.mp reply⟩
      · intro passes
        rcases passes available with ⟨poll, earlier, passed, runs⟩
        have found : waitTIME course (seconds d h m s) (poll + 1) 0 = some poll :=
          (waitTIME_eq_some_iff (poll + 1) 0 poll).mpr
            ⟨Nat.zero_le _, by omega, passed, fun index _ => earlier index⟩
        refine ⟨poll + 1, infoTIME (course.site poll).server.tables.clock sur.env.now, ?_,
          reply_infoTIME_iff.mpr runs⟩
        rw [found, Option.map_some]
    · simp only [if_neg available]
      exact iff_of_true ⟨0, answered_code⟩ fun runs => absurd runs available
  · rename_i short
    refine iff_of_true ⟨0, answered_code⟩ ?_
    intro d h m s scanned
    exact absurd scanned (short d h m s)

/-- A `WAIT` that comes to an end with a reply. -/
structure WaitAnswers (sur : Surroundings) (course : Course) (bus : Nat)
    (device parameter : List Char) : Prop where
  group : (course.site 0).groupOf bus device = some .fb ∨
    (course.site 0).groupOf bus device = some .time
  time : (course.site 0).groupOf bus device = some .time →
    ∀ d h m s, scanLongs 4 parameter = [d, h, m, s] →
      timeIsAvailable (course.site 0).server.tables.clock = true →
        TimePasses course (seconds d h m s)

theorem reply_handleWAIT_iff :
    (∃ fuel text, handleWAIT fuel sur course bus device parameter = some text ∧ Reply text) ↔
      WaitAnswers sur course bus device parameter := by
  unfold handleWAIT
  by_cases fb : (course.site 0).groupOf bus device = some .fb
  · simp only [fb]
    constructor
    · rintro ⟨fuel, text, same, reply⟩
      cases same
      exact ⟨Or.inl fb, fun other => by rw [fb] at other; cases other⟩
    · intro answers
      exact ⟨0, _, rfl, reply_handleWaitFB⟩
  · by_cases time : (course.site 0).groupOf bus device = some .time
    · simp only [time]
      rw [reply_handleWaitTIME_iff]
      exact ⟨fun passes => ⟨Or.inr time, fun _ => passes⟩,
        fun answers => answers.time time⟩
    · refine iff_of_false ?_ ?_
      · rintro ⟨fuel, text, same, reply⟩
        split at same
        · rename_i fb'
          exact fb fb'
        · rename_i time'
          exact time time'
        · cases same
          exact not_reply_nil reply
      · intro answers
        exact answers.group.elim fb time

end Wait

end Srcpd.CmdClient
