import Srcpd.Session.CmdClient

/-!
# The polls of a WAIT

What a waiting command sees and what it makes of it.  The loop for a contact counts
down behind its last poll and takes the countdown for the answer, so that the value
of the last poll is lost; the loop for a time waits while the time is exactly the
one that is waited for, and compares a `long` with an `int`.  `waitsRight_iff` says for
which courses of the contact and the clock nothing depends on that.
-/

namespace Srcpd.CmdClient

open Srcpd.Command Srcpd.Handlers Srcpd.Info Srcpd.Time

/-- The second word of a reply. -/
def replyCode (text : List Char) : List Char :=
  ((text.dropWhile fun symbol => symbol != ' ').drop 1).takeWhile fun symbol => symbol != ' '

/-- The code of a timeout. -/
def timeoutCode : List Char := ['4', '1', '7']

/-- The state of a contact at a poll. -/
def valueAt (course : Course) (bus : Nat) (port : Int) (poll : Nat) : Int :=
  (((course.site poll).server.tables.fb bus).fbstate (Feedback.portT port)).state

/-- The values of the loop with this countdown: it ends with the awaited value, and
behind the poll at which the countdown is over. -/
def polledFB (course : Course) (bus : Nat) (port waitvalue : Int) : Nat → Nat → List Int
  | 0, poll => [valueAt course bus port poll]
  | left + 1, poll =>
      valueAt course bus port poll ::
        if valueAt course bus port poll = waitvalue then []
        else polledFB course bus port waitvalue left (poll + 1)

/-- The bus has such a contact. -/
def IsPort (course : Course) (bus : Nat) (port : Int) : Prop :=
  0 < port ∧ port ≤ ((course.site 0).server.tables.fb bus).numberOfFb

instance (course : Course) (bus : Nat) (port : Int) : Decidable (IsPort course bus port) :=
  inferInstanceAs (Decidable (_ ∧ _))

/-- All values a `WAIT FB` sees, the first one included; a contact that does not exist
has none. -/
def allPolled (course : Course) (bus : Nat) (port waitvalue timeout : Int) : List Int :=
  if IsPort course bus port then
    valueAt course bus port 0 ::
      if valueAt course bus port 0 = waitvalue then []
      else polledFB course bus port waitvalue (waitPolls timeout) 1
  else []

/-- The timeout exactly when the awaited value was not seen, and otherwise the state
at the poll that saw it. -/
structure FbRight (course : Course) (bus : Nat) (port waitvalue timeout : Int)
    (reply : List Char) : Prop where
  code : replyCode reply = timeoutCode ↔
    waitvalue ∉ allPolled course bus port waitvalue timeout
  state : waitvalue ∈ allPolled course bus port waitvalue timeout →
    reply = infoFB bus ((course.site ((allPolled course bus port waitvalue timeout).length - 1)
      ).server.tables.fb bus) port

/-- The model time has reached or passed the target. -/
def Reached (course : Course) (target : Int) (poll : Nat) : Prop :=
  target ≤ course.seconds poll

/-- The first poll at which the model time has reached or passed the target. -/
def FirstReached (course : Course) (target : Int) (poll : Nat) : Prop :=
  Reached course target poll ∧ ∀ earlier < poll, ¬ Reached course target earlier

/-- The command returns at this poll. -/
def ReturnsAt (sur : Surroundings) (course : Course) (bus : Nat) (device parameter : List Char)
    (target : Int) (poll : Nat) : Prop :=
  ∃ fuel, waitTIME course target fuel 0 = some poll ∧
    handleWAIT fuel sur course bus device parameter =
      some (infoTIME (course.site poll).server.tables.clock sur.env.now)

/-- What a `WAIT` is for: the timeout exactly when no polled value is the awaited one, and
the end at the first poll that has reached the time. -/
structure WaitsRight (sur : Surroundings) (course : Course) (bus : Nat)
    (device parameter : List Char) : Prop where
  fb : (course.site 0).groupOf bus device = some .fb →
    ∀ port waitvalue timeout, scanLongs 3 parameter = [port, waitvalue, timeout] →
      ∀ fuel, ∀ reply ∈ handleWAIT fuel sur course bus device parameter,
        FbRight course bus (int32 port) (int32 waitvalue) timeout reply
  time : (course.site 0).groupOf bus device = some .time →
    ∀ d h m s, scanLongs 4 parameter = [d, h, m, s] →
      timeIsAvailable (course.site 0).server.tables.clock = true →
        ∀ poll, ReturnsAt sur course bus device parameter (seconds d h m s) poll ↔
          FirstReached course (seconds d h m s) poll

/-- Nothing but the last poll sees the awaited value; or a contact that does not
exist is compared with what happens to be there. -/
def FbMisses (sur : Surroundings) (course : Course) (bus : Nat)
    (port waitvalue timeout : Int) : Prop :=
  if IsPort course bus port then
    valueAt course bus port (waitPolls timeout + 1) = waitvalue ∧
      ∀ poll ≤ waitPolls timeout, valueAt course bus port poll ≠ waitvalue
  else sur.value = waitvalue ∧ waitPolls timeout ≠ 0

/-- Up to the first poll that has reached the target, the target as a `long` is less than the
time as an `int` exactly where it has been reached. -/
def ComparesRight (course : Course) (target : Int) : Prop :=
  ∀ poll, (∀ earlier < poll, ¬ Reached course target earlier) →
    (Reached course target poll ↔ long target < int32 (course.seconds poll))

/-- Neither the last poll nor what happens to be in a variable decides, and no comparison
of times goes wrong. -/
structure Undisturbed (sur : Surroundings) (course : Course) (bus : Nat)
    (device parameter : List Char) : Prop where
  fb : (course.site 0).groupOf bus device = some .fb →
    ∀ port waitvalue timeout, scanLongs 3 parameter = [port, waitvalue, timeout] →
      ¬ FbMisses sur course bus (int32 port) (int32 waitvalue) timeout
  time : (course.site 0).groupOf bus device = some .time →
    ∀ d h m s, scanLongs 4 parameter = [d, h, m, s] →
      timeIsAvailable (course.site 0).server.tables.clock = true →
        ComparesRight course (seconds d h m s)

/-! ## Codes -/

theorem blank_not_mem_toDigits {number : Nat} : ' ' ∉ Nat.toDigits 10 number := by
  intro mem
  have digit := Nat.isDigit_of_mem_toDigits (by decide) (by decide) mem
  exact absurd digit (by decide)

theorem blank_not_mem_stamp {time : Nat} : ' ' ∉ (Word.stamp time).text := by
  intro mem
  rcases List.mem_append.mp mem with sec | fraction
  · exact blank_not_mem_toDigits sec
  · rcases List.mem_cons.mp fraction with point | fraction
    · exact absurd point (by decide)
    · rcases List.mem_append.mp fraction with padding | digit
      · exact absurd (List.eq_of_mem_replicate padding) (by decide)
      · exact blank_not_mem_toDigits digit

theorem replyCode_of_starts {time : Nat} {code behind : List Char} (clean : ' ' ∉ code) :
    replyCode ((Word.stamp time).text ++ ' ' :: (code ++ ' ' :: behind)) = code := by
  rw [replyCode, dropWhile_text blank_not_mem_stamp, List.drop_succ_cons, List.drop_zero,
    takeWhile_text clean]

theorem replyCode_timeout {now : Nat} : replyCode (srcpFmtMsg 417 now) = timeoutCode := by
  have text : srcpFmtMsg 417 now = (Word.stamp now).text ++
      ' ' :: (timeoutCode ++ ' ' :: ("ERROR timeout".toList ++ [newline])) := by
    simp [srcpFmtMsg, codeText, replyLine, timeoutCode]
    rfl
  rw [text, replyCode_of_starts (by decide)]

/-- The state of a contact does not look like a timeout. -/
theorem replyCode_infoFB {bus : Nat} {fb : Feedback.Fb} {port : Int} :
    replyCode (infoFB bus fb port) ≠ timeoutCode := by
  have hundred : (Word.int 100).text = ['1', '0', '0'] := by decide
  rw [infoFB, line, words_starts, List.append_assoc, List.cons_append, List.append_assoc,
    List.cons_append, hundred, replyCode_of_starts (by decide)]
  decide

/-! ## Contacts -/

section Polls

variable {sur : Surroundings} {course : Course} {bus : Nat} {device parameter : List Char}
  {port waitvalue timeout value : Int}

theorem polled_isPort (isPort : IsPort course bus port) (poll : Nat) :
    polled (course.site poll) bus port value = valueAt course bus port poll := by
  have inside : ¬ (port - 1 < 0 ∨
      ((course.site poll).server.tables.fb bus).numberOfFb ≤ port - 1) := by
    rw [course.ports]
    rw [IsPort] at isPort
    omega
  rw [polled, getFB, if_neg inside, valueAt]

/-- A contact that does not exist keeps the value that was there before. -/
theorem polled_missing (missing : ¬ IsPort course bus port) (poll : Nat) :
    polled (course.site poll) bus port value = value := by
  have outside : port - 1 < 0 ∨
      ((course.site poll).server.tables.fb bus).numberOfFb ≤ port - 1 := by
    rw [course.ports]
    rw [IsPort] at missing
    omega
  rw [polled, getFB, if_pos outside]

theorem waitFB_missing (missing : ¬ IsPort course bus port) :
    ∀ left poll, waitFB course bus port waitvalue left poll value =
      if value = waitvalue ∧ left ≠ 0 then some poll else none := by
  intro left
  induction left with
  | zero =>
      intro poll
      rw [if_neg fun both => both.2 rfl, waitFB]
  | succ left ih =>
      intro poll
      rw [waitFB, polled_missing missing]
      by_cases same : value = waitvalue
      · rw [if_pos same, if_pos ⟨same, Nat.succ_ne_zero left⟩]
      · rw [if_neg same, ih, if_neg fun both => same both.1, if_neg fun both => same both.1]

/-- The loop is answered at the poll that ends its list. -/
theorem polledFB_of_waitFB (isPort : IsPort course bus port) :
    ∀ left poll value found, waitFB course bus port waitvalue left poll value = some found →
      waitvalue ∈ polledFB course bus port waitvalue left poll ∧
        poll + (polledFB course bus port waitvalue left poll).length = found + 1 := by
  intro left
  induction left with
  | zero =>
      intro poll value found answered
      rw [waitFB] at answered
      cases answered
  | succ left ih =>
      intro poll value found answered
      rw [waitFB, polled_isPort isPort] at answered
      rw [polledFB]
      by_cases here : valueAt course bus port poll = waitvalue
      · rw [if_pos here] at answered ⊢
        cases answered
        exact ⟨List.mem_cons.mpr (Or.inl here.symm), rfl⟩
      · rw [if_neg here] at answered ⊢
        obtain ⟨mem, length⟩ := ih (poll + 1) _ found answered
        refine ⟨List.mem_cons_of_mem _ mem, ?_⟩
        rw [List.length_cons]
        omega

/-- The loop runs out of time when no poll before the last one sees the awaited value,
and then the last one is all that is left to see it. -/
theorem polledFB_of_waitFB_none (isPort : IsPort course bus port) :
    ∀ left poll value, waitFB course bus port waitvalue left poll value = none →
      (∀ other, poll ≤ other → other < poll + left → valueAt course bus port other ≠ waitvalue) ∧
        (waitvalue ∈ polledFB course bus port waitvalue left poll ↔
          valueAt course bus port (poll + left) = waitvalue) := by
  intro left
  induction left with
  | zero =>
      intro poll value silent
      constructor
      · intro other after before
        omega
      · rw [polledFB, List.mem_singleton, Nat.add_zero]
        exact eq_comm
  | succ left ih =>
      intro poll value silent
      rw [waitFB, polled_isPort isPort] at silent
      by_cases here : valueAt course bus port poll = waitvalue
      · rw [if_pos here] at silent
        cases silent
      · rw [if_neg here] at silent
        obtain ⟨before, last⟩ := ih (poll + 1) _ silent
        constructor
        · intro other after inTime
          rcases Nat.eq_or_lt_of_le after with rfl | after
          · exact here
          · exact before other after (by omega)
        · rw [polledFB, if_neg here, List.mem_cons, last, Nat.add_right_comm, Nat.add_assoc]
          exact or_iff_right (Ne.symm here)

/-- An answered loop has seen the value before its last poll. -/
theorem valueAt_of_waitFB (isPort : IsPort course bus port) :
    ∀ left poll value found, waitFB course bus port waitvalue left poll value = some found →
      poll ≤ found ∧ found < poll + left ∧ valueAt course bus port found = waitvalue := by
  intro left
  induction left with
  | zero =>
      intro poll value found answered
      rw [waitFB] at answered
      cases answered
  | succ left ih =>
      intro poll value found answered
      rw [waitFB, polled_isPort isPort] at answered
      by_cases here : valueAt course bus port poll = waitvalue
      · rw [if_pos here] at answered
        cases answered
        exact ⟨Nat.le_refl _, by omega, here⟩
      · rw [if_neg here] at answered
        obtain ⟨after, before, same⟩ := ih (poll + 1) _ found answered
        exact ⟨by omega, by omega, same⟩

theorem handleWaitFB_of_scan (scanned : scanLongs 3 parameter = [port, waitvalue, timeout]) :
    handleWaitFB sur course bus parameter =
      if IsPort course bus (int32 port) ∧
          polled (course.site 0) bus (int32 port) sur.value = int32 waitvalue then
        infoFB bus ((course.site 0).server.tables.fb bus) (int32 port)
      else
        match waitFB course bus (int32 port) (int32 waitvalue) (waitPolls timeout) 1
          (polled (course.site 0) bus (int32 port) sur.value) with
        | some poll => infoFB bus ((course.site poll).server.tables.fb bus) (int32 port)
        | none => srcpFmtMsg 417 sur.env.now := by
  rw [handleWaitFB, scanned]
  rfl

/-- A timeout is right where the awaited value was not seen. -/
theorem fbRight_timeout_iff {now : Nat} :
    FbRight course bus port waitvalue timeout (srcpFmtMsg 417 now) ↔
      waitvalue ∉ allPolled course bus port waitvalue timeout := by
  constructor
  · intro right
    exact right.code.mp replyCode_timeout
  · intro unseen
    exact ⟨iff_of_true replyCode_timeout unseen, fun seen => absurd seen unseen⟩

/-- The state of a contact is right at the poll that saw the awaited value. -/
theorem FbRight.of_seen {poll : Nat}
    (seen : waitvalue ∈ allPolled course bus port waitvalue timeout)
    (ends : (allPolled course bus port waitvalue timeout).length = poll + 1) :
    FbRight course bus port waitvalue timeout
      (infoFB bus ((course.site poll).server.tables.fb bus) port) where
  code := iff_of_false replyCode_infoFB fun unseen => unseen seen
  state := by
    intro _
    rw [ends, Nat.add_sub_cancel]

/-- What the first look at a contact leaves to the loop. -/
theorem allPolled_isPort (isPort : IsPort course bus port) :
    allPolled course bus port waitvalue timeout =
      valueAt course bus port 0 ::
        if valueAt course bus port 0 = waitvalue then []
        else polledFB course bus port waitvalue (waitPolls timeout) 1 :=
  if_pos isPort

/-- The loop for a contact whose first look did not see the awaited value. -/
theorem fbRight_waitFB_iff (isPort : IsPort course bus port)
    (first : valueAt course bus port 0 ≠ waitvalue) {now : Nat} :
    FbRight course bus port waitvalue timeout
        (match waitFB course bus port waitvalue (waitPolls timeout) 1 value with
        | some poll => infoFB bus ((course.site poll).server.tables.fb bus) port
        | none => srcpFmtMsg 417 now) ↔
      ¬ (valueAt course bus port (waitPolls timeout + 1) = waitvalue ∧
        ∀ poll ≤ waitPolls timeout, valueAt course bus port poll ≠ waitvalue) := by
  have polled : allPolled course bus port waitvalue timeout =
      valueAt course bus port 0 :: polledFB course bus port waitvalue (waitPolls timeout) 1 := by
    rw [allPolled_isPort isPort, if_neg first]
  cases answered : waitFB course bus port waitvalue (waitPolls timeout) 1 value with
  | some found =>
      obtain ⟨mem, length⟩ := polledFB_of_waitFB isPort _ _ _ _ answered
      obtain ⟨-, inTime, same⟩ := valueAt_of_waitFB isPort _ _ _ _ answered
      refine iff_of_true (FbRight.of_seen ?_ ?_) ?_
      · rw [polled]
        exact List.mem_cons_of_mem _ mem
      · rw [polled, List.length_cons]
        omega
      · rintro ⟨-, never⟩
        exact never found (by omega) same
  | none =>
      obtain ⟨before, last⟩ := polledFB_of_waitFB_none isPort _ _ _ answered
      have seen : waitvalue ∈ allPolled course bus port waitvalue timeout ↔
          valueAt course bus port (waitPolls timeout + 1) = waitvalue := by
        rw [polled, List.mem_cons, last, Nat.add_comm 1]
        exact or_iff_right (Ne.symm first)
      have never : ∀ poll ≤ waitPolls timeout, valueAt course bus port poll ≠ waitvalue := by
        intro poll inTime
        cases poll with
        | zero => exact first
        | succ poll => exact before (poll + 1) (by omega) (by omega)
      rw [fbRight_timeout_iff, seen, and_iff_left never]

theorem fbRight_handleWaitFB_iff
    (scanned : scanLongs 3 parameter = [port, waitvalue, timeout]) :
    FbRight course bus (int32 port) (int32 waitvalue) timeout
        (handleWaitFB sur course bus parameter) ↔
      ¬ FbMisses sur course bus (int32 port) (int32 waitvalue) timeout := by
  rw [handleWaitFB_of_scan scanned, FbMisses]
  by_cases isPort : IsPort course bus (int32 port)
  · rw [if_pos isPort, polled_isPort isPort]
    by_cases first : valueAt course bus (int32 port) 0 = int32 waitvalue
    · have polled : allPolled course bus (int32 port) (int32 waitvalue) timeout =
          [int32 waitvalue] := by
        rw [allPolled_isPort isPort, if_pos first, first]
      rw [if_pos ⟨isPort, first⟩]
      refine iff_of_true (FbRight.of_seen ?_ ?_) ?_
      · rw [polled]
        exact List.mem_singleton_self _
      · rw [polled]
        rfl
      · rintro ⟨-, never⟩
        exact never 0 (Nat.zero_le _) first
    · rw [if_neg fun both => first both.2]
      exact fbRight_waitFB_iff isPort first
  · have unseen : int32 waitvalue ∉
        allPolled course bus (int32 port) (int32 waitvalue) timeout := by
      rw [allPolled, if_neg isPort]
      exact List.not_mem_nil
    rw [if_neg isPort, if_neg fun both => isPort both.1, polled_missing isPort,
      waitFB_missing isPort]
    by_cases hits : sur.value = int32 waitvalue ∧ waitPolls timeout ≠ 0
    · rw [if_pos hits]
      refine iff_of_false ?_ fun misses => misses hits
      rintro ⟨code, -⟩
      exact replyCode_infoFB (code.mpr unseen)
    · rw [if_neg hits]
      exact iff_of_true (fbRight_timeout_iff.mpr unseen) hits

/-! ## Times -/

theorem returnsAt_iff (time : (course.site 0).groupOf bus device = some .time) {d h m s : Int}
    (scanned : scanLongs 4 parameter = [d, h, m, s])
    (available : timeIsAvailable (course.site 0).server.tables.clock = true) (poll : Nat) :
    ReturnsAt sur course bus device parameter (seconds d h m s) poll ↔
      ¬ mustwait course (seconds d h m s) poll ∧
        ∀ earlier < poll, mustwait course (seconds d h m s) earlier := by
  constructor
  · rintro ⟨fuel, found, -⟩
    obtain ⟨-, -, passed, before⟩ := (waitTIME_eq_some_iff fuel 0 poll).mp found
    exact ⟨passed, fun earlier => before earlier (Nat.zero_le _)⟩
  · rintro ⟨passed, before⟩
    have found : waitTIME course (seconds d h m s) (poll + 1) 0 = some poll :=
      (waitTIME_eq_some_iff (poll + 1) 0 poll).mpr
        ⟨Nat.zero_le _, by omega, passed, fun earlier _ => before earlier⟩
    refine ⟨poll + 1, found, ?_⟩
    simp only [handleWAIT, time, handleWaitTIME, scanned, if_pos available, found, Option.map_some]

/-- Two conditions are first met together if and only if they agree for as long as the second
has not been met. -/
theorem first_iff_first {met other : Nat → Prop} :
    (∀ poll, (met poll ∧ ∀ earlier < poll, ¬ met earlier) ↔
        (other poll ∧ ∀ earlier < poll, ¬ other earlier)) ↔
      ∀ poll, (∀ earlier < poll, ¬ other earlier) → (other poll ↔ met poll) := by
  constructor
  · intro same poll early
    have unmet : ∀ earlier < poll, ¬ met earlier := by
      intro earlier
      induction earlier using Nat.strong_induction_on with
      | _ earlier ih =>
          intro inTime now
          have first := (same earlier).mp ⟨now, fun less before => ih less before (by omega)⟩
          exact early earlier inTime first.1
    constructor
    · intro now
      exact ((same poll).mpr ⟨now, early⟩).1
    · intro now
      exact ((same poll).mp ⟨now, unmet⟩).1
  · intro agree
    have early : ∀ poll, (∀ earlier < poll, ¬ met earlier) → ∀ earlier < poll, ¬ other earlier := by
      intro poll unmet earlier
      induction earlier using Nat.strong_induction_on with
      | _ earlier ih =>
          intro inTime now
          have before := fun less smaller => ih less smaller (by omega)
          exact unmet earlier inTime ((agree earlier before).mp now)
    intro poll
    constructor
    · rintro ⟨now, unmet⟩
      exact ⟨(agree poll (early poll unmet)).mpr now, early poll unmet⟩
    · rintro ⟨now, unmet⟩
      refine ⟨(agree poll unmet).mp now, ?_⟩
      intro earlier inTime already
      have before : ∀ less < earlier, ¬ other less := fun less smaller => unmet less (by omega)
      exact unmet earlier inTime ((agree earlier before).mpr already)

/-- The loop ends at the first poll that has reached the target for as long as its
comparisons are right. -/
theorem firstReached_iff_returns {target : Int} :
    (∀ poll, (¬ mustwait course target poll ∧ ∀ earlier < poll, mustwait course target earlier) ↔
      FirstReached course target poll) ↔ ComparesRight course target := by
  have waits : ∀ poll, mustwait course target poll ↔
      ¬ long target < int32 (course.seconds poll) := fun poll => not_lt.symm
  simp only [waits, not_not]
  exact first_iff_first

/-- Numbers that are not too large are compared as the times are: wrong only when the time is
exactly the one waited for. -/
theorem comparesRight_iff_of_small {target : Int} (request : long target = target)
    (clock : ∀ poll, int32 (course.seconds poll) = course.seconds poll) :
    ComparesRight course target ↔
      ∀ poll, FirstReached course target poll → course.seconds poll ≠ target := by
  simp only [ComparesRight, request, clock]
  constructor
  · rintro right poll ⟨reached, early⟩ same
    have passed := (right poll early).mp reached
    omega
  · intro differs poll early
    constructor
    · intro reached
      have reached' : target ≤ course.seconds poll := reached
      have differs := differs poll ⟨reached, early⟩
      omega
    · intro passed
      exact le_of_lt passed

/-- The waiting commands do what they are for as long as the last poll and the exact
time do not decide, and no number is too large. -/
theorem waitsRight_iff (sur : Surroundings) (course : Course) (bus : Nat)
    (device parameter : List Char) :
    WaitsRight sur course bus device parameter ↔
      Undisturbed sur course bus device parameter := by
  constructor
  · rintro ⟨fb, time⟩
    constructor
    · intro group port waitvalue timeout scanned
      apply (fbRight_handleWaitFB_iff scanned).mp
      apply fb group port waitvalue timeout scanned 0
      simp only [handleWAIT, group, Option.mem_def]
    · intro group d h m s scanned available
      apply firstReached_iff_returns.mp
      intro poll
      rw [← returnsAt_iff group scanned available]
      exact time group d h m s scanned available poll
  · rintro ⟨fb, time⟩
    constructor
    · intro group port waitvalue timeout scanned fuel reply mem
      simp only [handleWAIT, group, Option.mem_def, Option.some.injEq] at mem
      subst mem
      exact (fbRight_handleWaitFB_iff scanned).mpr (fb group port waitvalue timeout scanned)
    · intro group d h m s scanned available poll
      rw [returnsAt_iff group scanned available]
      exact firstReached_iff_returns.mpr (time group d h m s scanned available) poll

end Polls

/-! ## A contact that closes, and a clock -/

/-- Contact 1 closes behind the first poll; the model time is one second at every
poll. -/
def closingSite (poll : Nat) : Site :=
  { startedSite with
    server := { startedServer with
      tables := { startedTables with
        clock := ⟨⟨0, 0, 0, 1⟩, ⟨1, 1⟩, .created⟩
        fb := fun _ => (Feedback.initFB 10 0 0).setState 0 ⟨0, if poll = 0 then 0 else 1, 0⟩ } }
    protocols := ⟨startedTables_dead.gl, startedTables_dead.ga⟩ }

/-- Between two polls somebody closes the contact. -/
def closingCourse : Course where
  site := closingSite
  ports := fun _ _ => rfl

/-- The second poll of `WAIT 1 FB 1 1 0` sees the awaited value, and the answer is a
timeout; `WAIT 0 TIME 0 0 0 1` waits although it is that time. -/
theorem not_waitsRight :
    ¬ WaitsRight startedSurroundings closingCourse 1 "FB".toList "1 1 0".toList ∧
      ¬ WaitsRight startedSurroundings closingCourse 0 "TIME".toList "0 0 0 1".toList := by
  constructor
  · rintro ⟨fb, -⟩
    have right := fb rfl 1 1 0 (by decide) 0 _ rfl
    refine (fbRight_handleWaitFB_iff (by decide)).mp right ?_
    have isPort : IsPort closingCourse 1 (int32 1) := by decide
    rw [FbMisses, if_pos isPort]
    constructor
    · rfl
    · intro poll first
      have none : waitPolls 0 = 0 := by decide
      rw [none, Nat.le_zero] at first
      subst first
      decide
  · rintro ⟨-, time⟩
    have right := time rfl 0 0 0 1 (by decide) rfl
    have compares : ComparesRight closingCourse (seconds 0 0 0 1) := by
      apply firstReached_iff_returns.mp
      intro poll
      rw [← right poll, returnsAt_iff rfl (by decide) rfl]
    have differs := (comparesRight_iff_of_small (by decide) fun poll => rfl).mp compares
    refine differs 0 ⟨Int.le_refl _, ?_⟩ rfl
    intro earlier less
    exact absurd less (Nat.not_lt_zero _)

end Srcpd.CmdClient
